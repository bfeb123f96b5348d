import VpuSim.Sim.SharedStore

/-!
# The buffers of the test program

The host keeps an element as an `int32_t` and a `float` and copies whole arrays of them to
and from the store.
-/

set_option linter.dupNamespace false

namespace VpuSim

open ByteMemory

/-- `uavElement`; the float is the pattern of its 32 bits. -/
structure UavElement where
  i : Int32
  f : UInt32
  deriving DecidableEq

def sizeofUavElement : Nat := 8

namespace UavElement

/-- The element of an array that its byte `k` belongs to. -/
def indexOf (k : Nat) : Fin 4 := ⟨k / sizeofUavElement % 4, Nat.mod_lt _ (Nat.succ_pos 3)⟩

/-- The bytes of an array of four elements. -/
def bytes (elements : Fin 4 → UavElement) (k : Nat) : UInt8 :=
  let element := elements (indexOf k)
  let word := if k % sizeofUavElement < 4 then element.i.toUInt32 else element.f
  UInt8.ofNat (word.toNat / 256 ^ (k % 4))

/-- The elements in an array of bytes. -/
def ofBytes (contents : Nat → UInt8) (index : Fin 4) : UavElement where
  i := .ofUInt32 (load32 contents (index.val * sizeofUavElement))
  f := load32 contents (index.val * sizeofUavElement + 4)

theorem load32_of_digits {contents : Nat → UInt8} {offset : Nat} {value : UInt32}
    (digits : ∀ k < 4, contents (offset + k) = UInt8.ofNat (value.toNat / 256 ^ k)) :
    load32 contents offset = value := by
  have bound : value.toNat < 256 ^ 4 := value.toNat_lt
  rw [load32, readLE_of_digits digits, Nat.mod_eq_of_lt bound, UInt32.ofNat_toNat]

theorem bytes_low (elements : Fin 4 → UavElement) (index : Fin 4) {k : Nat} (bound : k < 4) :
    bytes elements (index.val * sizeofUavElement + k) =
      UInt8.ofNat ((elements index).i.toUInt32.toNat / 256 ^ k) := by
  have few := index.isLt
  have element : indexOf (index.val * sizeofUavElement + k) = index := by
    apply Fin.ext
    simp only [indexOf, sizeofUavElement]
    omega
  have low : (index.val * sizeofUavElement + k) % sizeofUavElement < 4 := by
    simp only [sizeofUavElement]
    omega
  have digit : (index.val * sizeofUavElement + k) % 4 = k := by
    simp only [sizeofUavElement]
    omega
  simp only [bytes, element, if_pos low, digit]

theorem bytes_high (elements : Fin 4 → UavElement) (index : Fin 4) {k : Nat} (bound : k < 4) :
    bytes elements (index.val * sizeofUavElement + 4 + k) =
      UInt8.ofNat ((elements index).f.toNat / 256 ^ k) := by
  have few := index.isLt
  have element : indexOf (index.val * sizeofUavElement + 4 + k) = index := by
    apply Fin.ext
    simp only [indexOf, sizeofUavElement]
    omega
  have high : ¬ (index.val * sizeofUavElement + 4 + k) % sizeofUavElement < 4 := by
    simp only [sizeofUavElement]
    omega
  have digit : (index.val * sizeofUavElement + 4 + k) % 4 = k := by
    simp only [sizeofUavElement]
    omega
  simp only [bytes, element, if_neg high, digit]

/-- An array reads back from its bytes. -/
theorem ofBytes_bytes (elements : Fin 4 → UavElement) : ofBytes (bytes elements) = elements := by
  funext index
  have low := load32_of_digits fun _ bound => bytes_low elements index bound
  have high := load32_of_digits fun _ bound => bytes_high elements index bound
  rw [ofBytes, low, high]

/-- Bytes that agree on four elements hold the same elements. -/
theorem ofBytes_congr {first second : Nat → UInt8}
    (agree : ∀ k < 4 * sizeofUavElement, first k = second k) : ofBytes first = ofBytes second := by
  funext index
  have few := index.isLt
  have low : load32 first (index.val * sizeofUavElement) =
      load32 second (index.val * sizeofUavElement) := by
    apply load32_congr
    intro k bound
    apply agree
    simp only [sizeofUavElement]
    omega
  have high : load32 first (index.val * sizeofUavElement + 4) =
      load32 second (index.val * sizeofUavElement + 4) := by
    apply load32_congr
    intro k bound
    apply agree
    simp only [sizeofUavElement]
    omega
  rw [ofBytes, ofBytes, low, high]

end UavElement

end VpuSim
