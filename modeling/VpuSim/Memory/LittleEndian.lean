import Mathlib.Tactic.Ring
import VpuSim.Memory.Store

/-!
# Little-endian words in memory

`readLE` assembles an unsigned word from consecutive bytes and `Memory.storeLE`
stores one. The fixed-width loads and stores are these two at widths 2, 4 and 8.
-/

namespace ByteMemory

/-- The unsigned word in the `width` bytes from `offset` on, least byte first. -/
def readLE (contents : Nat → UInt8) (offset : Nat) : Nat → Nat
  | 0 => 0
  | width + 1 => (contents offset).toNat + 256 * readLE contents (offset + 1) width

/-- Windows of equal bytes, wherever they lie, hold the same word. -/
theorem readLE_congr {first second : Nat → UInt8} {offset other width : Nat}
    (agree : ∀ k < width, first (offset + k) = second (other + k)) :
    readLE first offset width = readLE second other width := by
  induction width generalizing offset other with
  | zero => rfl
  | succ width ih =>
    have rest : readLE first (offset + 1) width = readLE second (other + 1) width := by
      apply ih
      intro k bound
      rw [Nat.add_right_comm, Nat.add_right_comm other, Nat.add_assoc, Nat.add_assoc]
      exact agree (k + 1) (by omega)
    have head : first offset = second other := agree 0 (Nat.zero_lt_succ width)
    rw [readLE, readLE, rest, head]

/-- Bytes that are the base-256 digits of `value` read back as `value`. -/
theorem readLE_of_digits {contents : Nat → UInt8} {offset width value : Nat}
    (digits : ∀ k < width, contents (offset + k) = UInt8.ofNat (value / 256 ^ k)) :
    readLE contents offset width = value % 256 ^ width := by
  induction width generalizing offset value with
  | zero => simp [readLE, Nat.mod_one]
  | succ width ih =>
    have rest : readLE contents (offset + 1) width = value / 256 % 256 ^ width := by
      apply ih
      intro k bound
      rw [Nat.add_right_comm, Nat.add_assoc, digits (k + 1) (by omega), pow_succ',
        Nat.div_div_eq_div_mul]
    have head : (contents offset).toNat = value % 256 := by
      have first := digits 0 (Nat.zero_lt_succ width)
      rw [Nat.add_zero, pow_zero, Nat.div_one] at first
      rw [first, UInt8.toNat_ofNat']
    rw [readLE, rest, head, pow_succ', Nat.mod_mul]

theorem readLE_lt (contents : Nat → UInt8) (offset width : Nat) :
    readLE contents offset width < 256 ^ width := by
  induction width generalizing offset with
  | zero => simp [readLE]
  | succ width ih =>
    have head : (contents offset).toNat < 256 := UInt8.toNat_lt _
    have rest := ih (offset + 1)
    rw [readLE, pow_succ']
    omega

/-- A word determines the bytes it was assembled from. -/
theorem readLE_inj {first second : Nat → UInt8} {offset other width : Nat}
    (same : readLE first offset width = readLE second other width) :
    ∀ k < width, first (offset + k) = second (other + k) := by
  induction width generalizing offset other with
  | zero =>
    intro k impossible
    cases impossible
  | succ width ih =>
    have firstHead : (first offset).toNat < 256 := UInt8.toNat_lt _
    have secondHead : (second other).toNat < 256 := UInt8.toNat_lt _
    simp only [readLE] at same
    have head : first offset = second other := UInt8.toNat_inj.mp (by omega)
    have rest : ∀ k < width, first (offset + 1 + k) = second (other + 1 + k) := ih (by omega)
    intro k bound
    cases k with
    | zero => exact head
    | succ k =>
      have later := rest k (Nat.lt_of_succ_lt_succ bound)
      rwa [Nat.add_assoc, Nat.add_assoc, Nat.add_comm 1] at later

def load16 (contents : Nat → UInt8) (offset : Nat) : UInt16 :=
  UInt16.ofNat (readLE contents offset 2)

def load32 (contents : Nat → UInt8) (offset : Nat) : UInt32 :=
  UInt32.ofNat (readLE contents offset 4)

def load64 (contents : Nat → UInt8) (offset : Nat) : UInt64 :=
  UInt64.ofNat (readLE contents offset 8)

theorem load16_congr {first second : Nat → UInt8} {offset other : Nat}
    (agree : ∀ k < 2, first (offset + k) = second (other + k)) :
    load16 first offset = load16 second other := by
  rw [load16, load16, readLE_congr agree]

theorem load32_congr {first second : Nat → UInt8} {offset other : Nat}
    (agree : ∀ k < 4, first (offset + k) = second (other + k)) :
    load32 first offset = load32 second other := by
  rw [load32, load32, readLE_congr agree]

theorem load64_congr {first second : Nat → UInt8} {offset other : Nat}
    (agree : ∀ k < 8, first (offset + k) = second (other + k)) :
    load64 first offset = load64 second other := by
  rw [load64, load64, readLE_congr agree]

theorem load16_eq_iff {first second : Nat → UInt8} {offset other : Nat} :
    load16 first offset = load16 second other ↔
      ∀ k < 2, first (offset + k) = second (other + k) := by
  refine ⟨?_, load16_congr⟩
  intro same
  have firstWord : readLE first offset 2 < 2 ^ 16 := readLE_lt first offset 2
  have secondWord : readLE second other 2 < 2 ^ 16 := readLE_lt second other 2
  rw [load16, load16, ← UInt16.toNat_inj, UInt16.toNat_ofNat', UInt16.toNat_ofNat',
    Nat.mod_eq_of_lt firstWord, Nat.mod_eq_of_lt secondWord] at same
  exact readLE_inj same

theorem load32_eq_iff {first second : Nat → UInt8} {offset other : Nat} :
    load32 first offset = load32 second other ↔
      ∀ k < 4, first (offset + k) = second (other + k) := by
  refine ⟨?_, load32_congr⟩
  intro same
  have firstWord : readLE first offset 4 < 2 ^ 32 := readLE_lt first offset 4
  have secondWord : readLE second other 4 < 2 ^ 32 := readLE_lt second other 4
  rw [load32, load32, ← UInt32.toNat_inj, UInt32.toNat_ofNat', UInt32.toNat_ofNat',
    Nat.mod_eq_of_lt firstWord, Nat.mod_eq_of_lt secondWord] at same
  exact readLE_inj same

theorem load64_eq_iff {first second : Nat → UInt8} {offset other : Nat} :
    load64 first offset = load64 second other ↔
      ∀ k < 8, first (offset + k) = second (other + k) := by
  refine ⟨?_, load64_congr⟩
  intro same
  have firstWord : readLE first offset 8 < 2 ^ 64 := readLE_lt first offset 8
  have secondWord : readLE second other 8 < 2 ^ 64 := readLE_lt second other 8
  rw [load64, load64, ← UInt64.toNat_inj, UInt64.toNat_ofNat', UInt64.toNat_ofNat',
    Nat.mod_eq_of_lt firstWord, Nat.mod_eq_of_lt secondWord] at same
  exact readLE_inj same

/-- The store of the low `width` bytes of `value`. -/
def Store.ofNat (offset width value : Nat) : Store :=
  ⟨offset, width, fun k => UInt8.ofNat (value / 256 ^ k)⟩

@[simp]
theorem Store.ofNat_offset (offset width value : Nat) :
    (Store.ofNat offset width value).offset = offset := rfl

@[simp]
theorem Store.ofNat_length (offset width value : Nat) :
    (Store.ofNat offset width value).length = width := rfl

/-- A word that no other store of the log overlaps reads back. -/
theorem load32_replay_of_apart {log : List Store} (apart : log.Pairwise Store.Apart)
    {offset : Nat} {value : UInt32} (member : .ofNat offset 4 value.toNat ∈ log)
    (contents : Nat → UInt8) : load32 (replay contents log) offset = value := by
  have word : readLE (replay contents log) offset 4 = value.toNat % 256 ^ 4 := by
    apply readLE_of_digits
    intro k bound
    have covered : (Store.ofNat offset 4 value.toNat).Covers (offset + k) :=
      ⟨Nat.le_add_right _ _, Nat.add_lt_add_left bound _⟩
    rw [replay_of_apart apart member covered, Store.ofNat_offset, Nat.add_sub_cancel_left]
    rfl
  have bound : value.toNat < 256 ^ 4 := value.toNat_lt
  rw [load32, word, Nat.mod_eq_of_lt bound, UInt32.ofNat_toNat]

namespace Memory

def storeLE (memory : Memory) (offset width value : Nat) : Memory :=
  memory.store (.ofNat offset width value)

def store16 (memory : Memory) (offset : Nat) (value : UInt16) : Memory :=
  memory.storeLE offset 2 value.toNat

def store32 (memory : Memory) (offset : Nat) (value : UInt32) : Memory :=
  memory.storeLE offset 4 value.toNat

def store64 (memory : Memory) (offset : Nat) (value : UInt64) : Memory :=
  memory.storeLE offset 8 value.toNat

variable (memory : Memory) (offset : Nat)

@[simp]
theorem log_storeLE (width value : Nat) :
    (memory.storeLE offset width value).log =
      memory.log ++ [.ofNat offset width value] := rfl

@[simp]
theorem log_store16 (value : UInt16) :
    (memory.store16 offset value).log = memory.log ++ [.ofNat offset 2 value.toNat] := rfl

@[simp]
theorem log_store32 (value : UInt32) :
    (memory.store32 offset value).log = memory.log ++ [.ofNat offset 4 value.toNat] := rfl

@[simp]
theorem log_store64 (value : UInt64) :
    (memory.store64 offset value).log = memory.log ++ [.ofNat offset 8 value.toNat] := rfl

theorem byte_storeLE (width value address : Nat) :
    (memory.storeLE offset width value).byte address =
      if offset ≤ address ∧ address < offset + width
      then UInt8.ofNat (value / 256 ^ (address - offset)) else memory.byte address := by
  rw [storeLE, byte_store]
  rfl

theorem byte_storeLE_outside (width value : Nat) {address : Nat}
    (outside : address < offset ∨ offset + width ≤ address) :
    (memory.storeLE offset width value).byte address = memory.byte address := by
  rw [byte_storeLE, if_neg (by omega)]

theorem byte_store16_outside (value : UInt16) {address : Nat}
    (outside : address < offset ∨ offset + 2 ≤ address) :
    (memory.store16 offset value).byte address = memory.byte address :=
  byte_storeLE_outside memory offset 2 value.toNat outside

theorem byte_store32_outside (value : UInt32) {address : Nat}
    (outside : address < offset ∨ offset + 4 ≤ address) :
    (memory.store32 offset value).byte address = memory.byte address :=
  byte_storeLE_outside memory offset 4 value.toNat outside

theorem byte_store64_outside (value : UInt64) {address : Nat}
    (outside : address < offset ∨ offset + 8 ≤ address) :
    (memory.store64 offset value).byte address = memory.byte address :=
  byte_storeLE_outside memory offset 8 value.toNat outside

theorem readLE_storeLE (width value : Nat) :
    readLE (memory.storeLE offset width value).byte offset width = value % 256 ^ width := by
  apply readLE_of_digits
  intro k bound
  rw [byte_storeLE, if_pos (by omega), Nat.add_sub_cancel_left]

theorem load64_storeLE_apart {other width : Nat} (value : Nat)
    (apart : offset + 8 ≤ other ∨ other + width ≤ offset) :
    load64 (memory.storeLE other width value).byte offset = load64 memory.byte offset := by
  apply load64_congr
  intro k bound
  exact byte_storeLE_outside memory other width value (by omega)

theorem load32_storeLE_apart {other width : Nat} (value : Nat)
    (apart : offset + 4 ≤ other ∨ other + width ≤ offset) :
    load32 (memory.storeLE other width value).byte offset = load32 memory.byte offset := by
  apply load32_congr
  intro k bound
  exact byte_storeLE_outside memory other width value (by omega)

theorem load64_store16_apart {other : Nat} (value : UInt16)
    (apart : offset + 8 ≤ other ∨ other + 2 ≤ offset) :
    load64 (memory.store16 other value).byte offset = load64 memory.byte offset :=
  load64_storeLE_apart memory offset value.toNat apart

theorem load64_store32_apart {other : Nat} (value : UInt32)
    (apart : offset + 8 ≤ other ∨ other + 4 ≤ offset) :
    load64 (memory.store32 other value).byte offset = load64 memory.byte offset :=
  load64_storeLE_apart memory offset value.toNat apart

theorem load64_store64_apart {other : Nat} (value : UInt64)
    (apart : offset + 8 ≤ other ∨ other + 8 ≤ offset) :
    load64 (memory.store64 other value).byte offset = load64 memory.byte offset :=
  load64_storeLE_apart memory offset value.toNat apart

theorem load32_store64_apart {other : Nat} (value : UInt64)
    (apart : offset + 4 ≤ other ∨ other + 8 ≤ offset) :
    load32 (memory.store64 other value).byte offset = load32 memory.byte offset :=
  load32_storeLE_apart memory offset value.toNat apart

@[simp]
theorem load16_store16 (value : UInt16) :
    load16 (memory.store16 offset value).byte offset = value := by
  have bound : value.toNat < 256 ^ 2 := value.toNat_lt
  rw [load16, store16, readLE_storeLE, Nat.mod_eq_of_lt bound, UInt16.ofNat_toNat]

@[simp]
theorem load32_store32 (value : UInt32) :
    load32 (memory.store32 offset value).byte offset = value := by
  have bound : value.toNat < 256 ^ 4 := value.toNat_lt
  rw [load32, store32, readLE_storeLE, Nat.mod_eq_of_lt bound, UInt32.ofNat_toNat]

@[simp]
theorem load64_store64 (value : UInt64) :
    load64 (memory.store64 offset value).byte offset = value := by
  have bound : value.toNat < 256 ^ 8 := value.toNat_lt
  rw [load64, store64, readLE_storeLE, Nat.mod_eq_of_lt bound, UInt64.ofNat_toNat]

end Memory

end ByteMemory
