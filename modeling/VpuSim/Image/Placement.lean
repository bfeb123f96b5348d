import VpuSim.Image.Order

/-!
# An image in the process memory

The host loads an image at an address of its own memory. The stores of the loader are
those it performs on a buffer, placed at that address, and they depend on nothing behind
the code of the image.
-/

namespace VpuSim

open ByteMemory

namespace VpuImageHeader

/-- Whether `Load` returns true for a buffer of `size` bytes. -/
def accepts (image : Nat → UInt8) (size : UInt64) : Bool :=
  decide ((read image 0).getImageSize ≤ size) &&
    (table image).all fun relocation => decide relocation.Supported

/-- The stores that `Load` performs on a buffer of `size` bytes. -/
def loadStores (image : Nat → UInt8) (size : UInt64) : List Store :=
  if (read image 0).getImageSize ≤ size then
    [⟨0, size.toNat, fun _ => 0⟩, ⟨0, (read image 0).codeSize.toNat,
      fun k => image (codeOffset (read image 0).relocationCount + k)⟩] ++
      performedPatches (table image)
  else []

theorem load_eq_storeAll (image : Nat → UInt8) (base : Memory) (size : UInt64) :
    load image base size = (accepts image size, base.storeAll (loadStores image size)) := by
  by_cases fits : (read image 0).getImageSize ≤ size
  · rw [load_of_le image base fits, accepts, loadStores, if_pos fits, decide_eq_true fits,
      ← Memory.storeAll_storeAll, Memory.storeAll_cons, Memory.storeAll_cons,
      Memory.storeAll_nil]
    rfl
  · rw [load, loadParts_of_lt _ _ _ _ (UInt64.not_le.mp fits), accepts, loadStores, if_neg fits,
      decide_eq_false fits, Memory.storeAll_nil]
    rfl

theorem accepts_iff {image : Nat → UInt8} {size : UInt64} :
    accepts image size = true ↔ (read image 0).getImageSize ≤ size ∧
      ∀ relocation ∈ table image, relocation.Supported := by
  simp [accepts]

/-- `Load` into the `size` bytes of the process memory from `base` on; they and the windows of
the fixups are taken to be addresses. -/
def loadAt (image : Nat → UInt8) (memory : Memory) (base : UInt64) (size : UInt64) :
    Bool × Memory :=
  let (loaded, buffer) := load image (.holding fun k => memory.byte (base.toNat + k)) size
  (loaded, memory.storeAll (buffer.log.map fun store => store.shift base.toNat))

variable {image : Nat → UInt8} {memory : Memory} {base size : UInt64}

theorem loadAt_eq (image : Nat → UInt8) (memory : Memory) (base size : UInt64) :
    loadAt image memory base size = (accepts image size,
      memory.storeAll ((loadStores image size).map fun store => store.shift base.toNat)) := by
  rw [loadAt, load_eq_storeAll]
  rfl

/-- From `base` on the memory holds what a buffer holds that was loaded by itself. -/
theorem byte_loadAt (image : Nat → UInt8) (memory : Memory) (base size : UInt64) (k : Nat) :
    (loadAt image memory base size).2.byte (base.toNat + k) =
      (load image (.holding fun k => memory.byte (base.toNat + k)) size).2.byte k := by
  rw [loadAt_eq, load_eq_storeAll, Memory.byte_storeAll, Memory.byte_storeAll,
    replay_map_shift, Memory.byte_holding]

/-- Nothing of what a buffer held before is left in it. -/
theorem byte_load_eq (fits : (read image 0).getImageSize ≤ size) (first second : Memory) {k : Nat}
    (inBuffer : k < size.toNat) :
    (load image first size).2.byte k = (load image second size).2.byte k := by
  rw [load_of_le image first fits, load_of_le image second fits, Memory.byte_storeAll,
    Memory.byte_storeAll]
  apply replay_congr
  rw [byte_copied, byte_copied, if_pos inBuffer, if_pos inBuffer]

/-- The loader looks at the header, the table and the code of an image, and at nothing else. -/
theorem load_congr {other : Nat → UInt8} (header : read other 0 = read image 0)
    (entries : table other = table image)
    (code : ∀ k < (read image 0).codeSize.toNat,
      other (codeOffset (read image 0).relocationCount + k) =
        image (codeOffset (read image 0).relocationCount + k))
    (base : Memory) (size : UInt64) :
    (load other base size).1 = (load image base size).1 ∧
      ∀ address, (load other base size).2.byte address = (load image base size).2.byte address := by
  by_cases fits : (read image 0).getImageSize ≤ size
  · have otherFits : (read other 0).getImageSize ≤ size := by
      rw [header]
      exact fits
    rw [load_of_le image base fits, load_of_le other base otherFits, entries]
    refine ⟨rfl, ?_⟩
    intro address
    rw [Memory.byte_storeAll, Memory.byte_storeAll]
    apply replay_congr
    rw [byte_copied, byte_copied, header]
    split
    · rename_i inCode
      exact code _ inCode
    · rfl
  · have small := UInt64.not_le.mp fits
    have otherSmall : size < (read other 0).getImageSize := by
      rw [header]
      exact small
    rw [load, load, loadParts_of_lt _ _ _ _ small, loadParts_of_lt _ _ _ _ otherSmall]
    exact ⟨rfl, fun _ => rfl⟩

/-- The loader keeps to a buffer of the image's own size. -/
structure KeepsInside (image : Nat → UInt8) : Prop where
  fits : (read image 0).FitsAddressSpace
  windows : ∀ relocation ∈ table image,
    relocation.fixupOffset.toNat + 4 ≤ (read image 0).getImageSize.toNat

/-- The loader keeps to a buffer that has room for the code and for the windows it reaches. -/
theorem within_loadStores (code : (read image 0).codeSize ≤ size)
    (windows : ∀ relocation ∈ (table image).takeWhile fun relocation => decide relocation.Supported,
      relocation.fixupOffset.toNat + 4 ≤ size.toNat) :
    ∀ store ∈ loadStores image size, store.offset + store.length ≤ size.toNat := by
  intro store member
  rw [loadStores] at member
  split at member
  · rcases List.mem_append.mp member with inCopies | inPatches
    · simp only [List.mem_cons, List.not_mem_nil, or_false] at inCopies
      rcases inCopies with rfl | rfl
      · exact Nat.le_of_eq (Nat.zero_add _)
      · rw [Nat.zero_add, ← UInt64.le_iff_toNat_le]
        exact code
    · obtain ⟨relocation, reached, rfl⟩ := List.mem_map.mp inPatches
      exact windows relocation reached
  · cases member

theorem byte_loadAt_outside
    (within : ∀ store ∈ loadStores image size, store.offset + store.length ≤ size.toNat)
    {address : Nat} (outside : address < base.toNat ∨ base.toNat + size.toNat ≤ address) :
    (loadAt image memory base size).2.byte address = memory.byte address := by
  rw [loadAt_eq, Memory.byte_storeAll, replay_of_not_covers]
  intro store member
  obtain ⟨placed, isStore, rfl⟩ := List.mem_map.mp member
  have inBuffer := within placed isStore
  rintro ⟨start, finish⟩
  simp only [Store.shift] at start finish
  omega

theorem KeepsInside.within (inside : KeepsInside image) :
    ∀ store ∈ loadStores image (read image 0).getImageSize,
      store.offset + store.length ≤ (read image 0).getImageSize.toNat := by
  apply within_loadStores (codeSize_le_of_fits inside.fits (UInt64.le_refl _))
  intro relocation reached
  exact inside.windows relocation ((List.takeWhile_sublist _).subset reached)

theorem KeepsInside.byte_loadAt_outside (inside : KeepsInside image) {address : Nat}
    (outside : address < base.toNat ∨
      base.toNat + (read image 0).getImageSize.toNat ≤ address) :
    (loadAt image memory base (read image 0).getImageSize).2.byte address =
      memory.byte address :=
  VpuImageHeader.byte_loadAt_outside inside.within outside

end VpuImageHeader

end VpuSim
