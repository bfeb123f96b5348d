import VpuSim.Image.Load

/-!
# The order of the relocation table

Records with disjoint windows may stand in any order in the table, and what the
buffer held before does not matter: whether a load succeeds depends on the set of
types alone, and a load that succeeds leaves the same bytes.
-/

namespace VpuSim

open ByteMemory

/-- The four-byte windows of the two fixups have no byte in common. -/
def VpuRelocation.ApartFrom (first second : VpuRelocation) : Prop :=
  first.fixupOffset.toNat + 4 ≤ second.fixupOffset.toNat ∨
    second.fixupOffset.toNat + 4 ≤ first.fixupOffset.toNat

instance (first second : VpuRelocation) : Decidable (first.ApartFrom second) :=
  inferInstanceAs (Decidable (_ ∨ _))

theorem patches_apart {relocations : List VpuRelocation}
    (apart : relocations.Pairwise VpuRelocation.ApartFrom) :
    (relocations.map VpuRelocation.patch).Pairwise Store.Apart := by
  rw [List.pairwise_map]
  apply apart.imp
  intro first second separate
  exact Store.apart_of_le separate

namespace VpuImageHeader

/-- The table that `Load` finds behind the header of an image. -/
def table (image : Nat → UInt8) : List VpuRelocation :=
  relocationTable image (read image 0).relocationCount

/-- Two images of one header and one code that list the same relocations, each in an
order of its own. -/
structure SameUpToOrder (image other : Nat → UInt8) : Prop where
  header : read other 0 = read image 0
  table : (table image).Perm (table other)
  code : ∀ k < (read image 0).codeSize.toNat,
    image (codeOffset (read image 0).relocationCount + k) =
      other (codeOffset (read image 0).relocationCount + k)

section Load

variable {image other : Nat → UInt8} {size : UInt64}

/-- The buffer after the code of an image has been copied into it. -/
def copied (image : Nat → UInt8) (base : Memory) (size : UInt64) : Memory :=
  (read image 0).unrelocated
    (fun k => image (codeOffset (read image 0).relocationCount + k)) base size

theorem load_of_le (image : Nat → UInt8) (base : Memory)
    (fits : (read image 0).getImageSize ≤ size) :
    load image base size =
      ((table image).all fun relocation => decide relocation.Supported,
        (copied image base size).storeAll (performedPatches (table image))) :=
  loadParts_of_le (read image 0) (table image) _ base fits

theorem load_accepts_iff (image : Nat → UInt8) (base : Memory)
    (fits : (read image 0).getImageSize ≤ size) :
    (load image base size).1 = true ↔ ∀ relocation ∈ table image, relocation.Supported := by
  rw [load_of_le image base fits]
  simp

theorem byte_copied (image : Nat → UInt8) (base : Memory) (size : UInt64) (address : Nat) :
    (copied image base size).byte address =
      if address < (read image 0).codeSize.toNat then
        image (codeOffset (read image 0).relocationCount + address)
      else if address < size.toNat then 0 else base.byte address :=
  byte_unrelocated (read image 0) _ base size address

/-- In the buffer the copied code does not depend on what was there before. -/
theorem byte_copied_eq (same : SameUpToOrder image other) (first second : Memory)
    {k : Nat} (inBuffer : k < size.toNat) :
    (copied image first size).byte k = (copied other second size).byte k := by
  rw [byte_copied, byte_copied, same.header]
  by_cases inCode : k < (read image 0).codeSize.toNat
  · rw [if_pos inCode, if_pos inCode]
    exact same.code k inCode
  · rw [if_neg inCode, if_neg inCode, if_pos inBuffer, if_pos inBuffer]

/-- Copying the code again into a buffer and performing the same stores on it. -/
theorem replay_copied_again (image : Nat → UInt8) (base : Memory) (size : UInt64)
    (stores : List Store) {again : Memory}
    (held : again.byte = replay (copied image base size).byte stores) :
    replay (copied image again size).byte stores = replay (copied image base size).byte stores := by
  funext address
  rw [replay_eq_mostRecent, replay_eq_mostRecent]
  cases recent : mostRecent stores address with
  | some value => rfl
  | none =>
    have kept : again.byte address = (copied image base size).byte address := by
      rw [held, replay_eq_mostRecent, recent, Option.getD_none]
    rw [Option.getD_none, Option.getD_none, byte_copied, kept, byte_copied]
    split
    · rfl
    · split <;> rfl

theorem load_twice (image : Nat → UInt8) (base : Memory)
    (fits : (read image 0).getImageSize ≤ size) :
    (load image (load image base size).2 size).1 = (load image base size).1 ∧
      (load image (load image base size).2 size).2.byte = (load image base size).2.byte := by
  have once := load_of_le image base fits
  have twice := load_of_le image (load image base size).2 fits
  refine ⟨?_, ?_⟩
  · rw [twice, once]
  · rw [twice, once, Memory.byte_storeAll, Memory.byte_storeAll]
    exact replay_copied_again image base size _ (Memory.byte_storeAll _ _)

theorem load_same_of_accepted (same : SameUpToOrder image other)
    (apart : (table image).Pairwise VpuRelocation.ApartFrom) (first second : Memory)
    (fits : (read image 0).getImageSize ≤ size)
    (supported : ∀ relocation ∈ table image, relocation.Supported) {k : Nat}
    (inBuffer : k < size.toNat) :
    (load image first size).2.byte k = (load other second size).2.byte k := by
  have otherFits : (read other 0).getImageSize ≤ size := same.header.symm ▸ fits
  have otherSupported : ∀ relocation ∈ table other, relocation.Supported :=
    fun relocation member => supported relocation (same.table.mem_iff.mpr member)
  rw [load_of_le image first fits, load_of_le other second otherFits, Memory.byte_storeAll,
    Memory.byte_storeAll, performedPatches_of_all supported,
    performedPatches_of_all otherSupported]
  calc replay (copied image first size).byte ((table image).map VpuRelocation.patch) k
      = replay (copied image first size).byte ((table other).map VpuRelocation.patch) k := by
        rw [replay_perm (same.table.map VpuRelocation.patch) (patches_apart apart)]
    _ = replay (copied other second size).byte ((table other).map VpuRelocation.patch) k :=
        replay_congr _ (byte_copied_eq same first second inBuffer)

/-- Neither the order of the table nor the prior contents of the buffer show in what a
load answers and leaves, and a second load of an image changes nothing. -/
theorem load_independent (same : SameUpToOrder image other)
    (apart : (table image).Pairwise VpuRelocation.ApartFrom) (first second : Memory)
    (fits : (read image 0).getImageSize ≤ size) :
    (load image first size).1 = (load other second size).1 ∧
      ((load image first size).1 = true ↔ ∀ relocation ∈ table image, relocation.Supported) ∧
      ((load image first size).1 = true →
        ∀ k < size.toNat, (load image first size).2.byte k = (load other second size).2.byte k) ∧
      (load image (load image first size).2 size).1 = (load image first size).1 ∧
      (load image (load image first size).2 size).2.byte = (load image first size).2.byte := by
  have otherFits : (read other 0).getImageSize ≤ size := same.header.symm ▸ fits
  have accepts := load_accepts_iff image first fits
  have otherAccepts := load_accepts_iff other second otherFits
  refine ⟨?_, accepts, ?_, load_twice image first fits⟩
  · rw [Bool.eq_iff_iff, accepts, otherAccepts]
    exact forall_congr' fun relocation => imp_congr_left same.table.mem_iff
  · intro accepted k inBuffer
    exact load_same_of_accepted same apart first second fits (accepts.mp accepted) inBuffer

end Load

/-- Eight bytes of code with two references, whose records stand in either order. -/
def imageInOrder (first second : VpuRelocation) : Nat → UInt8 :=
  let header := write (.holding fun _ => 0x90) 0 ⟨8, 0, 72, 2⟩ fun _ => 0xCC
  (VpuRelocation.write (VpuRelocation.write header (relocationOffset 0) first)
    (relocationOffset 1) second).byte

theorem read_imageInOrder (first second : VpuRelocation) :
    read (imageInOrder first second) 0 = ⟨8, 0, 72, 2⟩ := by
  refine (read_congr ?_).trans (read_write (.holding fun _ => 0x90) 0 ⟨8, 0, 72, 2⟩ fun _ => 0xCC)
  intro k bound
  have before : ∀ index, 0 + k < relocationOffset index := by
    intro index
    simp only [relocationOffset, sizeofVpuImageHeader]
    omega
  rw [imageInOrder, VpuRelocation.byte_write_outside _ _ _ (.inl (before 1)),
    VpuRelocation.byte_write_outside _ _ _ (.inl (before 0))]

theorem table_imageInOrder (first second : VpuRelocation) :
    table (imageInOrder first second) = [first, second] := by
  rw [table, read_imageInOrder]
  apply relocationTable_eq rfl
  intro index bound
  match index with
  | 0 =>
    have record := VpuRelocation.read_write
      (write (.holding fun _ => 0x90) 0 ⟨8, 0, 72, 2⟩ fun _ => 0xCC) (relocationOffset 0) first
    refine Eq.trans (VpuRelocation.read_congr ?_) record
    intro k inRecord
    apply VpuRelocation.byte_write_outside
    exact .inl (Nat.add_lt_add_left inRecord _)
  | 1 => exact VpuRelocation.read_write _ _ second

theorem code_imageInOrder (first second : VpuRelocation) (k : Nat) :
    imageInOrder first second (codeOffset 2 + k) = 0x90 := by
  have after : ∀ offset length, offset + length ≤ 80 → offset + length ≤ codeOffset 2 + k :=
    fun _ _ bounded => bounded.trans (Nat.le_add_right 80 k)
  rw [imageInOrder,
    VpuRelocation.byte_write_outside _ _ _ (.inr (after (relocationOffset 1) 24 (by decide))),
    VpuRelocation.byte_write_outside _ _ _ (.inr (after (relocationOffset 0) 24 (by decide))),
    byte_write_outside _ _ _ _ (.inr (after 0 32 (by decide))), Memory.byte_holding]

theorem sameUpToOrder_imageInOrder (first second : VpuRelocation) :
    SameUpToOrder (imageInOrder first second) (imageInOrder second first) := by
  constructor
  · rw [read_imageInOrder, read_imageInOrder]
  · rw [table_imageInOrder, table_imageInOrder]
    exact .swap second first []
  · intro k _
    rw [read_imageInOrder, code_imageInOrder, code_imageInOrder]

theorem load_independent_small :
    let image := imageInOrder ⟨4, 0, 4096⟩ ⟨4, 4, 0⟩
    let other := imageInOrder ⟨4, 4, 0⟩ ⟨4, 0, 4096⟩
    let first := Memory.holding fun _ => 0
    let second := Memory.holding fun _ => 0xFF
    (load image first 8192).1 = (load other second 8192).1 ∧
      ((load image first 8192).1 = true ↔ ∀ relocation ∈ table image, relocation.Supported) ∧
      ((load image first 8192).1 = true →
        ∀ k < (8192 : UInt64).toNat,
          (load image first 8192).2.byte k = (load other second 8192).2.byte k) ∧
      (load image (load image first 8192).2 8192).1 = (load image first 8192).1 ∧
      (load image (load image first 8192).2 8192).2.byte = (load image first 8192).2.byte :=
  @load_independent (imageInOrder ⟨4, 0, 4096⟩ ⟨4, 4, 0⟩) (imageInOrder ⟨4, 4, 0⟩ ⟨4, 0, 4096⟩)
    8192 (sameUpToOrder_imageInOrder _ _) (by rw [table_imageInOrder]; decide)
    (.holding fun _ => 0) (.holding fun _ => 0xFF) (by rw [read_imageInOrder]; decide)

end VpuImageHeader

end VpuSim
