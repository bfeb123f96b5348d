import VpuSim.Image.Load

/-!
# Where the loader writes

`Load` guards all its writes by one comparison of `size` with the wrapping image
size. The fixup offsets of the table are not compared with anything, and a page
rounding that wraps makes the image look smaller than its code.
-/

namespace VpuSim

open ByteMemory

namespace VpuImageHeader

/-- What a caller with `size` bytes at the destination relies on. -/
structure SafeOutcome (header : VpuImageHeader) (relocations : List VpuRelocation)
    (size : UInt64) (outcome : Bool × Memory) : Prop where
  writes : ∀ store ∈ outcome.2.log, store.Within size.toNat
  accepted : outcome.1 = true →
    header.codeSize ≤ size ∧
    header.getTlsOffset.toNat + header.tlsSize.toNat ≤ size.toNat ∧
    ∀ relocation ∈ relocations, relocation.fixupOffset.toNat + 4 ≤ size.toNat
  refused : (¬ header.FitsAddressSpace ∨
      ∃ relocation ∈ relocations, size.toNat < relocation.fixupOffset.toNat + 4) →
    outcome.1 = false

/-- `Load` keeps to `SafeOutcome` on this image, buffer and size. -/
def SafeLoad (image contents : Nat → UInt8) (size : UInt64) : Prop :=
  SafeOutcome (read image 0) (relocationTable image (read image 0).relocationCount) size
    (load image (.holding contents) size)

/-- The sizes and tables with which `Load` behaves safely: it refuses outright, or
every fixup it reaches is inside the buffer and the sizes either do not wrap or
belong to a table with an unsupported relocation and to code that fits. -/
def HandledSafely (header : VpuImageHeader) (relocations : List VpuRelocation)
    (size : UInt64) : Prop :=
  size < header.getImageSize ∨
    (∀ relocation ∈ relocations.takeWhile fun relocation => decide relocation.Supported,
      relocation.fixupOffset.toNat + 4 ≤ size.toNat) ∧
    (header.FitsAddressSpace ∨
      header.codeSize ≤ size ∧ ∃ relocation ∈ relocations, ¬ relocation.Supported)

theorem patch_within_iff (relocation : VpuRelocation) (size : Nat) :
    relocation.patch.Within size ↔ relocation.fixupOffset.toNat + 4 ≤ size := by
  rw [Store.within_iff]
  simp [VpuRelocation.patch]

section Parts

variable {header : VpuImageHeader} {relocations : List VpuRelocation} {code : Nat → UInt8}
  {base : Memory} {size : UInt64}

/-- Past the size check the loader clears, copies and patches, in this order. -/
theorem mem_log_loadParts (large : header.getImageSize ≤ size) (store : Store) :
    store ∈ (header.loadParts relocations code base size).2.log ↔
      store ∈ base.log ∨ store = ⟨0, size.toNat, fun _ => 0⟩ ∨
        store = ⟨0, header.codeSize.toNat, code⟩ ∨
        ∃ relocation ∈ relocations.takeWhile fun relocation => decide relocation.Supported,
          store = relocation.patch := by
  rw [loadParts_of_le header relocations code base large]
  simp only [unrelocated, Memory.log_storeAll, Memory.log_copy, Memory.log_fill,
    List.mem_append, List.mem_singleton, performedPatches, List.mem_map, or_assoc, eq_comm]

theorem loadParts_accepts_iff (large : header.getImageSize ≤ size) :
    (header.loadParts relocations code base size).1 = true ↔
      ∀ relocation ∈ relocations, relocation.Supported := by
  rw [loadParts_of_le header relocations code base large]
  simp

theorem loadParts_writes_iff (large : header.getImageSize ≤ size) (empty : base.log = []) :
    (∀ store ∈ (header.loadParts relocations code base size).2.log, store.Within size.toNat) ↔
      header.codeSize ≤ size ∧
        ∀ relocation ∈ relocations.takeWhile fun relocation => decide relocation.Supported,
          relocation.fixupOffset.toNat + 4 ≤ size.toNat := by
  constructor
  · intro within
    have copied : (⟨0, header.codeSize.toNat, code⟩ : Store).Within size.toNat :=
      within _ ((mem_log_loadParts large _).mpr (.inr (.inr (.inl rfl))))
    refine ⟨?_, ?_⟩
    · rw [UInt64.le_iff_toNat_le]
      rcases Store.within_iff.mp copied with zero | bounded
      · rw [show header.codeSize.toNat = 0 from zero]
        exact Nat.zero_le _
      · simpa using bounded
    · intro relocation member
      exact (patch_within_iff relocation size.toNat).mp
        (within _ ((mem_log_loadParts large _).mpr (.inr (.inr (.inr ⟨relocation, member, rfl⟩)))))
  · rintro ⟨codeFits, windows⟩ store member
    rw [mem_log_loadParts large, empty] at member
    rcases member with inBase | rfl | rfl | ⟨relocation, reached, rfl⟩
    · cases inBase
    · exact Store.within_of_le (Nat.le_of_eq (Nat.zero_add _))
    · refine Store.within_of_le ?_
      rw [Nat.zero_add]
      exact UInt64.le_iff_toNat_le.mp codeFits
    · exact (patch_within_iff relocation size.toNat).mpr (windows relocation reached)

end Parts

theorem safeOutcome_of_small {header : VpuImageHeader} {relocations : List VpuRelocation}
    {code contents : Nat → UInt8} {size : UInt64} (small : size < header.getImageSize) :
    SafeOutcome header relocations size
      (header.loadParts relocations code (.holding contents) size) := by
  rw [loadParts_of_lt header relocations code (.holding contents) small]
  constructor
  · intro store member
    cases member
  · intro loaded
    cases loaded
  · intro _
    rfl

theorem safeOutcome_iff_of_large {header : VpuImageHeader} {relocations : List VpuRelocation}
    {code contents : Nat → UInt8} {size : UInt64} (large : header.getImageSize ≤ size) :
    SafeOutcome header relocations size
        (header.loadParts relocations code (.holding contents) size) ↔
      (∀ relocation ∈ relocations.takeWhile fun relocation => decide relocation.Supported,
        relocation.fixupOffset.toNat + 4 ≤ size.toNat) ∧
      (header.FitsAddressSpace ∨
        header.codeSize ≤ size ∧ ∃ relocation ∈ relocations, ¬ relocation.Supported) := by
  have accepts := @loadParts_accepts_iff header relocations code (.holding contents) size large
  have writes := @loadParts_writes_iff header relocations code (.holding contents) size large rfl
  constructor
  · rintro ⟨within, _, refused⟩
    rw [writes] at within
    refine ⟨within.2, ?_⟩
    by_cases fits : header.FitsAddressSpace
    · exact .inl fits
    · have rejected := refused (.inl fits)
      rw [Bool.eq_false_iff, ne_eq, accepts, not_forall] at rejected
      obtain ⟨relocation, unsupported⟩ := rejected
      exact .inr ⟨within.1, relocation, Classical.not_imp.mp unsupported⟩
  · rintro ⟨windows, sizes⟩
    have codeFits : header.codeSize ≤ size := by
      rcases sizes with fits | ⟨codeFits, _⟩
      · exact codeSize_le_of_fits fits large
      · exact codeFits
    constructor
    · exact writes.mpr ⟨codeFits, windows⟩
    · rw [accepts]
      intro supported
      refine ⟨codeFits, ?_, ?_⟩
      · rcases sizes with fits | ⟨_, relocation, member, unsupported⟩
        · exact (getTlsOffset_add_tlsSize_le fits).trans (UInt64.le_iff_toNat_le.mp large)
        · exact absurd (supported relocation member) unsupported
      · rwa [takeWhile_supported supported] at windows
    · rw [Bool.eq_false_iff, ne_eq, accepts]
      rintro unsafeImage supported
      rcases unsafeImage with wraps | ⟨relocation, member, outside⟩
      · rcases sizes with fits | ⟨_, other, otherMember, unsupported⟩
        · exact wraps fits
        · exact unsupported (supported other otherMember)
      · rw [takeWhile_supported supported] at windows
        exact absurd (windows relocation member) (Nat.not_le.mpr outside)

/-- `Load` is safe on exactly the headers, tables and sizes of `HandledSafely`. -/
theorem safeLoad_iff (image contents : Nat → UInt8) (size : UInt64) :
    SafeLoad image contents size ↔
      HandledSafely (read image 0) (relocationTable image (read image 0).relocationCount) size := by
  by_cases small : size < (read image 0).getImageSize
  · exact iff_of_true (safeOutcome_of_small small) (.inl small)
  · have large := UInt64.not_lt.mp small
    refine (safeOutcome_iff_of_large large).trans ⟨.inr, ?_⟩
    rintro (contradictory | handled)
    · exact absurd contradictory small
    · exact handled

/-- Four bytes of code and a TLS block of 72, with one fixup just past two pages. -/
def imageWithFarFixup : Nat → UInt8 :=
  (((write (.holding fun _ => 0) 0 ⟨4, 0, 72, 1⟩ fun _ => 0).store32 (relocationOffset 0)
    imageRelAmd64Rel32).store64 (relocationOffset 0 + 8) 8192).byte

/-- No code is announced as fitting into no buffer: the rounding wraps to zero. -/
def imageWithWrappingCode : Nat → UInt8 :=
  (write (.holding fun _ => 0) 0 ⟨0xFFFFFFFFFFFFFFFF, 0, 0, 0⟩ fun _ => 0).byte

/-- A two-page buffer is written at its end, and an empty one over the whole
address space. -/
theorem not_safeLoad :
    ¬ SafeLoad imageWithFarFixup (fun _ => 0) 8192 ∧
      ¬ SafeLoad imageWithWrappingCode (fun _ => 0) 0 := by
  constructor
  · intro safe
    have windows := (safe.accepted (by decide)).2.2
    exact absurd windows (by decide)
  · intro safe
    exact absurd (safe.accepted (by decide)).1 (by decide)

end VpuImageHeader

end VpuSim
