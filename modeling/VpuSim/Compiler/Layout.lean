import VpuSim.Compiler.Resolution

/-!
# The layout of a packaged blob

The blob is sized from the count in the header, the loop runs over the relocations
of the object. The two agree as long as sixteen bits hold the number of relocations.
-/

namespace VpuSim

open ByteMemory

/-- `length` bytes of a blob from `start` on. -/
structure Region where
  start : Nat
  length : Nat

namespace Region

def finish (region : Region) : Nat := region.start + region.length

def Before (first second : Region) : Prop := first.finish ≤ second.start

end Region

/-- The header, the records of `relocations` relocations and the code. -/
def VpuImageHeader.regions (header : VpuImageHeader) (relocations : Nat) : List Region :=
  ⟨0, sizeofVpuImageHeader⟩ ::
    ((List.range relocations).map (fun index => ⟨relocationOffset index, sizeofVpuRelocation⟩) ++
      [⟨codeOffset header.relocationCount, header.codeSize.toNat⟩])

/-- Nothing is written outside the blob and the loader sees every relocation. -/
structure Packaging.Complete (package : Packaging) (obj : VpuObject) (relocations : Nat) :
    Prop where
  counted : package.header.relocationCount.toNat = relocations
  disjoint : (package.header.regions relocations).Pairwise Region.Before
  inside : ∀ region ∈ package.header.regions relocations,
    region.finish ≤ package.header.getSerializationSize.toNat
  stores : ∀ store ∈ package.blob.log, ∃ region ∈ package.header.regions relocations,
    store.LiesIn region.start region.length
  loaded : package.success = true →
    relocationTable package.blob.byte
        (VpuImageHeader.read package.blob.byte 0).relocationCount =
      obj.relocations.map (packagedRelocation obj package.header)

namespace VpuImageHeader

variable {header : VpuImageHeader} {relocations : Nat}

theorem mem_regions_iff {region : Region} :
    region ∈ header.regions relocations ↔
      region = ⟨0, sizeofVpuImageHeader⟩ ∨
      (∃ k < relocations, region = ⟨relocationOffset k, sizeofVpuRelocation⟩) ∨
      region = ⟨codeOffset header.relocationCount, header.codeSize.toNat⟩ := by
  simp only [regions, List.mem_cons, List.mem_append, List.mem_map, List.mem_range,
    List.not_mem_nil, or_false, @eq_comm _ _ region]

theorem toNat_getSerializationSize
    (bounded : 32 + 24 * header.relocationCount.toNat + header.codeSize.toNat < 2 ^ 64) :
    header.getSerializationSize.toNat =
      codeOffset header.relocationCount + header.codeSize.toNat := by
  rw [getSerializationSize, UInt64.toNat_add, UInt64.toNat_add, UInt64.toNat_mul,
    UInt16.toNat_toUInt64]
  simp only [codeOffset, relocationOffset, sizeofVpuImageHeader, sizeofVpuRelocation,
    UInt64.toNat_ofNat']
  omega

/-- Each record ends where the next one or the code starts. -/
theorem record_finish_le {k limit : Nat} (bound : k < limit) :
    (Region.mk (relocationOffset k) sizeofVpuRelocation).finish ≤ relocationOffset limit :=
  (relocationOffset_succ k).symm.le.trans (relocationOffset_mono bound)

theorem regions_disjoint (counted : header.relocationCount.toNat = relocations) :
    (header.regions relocations).Pairwise Region.Before := by
  have headerEnd : ∀ k, (Region.mk 0 sizeofVpuImageHeader).finish ≤ relocationOffset k :=
    fun k => relocationOffset_mono (Nat.zero_le k)
  refine List.pairwise_cons.mpr ⟨?_, List.pairwise_append.mpr ⟨?_, ?_, ?_⟩⟩
  · intro region member
    rcases List.mem_append.mp member with inTable | inCode
    · obtain ⟨k, _, rfl⟩ := List.mem_map.mp inTable
      exact headerEnd k
    · rw [List.mem_singleton] at inCode
      subst inCode
      exact headerEnd _
  · rw [List.pairwise_map]
    exact List.pairwise_lt_range.imp record_finish_le
  · exact List.pairwise_singleton ..
  · intro record inTable code inCode
    obtain ⟨k, inRange, rfl⟩ := List.mem_map.mp inTable
    rw [List.mem_singleton] at inCode
    subst inCode
    exact record_finish_le (counted ▸ List.mem_range.mp inRange)

theorem regions_inside (counted : header.relocationCount.toNat = relocations)
    (bounded : 32 + 24 * relocations + header.codeSize.toNat < 2 ^ 64) :
    ∀ region ∈ header.regions relocations,
      region.finish ≤ header.getSerializationSize.toNat := by
  subst counted
  rw [toNat_getSerializationSize bounded]
  intro region member
  rcases mem_regions_iff.mp member with rfl | ⟨k, bound, rfl⟩ | rfl
  · exact Nat.le_add_right_of_le (relocationOffset_mono (Nat.zero_le _))
  · exact Nat.le_add_right_of_le (record_finish_le bound)
  · exact Nat.le_refl _

end VpuImageHeader

theorem complete_fillBlob {obj : VpuObject} {header : VpuImageHeader}
    (counted : header.relocationCount.toNat = obj.relocations.length)
    (bounded : 32 + 24 * obj.relocations.length + header.codeSize.toNat < 2 ^ 64)
    (allocation : BlobAllocation) :
    (fillBlob obj header allocation).Complete obj obj.relocations.length := by
  constructor
  · rw [fillBlob_header, counted]
  · rw [fillBlob_header]
    exact VpuImageHeader.regions_disjoint counted
  · rw [fillBlob_header]
    exact VpuImageHeader.regions_inside counted bounded
  · intro store member
    rw [fillBlob_header]
    rcases mem_log_fillBlob obj header allocation member with lies | ⟨k, bound, lies⟩ | lies
    · exact ⟨_, VpuImageHeader.mem_regions_iff.mpr (.inl rfl), lies⟩
    · exact ⟨_, VpuImageHeader.mem_regions_iff.mpr (.inr (.inl ⟨k, bound, rfl⟩)), lies⟩
    · exact ⟨_, VpuImageHeader.mem_regions_iff.mpr (.inr (.inr rfl)), lies⟩
  · intro success
    rw [fillBlob_header, read_header_fillBlob]
    exact relocationTable_fillBlob obj header allocation success counted.symm

/-- What is packaged is complete exactly up to 65535 relocations. -/
theorem packageImage_complete_iff {file : CoffObject} {obj : VpuObject}
    (opened : VpuObject.new.openFile (.coff file) = (true, obj)) {text : CoffSection}
    (code : obj.code = some text)
    (bounded : 32 + 24 * text.relocations.length + text.size.toNat < 2 ^ 64)
    (allocation : BlobAllocation) :
    (∀ package, packageImage obj allocation = some package →
      package.Complete obj text.relocations.length) ↔
      obj.getSymbolValue "main" = none ∨ obj.getSymbolValue tlsSymbol = none ∨
        text.relocations.length ≤ 65535 := by
  have openedFrom := VpuObject.openedFrom_of_code opened code
  rw [← openedFrom.length_relocations] at bounded ⊢
  constructor
  · intro complete
    cases mainFound : obj.getSymbolValue "main" with
    | none => exact .inl rfl
    | some entryOffset =>
      cases tlsFound : obj.getSymbolValue tlsSymbol with
      | none => exact .inr (.inl rfl)
      | some tlsSize =>
        have counted := (complete _
          (packageImage_of_lookups mainFound tlsFound allocation)).counted
        exact .inr (.inr (counted ▸ Nat.le_of_lt_succ (UInt16.toNat_lt _)))
  · intro condition package packaged
    obtain ⟨entryOffset, tlsSize, mainFound, tlsFound, rfl⟩ := packageImage_some packaged
    rw [mainFound, tlsFound] at condition
    rcases condition with impossible | impossible | few
    · cases impossible
    · cases impossible
    · refine complete_fillBlob (toNat_relocationCount few) ?_ allocation
      rwa [packagedHeader, openedFrom.getCodeSize_eq]

theorem packageImage_complete_iff_small :
    (∀ package, packageImage (smallObject 0) (.filled 0) = some package →
      package.Complete (smallObject 0) 1) ↔
      (smallObject 0).getSymbolValue "main" = none ∨
        (smallObject 0).getSymbolValue tlsSymbol = none ∨ 1 ≤ 65535 :=
  @packageImage_complete_iff (smallFile 0) (smallObject 0) (by rfl) (smallText 0) rfl
    (by decide) (.filled 0)

/-- The small object with `count` relocations. -/
def crowdedText (count : Nat) : CoffSection :=
  { smallText 0 with
    relocations :=
      List.replicate count ⟨0, 4, ⟨some "g_tls", 72, 0, 0, some .data, 72, noNul_gTls⟩⟩ }

def crowdedFile (count : Nat) : CoffObject :=
  { smallFile 0 with sections := [crowdedText count] }

def crowdedObject (count : Nat) : VpuObject where
  loaded := true
  code := some (crowdedText count)
  symbolTable := [("g_tls", 72), ("main", 0)]
  relocations := (crowdedText count).relocations.map VpuObjRelocation.ofCoff

theorem length_crowdedText (count : Nat) : (crowdedText count).relocations.length = count := by
  simp [crowdedText]

theorem openFile_crowdedFile (count : Nat) :
    VpuObject.new.openFile (.coff (crowdedFile count)) = (true, crowdedObject count) := by
  have symbols : loadSymbolTable (crowdedFile count).symbols [] =
      (true, [("g_tls", 72), ("main", 0)]) := by rfl
  have text : findText (crowdedFile count).sections none =
      (true, some (crowdedText count)) := by rfl
  have relocations := @loadRelocations_of_named (crowdedText count).relocations
    (by simp [crowdedText]) (by simp [crowdedText]) []
  simp only [VpuObject.openFile, VpuObject.new, symbols, text, relocations, crowdedObject,
    List.nil_append]

theorem not_complete_crowdedObject {count : Nat} (many : 65535 < count) :
    ¬ ∀ package, packageImage (crowdedObject count) (.filled 0) = some package →
      package.Complete (crowdedObject count) count := by
  intro complete
  have packaged := @packageImage_of_lookups (crowdedObject count) 0 72 (by rfl) (by rfl)
    (.filled 0)
  have counted := (complete _ packaged).counted
  have cut := UInt16.toNat_lt (fillBlob (crowdedObject count)
    (packagedHeader (crowdedObject count) 0 72) (.filled 0)).header.relocationCount
  omega

/-- The count of 65536 relocations does not survive its field. -/
theorem packageImage_not_complete :
    VpuObject.new.openFile (.coff (crowdedFile 65536)) = (true, crowdedObject 65536) ∧
      (crowdedText 65536).relocations.length = 65536 ∧
      32 + 24 * 65536 + (crowdedText 65536).size.toNat < 2 ^ 64 ∧
      ¬ ∀ package, packageImage (crowdedObject 65536) (.filled 0) = some package →
        package.Complete (crowdedObject 65536) 65536 :=
  ⟨openFile_crowdedFile 65536, length_crowdedText 65536, by decide,
    not_complete_crowdedObject (by decide)⟩

end VpuSim
