import Mathlib.Data.UInt
import VpuSim.Compiler.Resolution

/-!
# Loading what was packaged

The loader reads back the parts that the packager wrote. With disjoint fixup
windows every reference then has its displacement, and the rest of the code is
the section's. The in-place addend of a reference is overwritten, not added.
-/

namespace VpuSim

open ByteMemory Rounding

/-- A relocation list of 64-bit relative references with separate windows. -/
structure Rel32Table (text : CoffSection) : Prop where
  few : text.relocations.length ≤ 65535
  rel32 : ∀ relocation ∈ text.relocations, relocation.type = imageRelAmd64Rel32.toUInt64
  inside : ∀ relocation ∈ text.relocations, relocation.InsideOf text
  apart : text.relocations.Pairwise CoffRelocation.ApartFrom

namespace Rel32Table

variable {text : CoffSection}

theorem supported (table : Rel32Table text) :
    ∀ relocation ∈ text.relocations.map (CoffRelocation.record text), relocation.Supported := by
  intro record member
  obtain ⟨relocation, inText, rfl⟩ := List.mem_map.mp member
  refine .inr ?_
  rw [CoffRelocation.record, table.rel32 relocation inText]
  rfl

/-- The patches of the table, in the order of the loop. -/
def patches (text : CoffSection) : List Store :=
  (text.relocations.map (CoffRelocation.record text)).map VpuRelocation.patch

theorem patches_apart (table : Rel32Table text) : (patches text).Pairwise Store.Apart := by
  rw [patches, List.map_map, List.pairwise_map]
  refine table.apart.imp ?_
  intro first second separate
  exact Store.apart_of_le separate

theorem patch_mem {relocation : CoffRelocation} (member : relocation ∈ text.relocations) :
    (relocation.record text).patch ∈ patches text :=
  List.mem_map_of_mem (List.mem_map_of_mem member)

theorem not_covers_of_not_touches {address : Nat}
    (outside : ∀ relocation ∈ text.relocations, ¬ relocation.Touches address) :
    ∀ store ∈ patches text, ¬ store.Covers address := by
  intro store member
  rw [patches, List.map_map] at member
  obtain ⟨relocation, inText, rfl⟩ := List.mem_map.mp member
  exact outside relocation inText

/-- No window reaches past the code. -/
theorem not_touches (table : Rel32Table text) {address : Nat}
    (past : text.size.toNat ≤ address) :
    ∀ relocation ∈ text.relocations, ¬ relocation.Touches address := by
  intro relocation member touches
  have below := touches.2.trans_le (table.inside relocation member)
  exact absurd below (Nat.not_lt.mpr past)

section Loaded

variable {package : Packaging} (table : Rel32Table text) (holds : package.Holds text)
  (base : Memory) {size : UInt64} (fits : package.header.getImageSize ≤ size)

include table holds fits

theorem load_eq_patched :
    VpuImageHeader.load package.blob.byte base size =
      (true, (package.header.unrelocated
        (fun k => package.blob.byte (codeOffset package.header.relocationCount + k))
        base size).storeAll (patches text)) := by
  have all := List.all_eq_true.mpr fun relocation member =>
    decide_eq_true (table.supported relocation member)
  rw [holds.load_eq, VpuImageHeader.loadParts_of_le _ _ _ _ fits,
    VpuImageHeader.performedPatches_of_all table.supported, all]
  rfl

theorem load32_fixup {relocation : CoffRelocation} (member : relocation ∈ text.relocations) :
    load32 (VpuImageHeader.load package.blob.byte base size).2.byte relocation.offset.toNat =
      (relocation.record text).displacement := by
  rw [load_eq_patched table holds base fits, Memory.byte_storeAll]
  exact load32_replay_of_apart table.patches_apart (patch_mem member) _

theorem byte_outside {address : Nat}
    (outside : ∀ relocation ∈ text.relocations, ¬ relocation.Touches address) :
    (VpuImageHeader.load package.blob.byte base size).2.byte address =
      if address < text.size.toNat then
        package.blob.byte (codeOffset package.header.relocationCount + address)
      else if address < size.toNat then 0 else base.byte address := by
  rw [load_eq_patched table holds base fits, Memory.byte_storeAll,
    replay_of_not_covers (not_covers_of_not_touches outside),
    VpuImageHeader.byte_unrelocated, holds.codeSize]

end Loaded

end Rel32Table

/-- The image of `text` in a buffer of `size` bytes that held `base`. -/
structure LoadedImage (text : CoffSection) (contents : List UInt8) (base : Memory)
    (size : UInt64) (outcome : Bool × Memory) : Prop where
  accepted : outcome.1 = true
  code : ∀ k < text.size.toNat, (∀ relocation ∈ text.relocations, ¬ relocation.Touches k) →
    outcome.2.byte k = contents.getD k 0
  fixups : ∀ relocation ∈ text.relocations,
    (relocation.offset.toNat : Int) + 4
        + (load32 outcome.2.byte relocation.offset.toNat).toBitVec.toInt =
      if relocation.symbol.name = some tlsSymbol then (roundUp 4096 text.size.toNat : Int)
      else relocation.symbol.value.toNat
  cleared : ∀ k, text.size.toNat ≤ k → k < size.toNat → outcome.2.byte k = 0
  untouched : ∀ k, size.toNat ≤ k → outcome.2.byte k = base.byte k

theorem toNat_target {text : CoffSection} (small : text.size.toNat < 2 ^ 32)
    (relocation : CoffRelocation) :
    (relocation.target text).toNat =
      if relocation.symbol.name = some tlsSymbol then roundUp 4096 text.size.toNat
      else relocation.symbol.value.toNat := by
  rw [CoffRelocation.target]
  split
  · exact VpuImageHeader.toNat_alignUp (by omega)
  · exact UInt32.toNat_toUInt64 _

/-- Packaging an accepted object and loading the blob yields its image, and the
header still names the entry point. -/
theorem load_packageImage {file : CoffObject} (wellFormed : file.WellFormed)
    {obj : VpuObject} (opened : VpuObject.new.openFile (.coff file) = (true, obj))
    {text : CoffSection} (code : obj.code = some text) (table : Rel32Table text)
    {contents : List UInt8} (readable : text.contents = some contents)
    (refers : ∀ relocation ∈ text.relocations, relocation.symbol.name = some tlsSymbol ∨
      relocation.symbol.value.toNat < text.size.toNat)
    {allocation : BlobAllocation} {package : Packaging}
    (packaged : packageImage obj allocation = some package)
    (base : Memory) {size : UInt64} (fits : package.header.getImageSize ≤ size)
    (small : package.header.getImageSize.toNat < 2 ^ 31) :
    LoadedImage text contents base size (VpuImageHeader.load package.blob.byte base size) ∧
      VpuImageHeader.read package.blob.byte 0 = package.header ∧
      package.header.getTlsOffset.toNat = roundUp 4096 text.size.toNat ∧
      obj.getSymbolValue "main" = some package.header.getEntryOffset ∧
      obj.getSymbolValue tlsSymbol = some package.header.tlsSize := by
  have openedFrom := VpuObject.openedFrom_of_code opened code
  have holds := holds_of_packageImage wellFormed openedFrom packaged table.few
  have textSize := wellFormed.sectionSize text openedFrom.textMember
  have imageSize := VpuImageHeader.toNat_getImageSize holds.fits
  have inImage : roundUp 4096 text.size.toNat < 2 ^ 31 := by
    rw [holds.codeSize] at imageSize
    omega
  have codeInImage : text.size.toNat < 2 ^ 31 :=
    Nat.lt_of_le_of_lt (le_roundUp (by decide)) inImage
  refine ⟨?_, holds.header, ?_, ?_⟩
  · constructor
    · rw [table.load_eq_patched holds base fits]
    · intro k bound outside
      rw [table.byte_outside holds base fits outside, if_pos bound]
      exact holds.code contents readable k bound
    · intro relocation member
      have window := table.inside relocation member
      have target := toNat_target textSize relocation
      have reference : (relocation.record text).referenceOffset.toNat < 2 ^ 31 := by
        change (relocation.target text).toNat < 2 ^ 31
        rw [target]
        split
        · exact inImage
        · rename_i notTls
          exact ((refers relocation member).resolve_left notTls).trans codeInImage
      rw [table.load32_fixup holds base fits member,
        ← Nat.cast_ite, ← target]
      exact VpuRelocation.fixup_add_displacement (window.trans codeInImage.le) reference
    · intro k above below
      rw [table.byte_outside holds base fits (table.not_touches above),
        if_neg (Nat.not_lt.mpr above), if_pos below]
    · intro k above
      have codeEnd : text.size.toNat ≤ size.toNat :=
        holds.codeSize ▸ UInt64.le_iff_toNat_le.mp
          (VpuImageHeader.codeSize_le_of_fits holds.fits fits)
      rw [table.byte_outside holds base fits (table.not_touches (codeEnd.trans above)),
        if_neg (by omega), if_neg (by omega)]
  · rw [VpuImageHeader.toNat_getTlsOffset holds.fits, holds.codeSize]
  · obtain ⟨entryOffset, tlsSize, mainFound, tlsFound, rfl⟩ := packageImage_some packaged
    rw [fillBlob_header]
    exact ⟨mainFound, tlsFound⟩

theorem testTable : Rel32Table testText :=
  ⟨by decide, by decide, by decide, by decide⟩

theorem load_packageImage_test :
    LoadedImage testText (testCode 0 0) (.holding fun _ => 0xFF) 12288
        (VpuImageHeader.load testPackage.blob.byte (.holding fun _ => 0xFF) 12288) ∧
      VpuImageHeader.read testPackage.blob.byte 0 = testPackage.header ∧
      testPackage.header.getTlsOffset.toNat = roundUp 4096 80 ∧
      testObject.getSymbolValue "main" = some testPackage.header.getEntryOffset ∧
      testObject.getSymbolValue tlsSymbol = some testPackage.header.tlsSize :=
  @load_packageImage testFile (by decide) testObject (by rfl) testText rfl testTable _ rfl
    (by decide) (.filled 0xCD) testPackage (by rfl) _ _ (by decide) (by decide)

/-- The word that `text` holds at a fixup: for a COFF reference, its addend. -/
def CoffRelocation.addend (text : CoffSection) (relocation : CoffRelocation) : UInt32 :=
  load32 (fun k => (text.contents.getD []).getD k 0) relocation.offset.toNat

theorem displacement_record (text : CoffSection) (relocation : CoffRelocation) :
    (relocation.record text).displacement =
      (relocation.target text).toUInt32 - relocation.offset.toUInt32 - 4 := by
  rw [VpuRelocation.displacement, UInt64.toUInt32_sub, UInt64.toUInt32_sub]
  rfl

/-- The word at the fixup `P` of a reference to `S` with addend `A`. -/
def coffRel32 (s a p : UInt32) : UInt32 := s + a - (p + 4)

theorem sub_sub_eq_coffRel32_iff (s a p : UInt32) : s - p - 4 = coffRel32 s a p ↔ a = 0 := by
  rw [coffRel32]
  grind

/-- After loading, the references of an image have their COFF meaning exactly when
no reference has an addend. -/
theorem coffRel32_loaded_iff {file : CoffObject} (wellFormed : file.WellFormed)
    {obj : VpuObject} (opened : VpuObject.new.openFile (.coff file) = (true, obj))
    {text : CoffSection} (code : obj.code = some text) (table : Rel32Table text)
    {allocation : BlobAllocation} {package : Packaging}
    (packaged : packageImage obj allocation = some package)
    (base : Memory) {size : UInt64}
    (loaded : (VpuImageHeader.load package.blob.byte base size).1 = true) :
    (∀ relocation ∈ text.relocations,
      load32 (VpuImageHeader.load package.blob.byte base size).2.byte relocation.offset.toNat =
        coffRel32 (relocation.target text).toUInt32 (relocation.addend text)
          relocation.offset.toUInt32) ↔
      ∀ relocation ∈ text.relocations, relocation.addend text = 0 := by
  have openedFrom := VpuObject.openedFrom_of_code opened code
  have holds := holds_of_packageImage wellFormed openedFrom packaged table.few
  have fits := holds.fits_of_load loaded
  refine forall₂_congr fun relocation member => ?_
  rw [table.load32_fixup holds base fits member, displacement_record]
  exact sub_sub_eq_coffRel32_iff _ _ _

theorem coffRel32_loaded_iff_test :
    (∀ relocation ∈ testText.relocations,
      load32 (VpuImageHeader.load testPackage.blob.byte (.holding fun _ => 0xFF) 12288).2.byte
          relocation.offset.toNat =
        coffRel32 (relocation.target testText).toUInt32 (relocation.addend testText)
          relocation.offset.toUInt32) ↔
      ∀ relocation ∈ testText.relocations, relocation.addend testText = 0 :=
  @coffRel32_loaded_iff testFile (by decide) testObject (by rfl) testText rfl testTable
    (.filled 0xCD) testPackage (by rfl) _ _ (by decide)

/-- A reference to `g_tls + 8` is loaded as a reference to `g_tls`. -/
theorem coffRel32_lost_addend :
    (smallFile 8).WellFormed ∧
      VpuObject.new.openFile (.coff (smallFile 8)) = (true, smallObject 8) ∧
      packageImage (smallObject 8) (.filled 0) = some (smallPackage 8) ∧
      (VpuImageHeader.load (smallPackage 8).blob.byte (.holding fun _ => 0xFF) 8192).1 = true ∧
      ¬ ∀ relocation ∈ (smallText 8).relocations,
        load32 (VpuImageHeader.load (smallPackage 8).blob.byte (.holding fun _ => 0xFF) 8192).2.byte
            relocation.offset.toNat =
          coffRel32 (relocation.target (smallText 8)).toUInt32
            (relocation.addend (smallText 8)) relocation.offset.toUInt32 :=
  ⟨by decide, by rfl, by rfl, by decide, by decide⟩

end VpuSim
