import Mathlib.Data.List.Forall2
import VpuSim.Compiler.Resolution
import VpuSim.Shader.Binary

/-!
# Two ways to load one program

An object that can be opened as a shader binary and packaged as an image gives the
same code pages either way: both paths record the same relocations, and patching
in the same order makes the same bytes, overlapping windows included.
-/

namespace VpuSim

open ByteMemory Rounding

/-- What linking the object promises about it, and that the 32-bit path rounds its
sizes as the 64-bit path does. -/
structure Linked (file : CoffObject) (text : CoffSection) (tlsSize : UInt64) : Prop where
  few : text.relocations.length ≤ 65535
  inside : ∀ relocation ∈ text.relocations, relocation.InsideOf text
  defined : ∀ relocation ∈ text.relocations, ¬ relocation.symbol.Undefined
  tlsData : ∀ symbol ∈ file.primarySymbols, symbol.name = some tlsSymbol →
    symbol.type ≠ some .function
  codeRounds : roundUp 4096 text.size.toNat < 2 ^ 32
  tlsRounds : roundUp 4096 tlsSize.toNat < 2 ^ 32

namespace VpuShaderBinary

/-- Both paths record the same relocation. -/
theorem record_eq_of_records {file : CoffObject} (wellFormed : file.WellFormed)
    {text : CoffSection} (textMember : text ∈ file.sections) {tlsSize : UInt64}
    (linked : Linked file text tlsSize) {fuel : Nat} {tlsOffset : UInt32}
    (sameTls : tlsOffset.toUInt64 =
      VpuImageHeader.alignUp text.size VpuImageHeader.kVpuImageCodeAlignment)
    {relocation : CoffRelocation} (member : relocation ∈ text.relocations)
    {record : VpuRelocation} (records : Records file fuel tlsOffset relocation record) :
    relocation.record text = record := by
  obtain ⟨name, type, offset, resolved, rfl⟩ := records
  have primary := wellFormed.relocationSymbol text textMember relocation member
  have window : relocation.offset.toUInt32.toUInt64 = relocation.offset := by
    have inText := linked.inside relocation member
    have textSize := wellFormed.sectionSize text textMember
    rw [CoffRelocation.InsideOf] at inText
    rw [← UInt64.toNat_inj, UInt32.toNat_toUInt64, UInt64.toNat_toUInt32]
    omega
  have target : relocation.target text = offset.toUInt64 := by
    have found := resolved.found
    rw [CoffRelocation.target, resolved.named]
    cases type with
    | unknown =>
      exact absurd (wellFormed.unknownType _ primary resolved.typed)
        (linked.defined relocation member)
    | data =>
      simp only [symbolOffset] at found
      split at found
      · rename_i tls
        cases found
        have sameSymbol : name = VpuSim.tlsSymbol := tls
        rw [sameSymbol, if_pos rfl, sameTls]
      · cases found
    | function =>
      cases found
      have notTls : name ≠ VpuSim.tlsSymbol := by
        rintro rfl
        exact linked.tlsData _ primary resolved.named resolved.typed
      rw [if_neg (fun equal => notTls (Option.some.inj equal)),
        wellFormed.genericValue _ primary]
      simp
    | debug => cases found
    | file => cases found
    | other => cases found
  rw [CoffRelocation.record, window, target]

theorem records_eq {file : CoffObject} (wellFormed : file.WellFormed)
    {text : CoffSection} (textMember : text ∈ file.sections) {tlsSize : UInt64}
    (linked : Linked file text tlsSize) {fuel : Nat} {tlsOffset : UInt32}
    (sameTls : tlsOffset.toUInt64 =
      VpuImageHeader.alignUp text.size VpuImageHeader.kVpuImageCodeAlignment)
    {records : List VpuRelocation}
    (recorded : List.Forall₂ (Records file fuel tlsOffset) text.relocations records) :
    text.relocations.map (CoffRelocation.record text) = records := by
  have each := (List.forall₂_and_left text.relocations records).mpr
    ⟨fun relocation (member : relocation ∈ text.relocations) => member, recorded⟩
  rw [← List.forall₂_eq_eq_eq, List.forall₂_map_left_iff]
  exact each.imp fun relocation record ⟨member, records⟩ =>
    record_eq_of_records wellFormed textMember linked sameTls member records

end VpuShaderBinary

section Agreement

variable {file : CoffObject} {text : CoffSection} {fuel : Nat} {shader : VpuShaderBinary}
  {obj : VpuObject} {allocation : BlobAllocation} {package : Packaging} {tlsSize : UInt64}

/-- An export and the value in the table of the opened object are the same. -/
theorem toUInt64_findExport (opened : obj.OpenedFrom file text) {name : String} {value : UInt32}
    (found : VpuShaderBinary.findExport file fuel name = some (some value)) {looked : UInt64}
    (lookup : obj.getSymbolValue name = some looked) : value.toUInt64 = looked := by
  have loaded := (loadSymbolTable_eq_iff _ _ _).mp opened.symbolTable
  exact Option.some.inj ((lookup_of_findExportFrom found loaded).symm.trans lookup)

/-- The 32-bit layout of the direct path is the one of the image. -/
theorem layout_agrees (wellFormed : file.WellFormed)
    (direct : shader.OpenedFrom file fuel text) (opened : obj.OpenedFrom file text)
    (linked : Linked file text tlsSize) (tlsFound : obj.getSymbolValue tlsSymbol = some tlsSize)
    (packaged : packageImage obj allocation = some package) :
    shader.codeSize.toNat = roundUp 4096 text.size.toNat ∧
      shader.getMainOffset.toNat = package.header.getEntryOffset.toNat ∧
      shader.getTlsOffset.toNat = package.header.getTlsOffset.toNat ∧
      (roundUp 4096 text.size.toNat + roundUp 4096 tlsSize.toNat < 2 ^ 32 →
        shader.getImageSize.toNat = package.header.getImageSize.toNat) := by
  have holds := holds_of_packageImage wellFormed opened packaged linked.few
  have code : shader.codeSize.toNat = roundUp 4096 text.size.toNat := by
    rw [direct.codeSize]
    exact VpuShaderBinary.toNat_alignSectionSize_toUInt32 linked.codeRounds
  have tls : shader.tlsSize.toNat = tlsSize.toNat := by
    rw [← toUInt64_findExport opened direct.tls tlsFound, UInt32.toNat_toUInt64]
  obtain ⟨entryOffset, tlsValue, mainFound, tlsLooked, equal⟩ := packageImage_some packaged
  cases Option.some.inj (tlsFound.symm.trans tlsLooked)
  have header : package.header = packagedHeader obj entryOffset tlsSize := by
    rw [equal, fillBlob_header]
  refine ⟨code, ?_, ?_, ?_⟩
  · rw [header, VpuShaderBinary.getMainOffset, ← UInt32.toNat_toUInt64,
      toUInt64_findExport opened direct.main mainFound]
    rfl
  · rw [VpuImageHeader.toNat_getTlsOffset holds.fits, holds.codeSize,
      VpuShaderBinary.getTlsOffset, direct.tlsOffset, code]
  · intro fits
    have headerTls : package.header.tlsSize = tlsSize := by
      rw [header]
      rfl
    rw [← tls] at fits
    rw [VpuImageHeader.toNat_getImageSize holds.fits, holds.codeSize, headerTls, ← tls]
    exact VpuShaderBinary.toNat_getImageSize direct.codeSize direct.dataSize fits

/-- Before patching, an image that was accepted holds the code and then zeros. -/
theorem byte_unrelocated_image (holds : package.Holds text) {contents : List UInt8}
    (readable : text.contents = some contents) (length : contents.length ≤ text.size.toNat)
    (base : Memory) {size : UInt64} (fits : package.header.getImageSize ≤ size) {k : Nat}
    (bound : k < roundUp 4096 text.size.toNat) :
    (package.header.unrelocated
      (fun k => package.blob.byte (codeOffset package.header.relocationCount + k))
      base size).byte k = contents.getD k 0 := by
  rw [VpuImageHeader.byte_unrelocated, holds.codeSize]
  split
  · rename_i inCode
    exact holds.code contents readable k inCode
  · rename_i past
    have inImage : k < size.toNat := by
      have large := UInt64.le_iff_toNat_le.mp fits
      rw [VpuImageHeader.toNat_getImageSize holds.fits, holds.codeSize] at large
      omega
    rw [if_pos inImage, List.getD_eq_default _ _ (length.trans (Nat.not_lt.mp past))]

/-- Whatever the two buffers held, both paths leave the same code pages in them and
report the same layout; the image size needs a sum of 32 bits. -/
theorem load_sameProgram (wellFormed : file.WellFormed)
    {codeSize dataSize imageSize : UInt32} {initialTlsSize mainOffset : UInt32}
    (direct : (VpuShaderBinary.new codeSize dataSize imageSize initialTlsSize mainOffset).openFile
      fuel (.coff file) = some (true, shader))
    (opened : VpuObject.new.openFile (.coff file) = (true, obj)) (code : obj.code = some text)
    (tlsFound : obj.getSymbolValue tlsSymbol = some tlsSize)
    (packaged : packageImage obj allocation = some package)
    (linked : Linked file text tlsSize) (shaderBase imageBase : Memory)
    {shaderSize : UInt32} {size : UInt64}
    (shaderLoaded : (shader.load shaderBase shaderSize).1 = true)
    (imageLoaded : (VpuImageHeader.load package.blob.byte imageBase size).1 = true) :
    let header := VpuImageHeader.read package.blob.byte 0
    (∀ k < roundUp 4096 text.size.toNat,
      (shader.load shaderBase shaderSize).2.byte k =
        (VpuImageHeader.load package.blob.byte imageBase size).2.byte k) ∧
      shader.getMainOffset.toNat = header.getEntryOffset.toNat ∧
      shader.getTlsOffset.toNat = header.getTlsOffset.toNat ∧
      (roundUp 4096 text.size.toNat + roundUp 4096 tlsSize.toNat < 2 ^ 32 →
        shader.getImageSize.toNat = header.getImageSize.toNat) := by
  have openedFrom := VpuObject.openedFrom_of_code opened code
  obtain ⟨found, directFrom⟩ := VpuShaderBinary.openedFrom_of_openFile rfl direct
  have sameText := directFrom.textFound.symm.trans openedFrom.textFound
  cases sameText
  have holds := holds_of_packageImage wellFormed openedFrom packaged linked.few
  obtain ⟨codeRounded, main, tls, image⟩ :=
    layout_agrees wellFormed directFrom openedFrom linked tlsFound packaged
  have sameTls : shader.tlsOffset.toUInt64 =
      VpuImageHeader.alignUp text.size VpuImageHeader.kVpuImageCodeAlignment := by
    rw [← UInt64.toNat_inj, UInt32.toNat_toUInt64, ← holds.codeSize]
    exact tls
  have records := VpuShaderBinary.records_eq wellFormed openedFrom.textMember linked sameTls
    directFrom.relocations
  have fits := holds.fits_of_load imageLoaded
  obtain ⟨contents, found, length⟩ := VpuShaderBinary.contents_of_load shaderLoaded
  have readable : text.contents = some contents := by
    rw [directFrom.code] at found
    exact found
  rw [holds.header]
  refine ⟨?_, main, tls, image⟩
  intro k bound
  rw [VpuShaderBinary.load_of_contents found length, holds.load_eq,
    VpuImageHeader.loadParts_of_le _ _ _ _ fits, VpuImageHeader.applyRelocations_eq, records,
    Memory.byte_storeAll, Memory.byte_storeAll]
  apply replay_congr
  rw [shader.byte_unrelocated contents shaderBase (codeRounded.symm ▸ bound),
    byte_unrelocated_image holds readable
      (wellFormed.contentsLength text openedFrom.textMember contents readable) imageBase fits bound]

end Agreement

/-- The small object with a common `g_tls` of `size` bytes. -/
def commonTls (size : UInt32) : CoffSymbol :=
  ⟨some "g_tls", size, 0, 0, some .data, size.toUInt64, noNul_gTls⟩

def commonText (size : UInt32) : CoffSection :=
  { smallText 0 with relocations := [⟨0, 4, commonTls size⟩] }

def commonFile (size : UInt32) : CoffObject where
  symbols := [some ⟨some "main", 0, 0, 1, some .function, 0, noNul_main⟩, some (commonTls size)]
  sections := [commonText size]

def commonObject (size : UInt32) : VpuObject where
  loaded := true
  code := some (commonText size)
  symbolTable := [("g_tls", size.toUInt64), ("main", 0)]
  relocations := [⟨4, 0, "g_tls"⟩]

def commonPackage (size : UInt32) : Packaging :=
  fillBlob (commonObject size) (packagedHeader (commonObject size) 0 size.toUInt64) (.filled 0)

def commonShader (size : UInt32) : VpuShaderBinary where
  loaded := true
  codeSize := 4096
  dataSize := VpuShaderBinary.alignSectionSize size
  imageSize := 4096 + VpuShaderBinary.alignSectionSize size
  tlsSize := size
  mainOffset := 0
  tlsOffset := 4096
  relocations := [⟨4, 0, 4096⟩]
  code := some (commonText size)

def testShader : VpuShaderBinary where
  loaded := true
  codeSize := 4096
  dataSize := 4096
  imageSize := 8192
  tlsSize := 72
  mainOffset := 0
  tlsOffset := 4096
  relocations := [⟨4, 5, 16⟩, ⟨4, 19, 4096⟩]
  code := some testText

theorem load_sameProgram_test :
    let header := VpuImageHeader.read testPackage.blob.byte 0
    (∀ k < roundUp 4096 80,
      (testShader.load (.holding fun _ => 0) 8192).2.byte k =
        (VpuImageHeader.load testPackage.blob.byte (.holding fun _ => 1) 12288).2.byte k) ∧
      testShader.getMainOffset.toNat = header.getEntryOffset.toNat ∧
      testShader.getTlsOffset.toNat = header.getTlsOffset.toNat ∧
      (roundUp 4096 80 + roundUp 4096 72 < 2 ^ 32 →
        testShader.getImageSize.toNat = header.getImageSize.toNat) :=
  @load_sameProgram testFile testText 4 testShader testObject (.filled 0xCD) testPackage 72
    (by decide) 0 0 0 0 0 (by rfl) (by rfl) rfl (by rfl) (by rfl)
    ⟨by decide, by decide, by decide, by decide, by decide, by decide⟩
    (.holding fun _ => 0) (.holding fun _ => 1) 8192 12288 (by decide) (by decide)

/-- A common `g_tls` of 4294963200 bytes rounds in 32 bits, but not the whole image. -/
theorem load_not_sameImageSize :
    (commonFile 0xFFFFF000).WellFormed ∧
      (VpuShaderBinary.new 0 0 0 0 0).openFile 3 (.coff (commonFile 0xFFFFF000)) =
        some (true, commonShader 0xFFFFF000) ∧
      VpuObject.new.openFile (.coff (commonFile 0xFFFFF000)) =
        (true, commonObject 0xFFFFF000) ∧
      packageImage (commonObject 0xFFFFF000) (.filled 0) = some (commonPackage 0xFFFFF000) ∧
      Linked (commonFile 0xFFFFF000) (commonText 0xFFFFF000) 0xFFFFF000 ∧
      ((commonShader 0xFFFFF000).load (.holding fun _ => 0) 0).1 = true ∧
      (VpuImageHeader.load (commonPackage 0xFFFFF000).blob.byte (.holding fun _ => 0)
        0x100000000).1 = true ∧
      (commonShader 0xFFFFF000).getImageSize.toNat ≠
        (VpuImageHeader.read (commonPackage 0xFFFFF000).blob.byte 0).getImageSize.toNat :=
  ⟨by decide, by rfl, by rfl, by rfl,
    ⟨by decide, by decide, by decide, by decide, by decide, by decide⟩, by decide, by decide,
    by decide⟩

end VpuSim
