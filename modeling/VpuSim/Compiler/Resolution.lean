import VpuSim.Compiler.Blob

/-!
# Packaging a well-formed object

Every relocation of a well-formed object names a symbol of its own table, so the
loop resolves all of them. The record of a relocation can then be stated without
the map: its reference is the TLS offset or the value of its symbol.
-/

namespace VpuSim

open ByteMemory Rounding

namespace CoffRelocation

/-- The offset in the image that a relocation of `text` is resolved to. -/
def target (text : CoffSection) (relocation : CoffRelocation) : UInt64 :=
  if relocation.symbol.name = some tlsSymbol then
    VpuImageHeader.alignUp text.size VpuImageHeader.kVpuImageCodeAlignment
  else relocation.symbol.value.toUInt64

/-- The record that the packager writes for a relocation of `text`. -/
def record (text : CoffSection) (relocation : CoffRelocation) : VpuRelocation where
  type := relocation.type.toUInt32
  fixupOffset := relocation.offset
  referenceOffset := relocation.target text

/-- The four bytes at the fixup belong to `text`. -/
def InsideOf (text : CoffSection) (relocation : CoffRelocation) : Prop :=
  relocation.offset.toNat + 4 ≤ text.size.toNat

/-- The fixup windows have no byte in common. -/
def ApartFrom (first second : CoffRelocation) : Prop :=
  first.offset.toNat + 4 ≤ second.offset.toNat ∨ second.offset.toNat + 4 ≤ first.offset.toNat

instance (text : CoffSection) (relocation : CoffRelocation) :
    Decidable (relocation.InsideOf text) :=
  inferInstanceAs (Decidable (_ ≤ _))

instance (first second : CoffRelocation) : Decidable (first.ApartFrom second) :=
  inferInstanceAs (Decidable (_ ∨ _))

/-- The fixup window contains this offset. -/
def Touches (relocation : CoffRelocation) (offset : Nat) : Prop :=
  relocation.offset.toNat ≤ offset ∧ offset < relocation.offset.toNat + 4

end CoffRelocation

namespace VpuObject.OpenedFrom

variable {obj : VpuObject} {file : CoffObject} {text : CoffSection}

theorem resolveReference_symbol (opened : obj.OpenedFrom file text)
    (wellFormed : file.WellFormed) {header : VpuImageHeader}
    (codeSize : header.codeSize = text.size) {relocation : CoffRelocation}
    (member : relocation ∈ text.relocations) :
    resolveReference obj header (VpuObjRelocation.ofCoff relocation).symbolName =
      some (relocation.target text) := by
  have named := opened.named relocation member
  rw [resolveReference, CoffRelocation.target, named]
  by_cases tls : (VpuObjRelocation.ofCoff relocation).symbolName = tlsSymbol
  · simp only [tls, if_true, VpuImageHeader.getTlsOffset, codeSize]
  · simp only [Option.some.injEq, tls, if_false]
    exact opened.getSymbolValue_symbol wellFormed member

theorem packagedRelocation_ofCoff (opened : obj.OpenedFrom file text)
    (wellFormed : file.WellFormed) {header : VpuImageHeader}
    (codeSize : header.codeSize = text.size) {relocation : CoffRelocation}
    (member : relocation ∈ text.relocations) :
    packagedRelocation obj header (.ofCoff relocation) = relocation.record text := by
  rw [packagedRelocation, opened.resolveReference_symbol wellFormed codeSize member,
    Option.getD_some]
  rfl

theorem all_resolved (opened : obj.OpenedFrom file text) (wellFormed : file.WellFormed)
    {header : VpuImageHeader} (codeSize : header.codeSize = text.size) :
    ∀ objr ∈ obj.relocations, (resolveReference obj header objr.symbolName).isSome := by
  rw [opened.relocations]
  intro objr member
  obtain ⟨relocation, inText, rfl⟩ := List.mem_map.mp member
  rw [opened.resolveReference_symbol wellFormed codeSize inText]
  rfl

theorem length_relocations (opened : obj.OpenedFrom file text) :
    obj.relocations.length = text.relocations.length := by
  rw [opened.relocations, List.length_map]

end VpuObject.OpenedFrom

/-- The count survives the sixteen-bit field up to 65535. -/
theorem toNat_relocationCount {obj : VpuObject} {entryOffset tlsSize : UInt64}
    (few : obj.relocations.length ≤ 65535) :
    (packagedHeader obj entryOffset tlsSize).relocationCount.toNat = obj.relocations.length := by
  rw [packagedHeader, UInt16.toNat_ofNat']
  exact Nat.mod_eq_of_lt (Nat.lt_succ_of_le few)

/-- The parts of a complete image of `text`, as a loader reads them. -/
structure Packaging.Holds (package : Packaging) (text : CoffSection) : Prop where
  fits : package.header.FitsAddressSpace
  codeSize : package.header.codeSize = text.size
  header : VpuImageHeader.read package.blob.byte 0 = package.header
  table : relocationTable package.blob.byte package.header.relocationCount =
    text.relocations.map (CoffRelocation.record text)
  code : ∀ contents ∈ text.contents, ∀ k < text.size.toNat,
    package.blob.byte (codeOffset package.header.relocationCount + k) = contents.getD k 0

theorem Packaging.Holds.load_eq {package : Packaging} {text : CoffSection}
    (holds : package.Holds text) (base : Memory) (size : UInt64) :
    VpuImageHeader.load package.blob.byte base size =
      package.header.loadParts (text.relocations.map (CoffRelocation.record text))
        (fun k => package.blob.byte (codeOffset package.header.relocationCount + k)) base size := by
  simp only [VpuImageHeader.load, holds.header, holds.table]

/-- Only a buffer with room for the image is accepted. -/
theorem Packaging.Holds.fits_of_load {package : Packaging} {text : CoffSection}
    (holds : package.Holds text) {base : Memory} {size : UInt64}
    (loaded : (VpuImageHeader.load package.blob.byte base size).1 = true) :
    package.header.getImageSize ≤ size := by
  by_contra small
  rw [holds.load_eq, VpuImageHeader.loadParts_of_lt _ _ _ _ (UInt64.not_le.mp small)] at loaded
  cases loaded

theorem fitsAddressSpace_of_lt {header : VpuImageHeader}
    (code : header.codeSize.toNat < 2 ^ 32) (tls : header.tlsSize.toNat < 2 ^ 32) :
    header.FitsAddressSpace := by
  have codeBound := @roundUp_lt 4096 header.codeSize.toNat (by decide)
  have tlsBound := @roundUp_lt 4096 header.tlsSize.toNat (by decide)
  exact ⟨by omega, by omega, by omega⟩

theorem holds_of_packageImage {file : CoffObject} (wellFormed : file.WellFormed)
    {obj : VpuObject} {text : CoffSection} (opened : obj.OpenedFrom file text)
    {allocation : BlobAllocation} {package : Packaging}
    (packaged : packageImage obj allocation = some package)
    (few : text.relocations.length ≤ 65535) : package.Holds text := by
  obtain ⟨entryOffset, tlsSize, _, tlsFound, rfl⟩ := packageImage_some packaged
  have codeSize : (packagedHeader obj entryOffset tlsSize).codeSize = text.size :=
    opened.getCodeSize_eq
  have same := (@toNat_relocationCount obj entryOffset tlsSize
    (opened.length_relocations ▸ few)).symm
  have success := (fillBlob_success_iff obj (packagedHeader obj entryOffset tlsSize)
    allocation).mpr (opened.all_resolved wellFormed codeSize)
  have textSize := wellFormed.sectionSize text opened.textMember
  constructor
  · rw [fillBlob_header]
    exact fitsAddressSpace_of_lt (codeSize ▸ textSize) (opened.getSymbolValue_lt tlsFound)
  · rw [fillBlob_header, codeSize]
  · rw [fillBlob_header, read_header_fillBlob]
  · rw [fillBlob_header, relocationTable_fillBlob _ _ _ success same, opened.relocations,
      List.map_map]
    exact List.map_congr_left fun relocation member =>
      opened.packagedRelocation_ofCoff wellFormed codeSize member
  · intro contents found k bound
    have length := wellFormed.contentsLength text opened.textMember contents found
    rw [fillBlob_header]
    refine byte_code_fillBlob _ _ _ success same ?_ (codeSize ▸ length) (codeSize ▸ bound)
    rw [opened.code]
    exact found

/-- `main` at offset 0 of eight code bytes that refer to a common `g_tls`. -/
def smallText (addend : UInt8) : CoffSection where
  number := 1
  name := some ".text"
  size := 8
  contents := some [addend, 0, 0, 0, 0xC3, 0, 0, 0]
  relocations := [⟨0, 4, ⟨some "g_tls", 72, 0, 0, some .data, 72, noNul_gTls⟩⟩]

def smallFile (addend : UInt8) : CoffObject where
  symbols := [some ⟨some "main", 0, 0, 1, some .function, 0, noNul_main⟩,
    some ⟨some "g_tls", 72, 0, 0, some .data, 72, noNul_gTls⟩]
  sections := [smallText addend]

def smallObject (addend : UInt8) : VpuObject where
  loaded := true
  code := some (smallText addend)
  symbolTable := [("g_tls", 72), ("main", 0)]
  relocations := [⟨4, 0, "g_tls"⟩]

def smallPackage (addend : UInt8) : Packaging :=
  fillBlob (smallObject addend) (packagedHeader (smallObject addend) 0 72) (.filled 0)

/-- `Test.hlsl` as x64 code, with the displacements of its call and of `g_tls`. -/
def testCode (call gTls : UInt32) : List UInt8 :=
  let displacement := fun (value : UInt32) => (List.range 4).map fun k =>
    UInt8.ofNat (value.toNat / 256 ^ k)
  -- main: sub rsp, 40; call sum; add rsp, 40; ret
  [0x48, 0x83, 0xEC, 0x28, 0xE8] ++ displacement call ++ [0x48, 0x83, 0xC4, 0x28, 0xC3, 0xCC, 0xCC]
  -- sum: lea rax, [rip + g_tls]; mov ecx, [rax]
  ++ [0x48, 0x8D, 0x05] ++ displacement gTls ++ [0x8B, 0x08]
  -- mov edx, ecx; imul edx, [rax + 16]; add rdx, [rax + 8]
  ++ [0x89, 0xCA, 0x0F, 0xAF, 0x50, 0x10, 0x48, 0x03, 0x50, 0x08]
  -- mov r8d, ecx; imul r8d, [rax + 32]; add r8, [rax + 24]
  ++ [0x41, 0x89, 0xC8, 0x44, 0x0F, 0xAF, 0x40, 0x20, 0x4C, 0x03, 0x40, 0x18]
  -- imul ecx, [rax + 48]; add rcx, [rax + 40]
  ++ [0x0F, 0xAF, 0x48, 0x30, 0x48, 0x03, 0x48, 0x28]
  -- mov eax, [rdx]; add eax, [r8]; mov [rcx], eax
  ++ [0x8B, 0x02, 0x41, 0x03, 0x00, 0x89, 0x01]
  -- movss xmm0, [rdx + 4]; addss xmm0, [r8 + 4]; movss [rcx + 4], xmm0; ret
  ++ [0xF3, 0x0F, 0x10, 0x42, 0x04, 0xF3, 0x41, 0x0F, 0x58, 0x40, 0x04,
    0xF3, 0x0F, 0x11, 0x41, 0x04, 0xC3, 0xCC]

def testSum : CoffSymbol := ⟨some "sum", 16, 0, 1, some .function, 16, by decide⟩

def testTls : CoffSymbol := ⟨some "g_tls", 72, 0, 0, some .data, 72, noNul_gTls⟩

/-- A call of a function of the section and a reference to `g_tls`. -/
def testText : CoffSection where
  number := 1
  name := some ".text"
  size := 80
  contents := some (testCode 0 0)
  relocations := [⟨5, 4, testSum⟩, ⟨19, 4, testTls⟩]

def testFile : CoffObject where
  symbols := [some ⟨some "main", 0, 0, 1, some .function, 0, noNul_main⟩, some testSum,
    some testTls]
  sections := [testText]

def testObject : VpuObject where
  loaded := true
  code := some testText
  symbolTable := [("g_tls", 72), ("sum", 16), ("main", 0)]
  relocations := [⟨4, 5, "sum"⟩, ⟨4, 19, "g_tls"⟩]

def testPackage : Packaging :=
  fillBlob testObject (packagedHeader testObject 0 72) (.filled 0xCD)

end VpuSim
