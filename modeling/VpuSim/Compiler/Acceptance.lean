import VpuSim.Compiler.Resolution
import VpuSim.Shader.ThreadLocal

/-!
# What the packager accepts

The packager keeps the value of a symbol and forgets where the symbol is defined.
It therefore accepts references to other sections, and headers whose entry point or
thread-local block does not fit the image. Both results say for which objects the
accepted image is the intended one.
-/

namespace VpuSim

open ByteMemory Rounding

/-- The references of an accepted object other than `g_tls` name symbols of the
packaged section and are recorded as their offsets; other objects are refused. -/
structure Packaging.SoundFor (package : Packaging) (text : CoffSection) : Prop where
  resolved : package.success = true →
    ∀ index (bound : index < text.relocations.length),
      text.relocations[index].symbol.name ≠ some tlsSymbol →
      text.relocations[index].symbol.DefinedIn text ∧
        (VpuRelocation.read package.blob.byte (relocationOffset index)).referenceOffset =
          text.relocations[index].symbol.value.toUInt64
  refused : (∃ relocation ∈ text.relocations, relocation.symbol.name ≠ some tlsSymbol ∧
    ¬ relocation.symbol.DefinedIn text) → package.success = false

theorem success_of_packageImage {file : CoffObject} (wellFormed : file.WellFormed)
    {obj : VpuObject} {text : CoffSection} (opened : obj.OpenedFrom file text)
    {allocation : BlobAllocation} {package : Packaging}
    (packaged : packageImage obj allocation = some package) : package.success = true := by
  obtain ⟨entryOffset, tlsSize, _, _, rfl⟩ := packageImage_some packaged
  exact (fillBlob_success_iff _ _ _).mpr (opened.all_resolved wellFormed opened.getCodeSize_eq)

/-- The count of a well-formed object's relocations does not stop the packager. -/
theorem not_aborted_of_packageImage {file : CoffObject} (wellFormed : file.WellFormed)
    {obj : VpuObject} {text : CoffSection} (opened : obj.OpenedFrom file text)
    {allocation : BlobAllocation} {package : Packaging}
    (packaged : packageImage obj allocation = some package)
    (few : text.relocations.length ≤ 65535) : package.aborted = false := by
  have success := success_of_packageImage wellFormed opened packaged
  obtain ⟨entryOffset, tlsSize, _, _, rfl⟩ := packageImage_some packaged
  have same := (@toNat_relocationCount obj entryOffset tlsSize
    (opened.length_relocations ▸ few)).symm
  rw [Bool.eq_false_iff]
  intro aborted
  exact (fillBlob_aborted_iff _ _ _ success).mp aborted same

theorem read_record_of_packageImage {file : CoffObject} (wellFormed : file.WellFormed)
    {obj : VpuObject} {text : CoffSection} (opened : obj.OpenedFrom file text)
    {allocation : BlobAllocation} {package : Packaging}
    (packaged : packageImage obj allocation = some package)
    (index : Nat) (bound : index < text.relocations.length) :
    VpuRelocation.read package.blob.byte (relocationOffset index) =
      text.relocations[index].record text := by
  have success := success_of_packageImage wellFormed opened packaged
  obtain ⟨entryOffset, tlsSize, _, _, rfl⟩ := packageImage_some packaged
  rw [read_relocation_fillBlob _ _ _ success index (opened.length_relocations ▸ bound)]
  simp only [opened.relocations, List.getElem_map]
  exact opened.packagedRelocation_ofCoff wellFormed opened.getCodeSize_eq
    (List.getElem_mem bound)

/-- Packaging is sound exactly for the objects whose references stay in `text`. -/
theorem packageImage_soundFor_iff {file : CoffObject} (wellFormed : file.WellFormed)
    {obj : VpuObject} (opened : VpuObject.new.openFile (.coff file) = (true, obj))
    {text : CoffSection} (code : obj.code = some text)
    {allocation : BlobAllocation} {package : Packaging}
    (packaged : packageImage obj allocation = some package) :
    package.SoundFor text ↔
      ∀ relocation ∈ text.relocations, relocation.symbol.name ≠ some tlsSymbol →
        relocation.symbol.DefinedIn text := by
  have openedFrom := VpuObject.openedFrom_of_code opened code
  constructor
  · intro sound relocation member notTls
    obtain ⟨index, bound, rfl⟩ := List.mem_iff_getElem.mp member
    have success := success_of_packageImage wellFormed openedFrom packaged
    exact (sound.resolved success index bound notTls).1
  · intro defined
    constructor
    · intro _ index bound notTls
      refine ⟨defined _ (List.getElem_mem bound) notTls, ?_⟩
      rw [read_record_of_packageImage wellFormed openedFrom packaged index bound]
      exact if_neg notTls
    · rintro ⟨relocation, member, notTls, elsewhere⟩
      exact absurd (defined relocation member notTls) elsewhere

theorem packageImage_soundFor_iff_test :
    testPackage.SoundFor testText ↔
      ∀ relocation ∈ testText.relocations, relocation.symbol.name ≠ some tlsSymbol →
        relocation.symbol.DefinedIn testText :=
  @packageImage_soundFor_iff testFile (by decide) testObject (by rfl) testText rfl
    (.filled 0xCD) testPackage (by rfl)

/-- A constant of `.rdata`, referred to from `main`. -/
def constantSymbol : CoffSymbol := ⟨some "__real", 0, 0, 2, some .data, 0, by decide⟩

def constantText : CoffSection :=
  { smallText 0 with relocations := [⟨0, 4, constantSymbol⟩] }

def constantFile : CoffObject where
  symbols := (smallFile 0).symbols ++ [some constantSymbol]
  sections := [constantText, ⟨2, some ".rdata", 4, some [0, 0, 0x80, 0x3F], []⟩]

def constantObject : VpuObject where
  loaded := true
  code := some constantText
  symbolTable := ("__real", 0) :: (smallObject 0).symbolTable
  relocations := [⟨4, 0, "__real"⟩]

/-- A reference to `.rdata` is accepted. -/
theorem packageImage_not_soundFor :
    constantFile.WellFormed ∧
      VpuObject.new.openFile (.coff constantFile) = (true, constantObject) ∧
      ¬ ∀ package, packageImage constantObject (.filled 0) = some package →
        package.SoundFor constantText := by
  refine ⟨by decide, by rfl, ?_⟩
  intro sound
  have accepted := sound _ (by rfl)
  have defined := (accepted.resolved (by decide) 0 (by decide) (by decide)).1
  exact absurd defined (by decide)

/-- The entry jump and the host's stores stay in an image of the size it asks for. -/
structure VpuImageHeader.HostSafe (header : VpuImageHeader) : Prop where
  entry : header.getEntryOffset < header.codeSize
  tls : header.getTlsOffset.toNat + sizeofVpuThreadLocalStorage ≤ header.getImageSize.toNat
  stores : ∀ image tls,
    ∀ store ∈ (VpuThreadLocalStorage.write image header.getTlsOffset.toNat tls).log,
      store ∈ image.log ∨ store.Within header.getImageSize.toNat

/-- A page holds the block, so any nonzero size makes room for it. -/
theorem VpuImageHeader.tls_fits_iff {header : VpuImageHeader} (fits : header.FitsAddressSpace) :
    header.getTlsOffset.toNat + sizeofVpuThreadLocalStorage ≤ header.getImageSize.toNat ↔
      header.tlsSize ≠ 0 := by
  rw [toNat_getTlsOffset fits, toNat_getImageSize fits, Nat.add_le_add_iff_left,
    sizeofVpuThreadLocalStorage, ← UInt64.toNat_inj.ne, UInt64.toNat_zero, roundUp_eq]
  omega

theorem VpuImageHeader.hostSafe_iff {header : VpuImageHeader} (fits : header.FitsAddressSpace) :
    header.HostSafe ↔ header.getEntryOffset < header.codeSize ∧ header.tlsSize ≠ 0 := by
  constructor
  · intro safe
    exact ⟨safe.entry, (tls_fits_iff fits).mp safe.tls⟩
  · rintro ⟨entry, nonzero⟩
    have block := (tls_fits_iff fits).mpr nonzero
    refine ⟨entry, block, ?_⟩
    intro image tls store member
    refine (VpuThreadLocalStorage.mem_log_write member).imp_right fun lies => ?_
    exact Store.within_of_le (lies.2.trans block)

/-- The header in the blob is safe for the host exactly when `main` lies in the code
and the value of `g_tls` is not zero. -/
theorem packageImage_hostSafe_iff {file : CoffObject} (wellFormed : file.WellFormed)
    {obj : VpuObject} (opened : VpuObject.new.openFile (.coff file) = (true, obj))
    {text : CoffSection} (code : obj.code = some text) {entryOffset tlsSize : UInt64}
    (mainFound : obj.getSymbolValue "main" = some entryOffset)
    (tlsFound : obj.getSymbolValue tlsSymbol = some tlsSize)
    {allocation : BlobAllocation} {package : Packaging}
    (packaged : packageImage obj allocation = some package) :
    (VpuImageHeader.read package.blob.byte 0).HostSafe ↔
      entryOffset < text.size ∧ tlsSize ≠ 0 := by
  have openedFrom := VpuObject.openedFrom_of_code opened code
  obtain ⟨entry, tls, mainValue, tlsValue, rfl⟩ := packageImage_some packaged
  cases Option.some.inj (mainFound.symm.trans mainValue)
  cases Option.some.inj (tlsFound.symm.trans tlsValue)
  have codeSize : (packagedHeader obj entryOffset tlsSize).codeSize = text.size :=
    openedFrom.getCodeSize_eq
  have fits : (packagedHeader obj entryOffset tlsSize).FitsAddressSpace :=
    fitsAddressSpace_of_lt (codeSize ▸ wellFormed.sectionSize text openedFrom.textMember)
      (openedFrom.getSymbolValue_lt tlsFound)
  rw [read_header_fillBlob, VpuImageHeader.hostSafe_iff fits, codeSize]
  rfl

theorem packageImage_hostSafe_iff_small :
    (VpuImageHeader.read (smallPackage 0).blob.byte 0).HostSafe ↔
      (0 : UInt64) < (smallText 0).size ∧ (72 : UInt64) ≠ 0 :=
  @packageImage_hostSafe_iff (smallFile 0) (by decide) (smallObject 0) (by rfl) (smallText 0) rfl
    0 72 (by rfl) (by rfl) (.filled 0) (smallPackage 0) (by rfl)

/-- `g_tls` at the start of `.bss`: its value is an offset, not a size. -/
def bssSymbol : CoffSymbol := ⟨some "g_tls", 0, 0, 2, some .data, 0, noNul_gTls⟩

def bssText : CoffSection := { smallText 0 with relocations := [⟨0, 4, bssSymbol⟩] }

def bssFile : CoffObject where
  symbols := [some ⟨some "main", 0, 0, 1, some .function, 0, noNul_main⟩, some bssSymbol]
  sections := [bssText, ⟨2, some ".bss", 72, some [], []⟩]

def bssObject : VpuObject where
  loaded := true
  code := some bssText
  symbolTable := [("g_tls", 0), ("main", 0)]
  relocations := [⟨4, 0, "g_tls"⟩]

/-- No room is left for a block whose symbol is the first of `.bss`. -/
theorem packageImage_not_hostSafe :
    bssFile.WellFormed ∧ VpuObject.new.openFile (.coff bssFile) = (true, bssObject) ∧
      ¬ ∀ package, packageImage bssObject (.filled 0) = some package →
        package.success = true → (VpuImageHeader.read package.blob.byte 0).HostSafe := by
  refine ⟨by decide, by rfl, ?_⟩
  intro safe
  have accepted := safe _ (by rfl) (by decide)
  exact absurd accepted.tls (by decide)

end VpuSim
