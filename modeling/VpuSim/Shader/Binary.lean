import VpuSim.Image.Load
import VpuSim.Object.Open

/-!
# Loading an object file directly

`VpuShaderBinary` resolves the relocations of an object while it opens it, with a
linear scan for exports and 32-bit sizes, and patches the code when it loads it.
A scan can run for ever on a table whose last auxiliary count wraps the index, so
opening takes a bound on the passes of its scans. Opening a second file releases the
binary of the first one, and with it the section that the object may still refer to.
-/

namespace VpuSim

open ByteMemory Rounding

structure VpuShaderBinary where
  loaded : Bool
  codeSize : UInt32
  dataSize : UInt32
  imageSize : UInt32
  tlsSize : UInt32
  mainOffset : UInt32
  tlsOffset : UInt32
  relocations : List VpuRelocation
  code : Option CoffSection

def imageRelI386Dir32 : UInt32 := 0x6

/-- `FindExport` from record `i` on, `none` where `fuel` passes do not end it. -/
def findExportFrom (symbols : List (Option CoffSymbol)) (name : String) :
    (fuel i : Nat) → Option (Option UInt32)
  | 0, _ => none
  | fuel + 1, i =>
    match symbols[i]? with
    | none => some none
    | some none => some none
    | some (some symbol) =>
      match symbol.name with
      | none => some none
      | some testName =>
        if testName = name then some (some symbol.value)
        else findExportFrom symbols name fuel (nextIndex i symbol)

/-- A scan that finds a name agrees with the table of a walk that succeeds. -/
theorem lookup_of_findExportFrom {symbols : List (Option CoffSymbol)} {name : String}
    {value : UInt32} {fuel passes i : Nat} {table result : SymbolTable}
    (found : findExportFrom symbols name fuel i = some (some value))
    (loaded : loadSymbolTableFrom symbols passes i table = some (true, result)) :
    result.lookup name = some value.toUInt64 := by
  induction passes generalizing i table fuel with
  | zero => cases loaded
  | succ passes ih =>
    cases fuel with
    | zero => cases found
    | succ fuel =>
      rcases loadSymbolTableFrom_true_cases loaded with
        ⟨past, _⟩ | ⟨symbol, testName, record, named, _, rest⟩
      · simp [findExportFrom, past] at found
      · simp only [findExportFrom, record, named] at found
        split at found
        · rename_i same
          cases found
          exact lookup_of_loadSymbolTableFrom rest (by rw [same, List.lookup_cons_self])
        · exact ih found rest

namespace VpuShaderBinary

def tlsSymbol : String := "g_tls"

def mainSymbol : String := "main"

def kSectionAlignment : UInt32 := 4096

def kSectionAlignmentMask : UInt32 := kSectionAlignment - 1

def alignSectionSize (size : UInt32) : UInt32 :=
  (size + kSectionAlignmentMask) &&& ~~~kSectionAlignmentMask

/-- The constructor; the other members keep what the memory held. -/
def new (codeSize dataSize imageSize tlsSize mainOffset : UInt32) : VpuShaderBinary where
  loaded := false
  codeSize := codeSize
  dataSize := dataSize
  imageSize := imageSize
  tlsSize := tlsSize
  mainOffset := mainOffset
  tlsOffset := 0
  relocations := []
  code := none

def getTlsOffset (self : VpuShaderBinary) : UInt32 := self.tlsOffset

def getMainOffset (self : VpuShaderBinary) : UInt32 := self.mainOffset

def getImageSize (self : VpuShaderBinary) : UInt32 := self.codeSize + self.dataSize

def findExport (file : CoffObject) (fuel : Nat) (name : String) : Option (Option UInt32) :=
  findExportFrom file.symbols name fuel 0

/-- The symbol offset of a relocation, by the type of its symbol. The name has no NUL, so the
lookups by `c_str()` are by the whole of it. -/
def symbolOffset (file : CoffObject) (fuel : Nat) (tlsOffset : UInt32) (symbol : CoffSymbol)
    (name : String) : SymbolType → Option (Option UInt32)
  | .unknown =>
    if name.toList.contains '.' then
      findExport file fuel (String.ofList (name.toList.map fun c => if c = '.' then '_' else c))
    else some none
  | .data => if name = tlsSymbol then some (some tlsOffset) else some none
  | .function => some (some symbol.refValue.toUInt32)
  | .debug | .file | .other => some none

/-- The relocation types that `BuildRelocations` admits. -/
def Admitted (type : UInt32) : Prop :=
  type = imageRelI386Rel32 ∨ type = imageRelAmd64Rel32 ∨ type = imageRelI386Dir32

instance (type : UInt32) : Decidable (Admitted type) :=
  inferInstanceAs (Decidable (_ ∨ _ ∨ _))

def buildRelocations (file : CoffObject) (fuel : Nat) (tlsOffset : UInt32) :
    List CoffRelocation → List VpuRelocation → Option (Bool × List VpuRelocation)
  | [], relocations => some (true, relocations)
  | relocation :: rest, relocations =>
    match relocation.symbol.type with
    | none => some (false, relocations)
    | some type =>
      match relocation.symbol.name with
      | none => some (false, relocations)
      | some name =>
        match symbolOffset file fuel tlsOffset relocation.symbol name type with
        | none => none
        | some none => some (false, relocations)
        | some (some offset) =>
          if Admitted relocation.type.toUInt32 then
            buildRelocations file fuel tlsOffset rest (relocations ++
              [⟨relocation.type.toUInt32, relocation.offset.toUInt32.toUInt64, offset.toUInt64⟩])
          else some (false, relocations)

/-- The section loop of `Open`, which keeps the size with the section. -/
def findCode : List CoffSection → Option CoffSection → UInt32 →
    Bool × Option CoffSection × UInt32
  | [], code, codeSize => (true, code, codeSize)
  | section_ :: rest, code, codeSize =>
    match section_.name with
    | none => (false, code, codeSize)
    | some name =>
      if name = ".text" then
        findCode rest (some section_) (alignSectionSize section_.size.toUInt32)
      else findCode rest code codeSize

/-- `Open`, `none` where a scan does not end or where the call goes on with a section of an
earlier file, whose binary it has just released. -/
def openFile (self : VpuShaderBinary) (fuel : Nat) :
    BinaryFile → Option (Bool × VpuShaderBinary)
  | .unreadable | .notObject | .notCoff => some (false, self)
  | .coff file =>
    match findExport file fuel tlsSymbol with
    | none => none
    | some none => some (false, self)
    | some (some tlsSize) =>
      match findExport file fuel mainSymbol with
      | none => none
      | some none => some (false, { self with tlsSize })
      | some (some mainOffset) =>
        match findCode file.sections self.code self.codeSize with
        | (false, code, codeSize) =>
          some (false, { self with tlsSize, mainOffset, code, codeSize })
        | (true, none, codeSize) =>
          some (false, { self with tlsSize, mainOffset, code := none, codeSize })
        | (true, some text, codeSize) =>
          if (findText file.sections none).2.isNone then none
          else
            let dataSize := alignSectionSize tlsSize
            let self := { self with
              tlsSize, mainOffset, code := some text, codeSize, tlsOffset := codeSize, dataSize,
              imageSize := codeSize + dataSize }
            match buildRelocations file fuel codeSize text.relocations self.relocations with
            | none => none
            | some (false, relocations) => some (false, { self with relocations })
            | some (true, relocations) => some (true, { self with relocations, loaded := true })

/-- `Open` goes on with a section of an earlier file, whose binary it has just released. -/
def ReadsDeadSection (fuel : Nat) (self : VpuShaderBinary) : BinaryFile → Prop
  | .unreadable | .notObject | .notCoff => False
  | .coff file => (∃ tlsSize, findExport file fuel tlsSymbol = some (some tlsSize)) ∧
      (∃ mainOffset, findExport file fuel mainSymbol = some (some mainOffset)) ∧
      findText file.sections none = (true, none) ∧ self.code.isSome

/-- The same body as the one of the image header. -/
def applyRelocation (base : Memory) (relocation : VpuRelocation) : Bool × Memory :=
  VpuImageHeader.applyRelocation base relocation

def applyRelocations : List VpuRelocation → Memory → Bool × Memory
  | [], base => (true, base)
  | relocation :: rest, base =>
    match applyRelocation base relocation with
    | (true, base) => applyRelocations rest base
    | (false, base) => (false, base)

def loadCode (self : VpuShaderBinary) (base : Memory) (_size : UInt32) : Bool × Memory :=
  match self.code.bind CoffSection.contents with
  | none => (false, base)
  | some contents =>
    if self.codeSize.toNat < contents.length then (false, base)
    else
      let base := base.fill 0 self.codeSize.toNat 0
      let base := base.copy 0 contents.length fun k => contents.getD k 0
      applyRelocations self.relocations base

def load (self : VpuShaderBinary) (base : Memory) (size : UInt32) : Bool × Memory :=
  self.loadCode base size

/-- What was found out about a relocation before it was recorded. -/
structure Resolved (file : CoffObject) (fuel : Nat) (tlsOffset : UInt32)
    (relocation : CoffRelocation) (name : String) (type : SymbolType) (offset : UInt32) :
    Prop where
  typed : relocation.symbol.type = some type
  named : relocation.symbol.name = some name
  found : symbolOffset file fuel tlsOffset relocation.symbol name type = some (some offset)
  admitted : Admitted relocation.type.toUInt32

/-- `record` is what the loop pushes for a relocation that it can resolve. -/
def Records (file : CoffObject) (fuel : Nat) (tlsOffset : UInt32)
    (relocation : CoffRelocation) (record : VpuRelocation) : Prop :=
  ∃ name type offset, Resolved file fuel tlsOffset relocation name type offset ∧
    record =
      ⟨relocation.type.toUInt32, relocation.offset.toUInt32.toUInt64, offset.toUInt64⟩

theorem buildRelocations_true {file : CoffObject} {fuel : Nat} {tlsOffset : UInt32}
    {relocations : List CoffRelocation} {recorded result : List VpuRelocation}
    (built : buildRelocations file fuel tlsOffset relocations recorded = some (true, result)) :
    ∃ records, result = recorded ++ records ∧
      List.Forall₂ (Records file fuel tlsOffset) relocations records := by
  induction relocations generalizing recorded with
  | nil =>
    cases built
    exact ⟨[], (List.append_nil _).symm, .nil⟩
  | cons relocation rest ih =>
    rw [buildRelocations] at built
    cases typed : relocation.symbol.type with
    | none => simp [typed] at built
    | some type =>
      cases named : relocation.symbol.name with
      | none => simp [typed, named] at built
      | some name =>
        cases resolved : symbolOffset file fuel tlsOffset relocation.symbol name type with
        | none => simp [typed, named, resolved] at built
        | some found =>
          cases found with
          | none => simp [typed, named, resolved] at built
          | some offset =>
            simp only [typed, named, resolved] at built
            split at built
            · rename_i admitted
              obtain ⟨records, equal, recordsRest⟩ := ih built
              have first : Records file fuel tlsOffset relocation
                  ⟨relocation.type.toUInt32, relocation.offset.toUInt32.toUInt64,
                    offset.toUInt64⟩ :=
                ⟨name, type, offset, ⟨typed, named, resolved, admitted⟩, rfl⟩
              refine ⟨_, ?_, .cons first recordsRest⟩
              rw [equal, List.append_assoc]
              rfl
            · cases built

/-- The section found is the one that a `VpuObject` finds, with its rounded size. -/
theorem findCode_eq (sections : List CoffSection) (code : Option CoffSection)
    (codeSize : UInt32) :
    findCode sections code codeSize =
      ((findText sections none).1, (findText sections none).2.or code,
        ((findText sections none).2.map fun text =>
          alignSectionSize text.size.toUInt32).getD codeSize) := by
  induction sections generalizing code codeSize with
  | nil => rfl
  | cons section_ rest ih =>
    rw [findCode, findText]
    cases section_.name with
    | none => rfl
    | some name =>
      by_cases isText : name = ".text"
      · simp only [if_pos isText]
        rw [ih, findText_eq rest (some section_)]
        cases (findText rest none).2 with
        | none => rfl
        | some later => rfl
      · simp only [if_neg isText]
        exact ih code codeSize

/-- What a fresh binary holds after opening `file` with `text` as its code. -/
structure OpenedFrom (binary : VpuShaderBinary) (file : CoffObject) (fuel : Nat)
    (text : CoffSection) : Prop where
  tls : findExport file fuel tlsSymbol = some (some binary.tlsSize)
  main : findExport file fuel mainSymbol = some (some binary.mainOffset)
  code : binary.code = some text
  textFound : findText file.sections none = (true, some text)
  codeSize : binary.codeSize = alignSectionSize text.size.toUInt32
  tlsOffset : binary.tlsOffset = binary.codeSize
  dataSize : binary.dataSize = alignSectionSize binary.tlsSize
  relocations :
    List.Forall₂ (Records file fuel binary.tlsOffset) text.relocations binary.relocations

/-- `Open` returns true only when each of its stages does, with a section of its own. -/
theorem openFile_true {self binary : VpuShaderBinary} {file : CoffObject} {fuel : Nat}
    (opened : self.openFile fuel (.coff file) = some (true, binary)) :
    ∃ tlsSize mainOffset text relocations,
      findExport file fuel tlsSymbol = some (some tlsSize) ∧
        findExport file fuel mainSymbol = some (some mainOffset) ∧
        findText file.sections none = (true, some text) ∧
        buildRelocations file fuel (alignSectionSize text.size.toUInt32) text.relocations
          self.relocations = some (true, relocations) ∧
        binary = ⟨true, alignSectionSize text.size.toUInt32, alignSectionSize tlsSize,
          alignSectionSize text.size.toUInt32 + alignSectionSize tlsSize, tlsSize, mainOffset,
          alignSectionSize text.size.toUInt32, relocations, some text⟩ := by
  rw [openFile] at opened
  split at opened
  · cases opened
  · cases opened
  · rename_i tlsSize tls
    split at opened
    · cases opened
    · cases opened
    · rename_i mainOffset main
      rw [findCode_eq] at opened
      rcases found : findText file.sections none with ⟨_ | _, _ | text⟩
      · simp [found] at opened
      · simp [found] at opened
      · rw [found] at opened
        cases held : self.code <;> simp [held] at opened
      · simp only [found, Option.some_or, Option.map_some, Option.getD_some, Option.isNone_some,
          Bool.false_eq_true, if_false] at opened
        split at opened
        · cases opened
        · cases opened
        · rename_i relocations built
          cases opened
          exact ⟨tlsSize, mainOffset, text, relocations, tls, main, rfl, built, rfl⟩

theorem openedFrom_of_openFile {fresh binary : VpuShaderBinary}
    (noRelocations : fresh.relocations = []) {file : CoffObject} {fuel : Nat}
    (opened : fresh.openFile fuel (.coff file) = some (true, binary)) :
    ∃ text, binary.OpenedFrom file fuel text := by
  obtain ⟨tlsSize, mainOffset, text, relocations, tls, main, textFound, built, rfl⟩ :=
    openFile_true opened
  rw [noRelocations] at built
  obtain ⟨records, rfl, resolved⟩ := buildRelocations_true built
  exact ⟨text, tls, main, rfl, textFound, rfl, rfl, rfl, resolved⟩

theorem applyRelocations_eq (relocations : List VpuRelocation) (base : Memory) :
    applyRelocations relocations base = VpuImageHeader.applyRelocations relocations base := by
  induction relocations generalizing base with
  | nil => rfl
  | cons relocation rest ih =>
    rw [applyRelocations, VpuImageHeader.applyRelocations, applyRelocation]
    obtain ⟨applied, patched⟩ := VpuImageHeader.applyRelocation base relocation
    cases applied with
    | false => rfl
    | true => exact ih patched

theorem toNat_alignSectionSize_4096 (size : UInt32) :
    (alignSectionSize size).toNat = (size.toNat + 4095) % 2 ^ 32 / 4096 * 4096 :=
  @toNat_mask_uint32 12 (by decide) size kSectionAlignmentMask (by decide)

theorem toNat_alignSectionSize {size : UInt32} (fits : roundUp 4096 size.toNat < 2 ^ 32) :
    (alignSectionSize size).toNat = roundUp 4096 size.toNat := by
  rw [roundUp_lt_iff (by decide) (by decide)] at fits
  rw [toNat_alignSectionSize_4096, Nat.mod_eq_of_lt fits, roundUp_eq]

/-- The 32-bit rounding of a section size is the 64-bit one. -/
theorem toNat_alignSectionSize_toUInt32 {size : UInt64}
    (fits : roundUp 4096 size.toNat < 2 ^ 32) :
    (alignSectionSize size.toUInt32).toNat = roundUp 4096 size.toNat := by
  have above := @le_roundUp 4096 size.toNat (by decide)
  have same : size.toUInt32.toNat = size.toNat := by
    rw [UInt64.toNat_toUInt32, Nat.mod_eq_of_lt (by omega)]
  rw [toNat_alignSectionSize (same ▸ fits), same]

theorem toNat_getImageSize {self : VpuShaderBinary} {size : UInt64}
    (codeSize : self.codeSize = alignSectionSize size.toUInt32)
    (dataSize : self.dataSize = alignSectionSize self.tlsSize)
    (sum : roundUp 4096 size.toNat + roundUp 4096 self.tlsSize.toNat < 2 ^ 32) :
    self.getImageSize.toNat = roundUp 4096 size.toNat + roundUp 4096 self.tlsSize.toNat := by
  rw [getImageSize, codeSize, dataSize, UInt32.toNat_add,
    toNat_alignSectionSize_toUInt32 (by omega), toNat_alignSectionSize (by omega),
    Nat.mod_eq_of_lt sum]

/-- Past the last page that 32 bits address it wraps to zero. -/
theorem alignSectionSize_eq_zero {size : UInt32} (past : 2 ^ 32 - 4095 ≤ size.toNat) :
    alignSectionSize size = 0 := by
  rw [← UInt32.toNat_inj, toNat_alignSectionSize_4096]
  exact @mask_wraps 32 12 size.toNat (by omega) size.toNat_lt

/-- The code with its tail cleared, before any relocation. -/
def unrelocated (self : VpuShaderBinary) (contents : List UInt8) (base : Memory) : Memory :=
  (base.fill 0 self.codeSize.toNat 0).copy 0 contents.length fun k => contents.getD k 0

theorem load_of_contents {self : VpuShaderBinary} {contents : List UInt8}
    (found : self.code.bind CoffSection.contents = some contents)
    (fits : contents.length ≤ self.codeSize.toNat) (base : Memory) (size : UInt32) :
    self.load base size =
      VpuImageHeader.applyRelocations self.relocations (self.unrelocated contents base) := by
  simp only [load, loadCode, found, if_neg (Nat.not_lt.mpr fits), applyRelocations_eq,
    unrelocated]

theorem contents_of_load {self : VpuShaderBinary} {base : Memory} {size : UInt32}
    (loaded : (self.load base size).1 = true) :
    ∃ contents, self.code.bind CoffSection.contents = some contents ∧
      contents.length ≤ self.codeSize.toNat := by
  rw [load, loadCode] at loaded
  cases found : self.code.bind CoffSection.contents with
  | none => simp [found] at loaded
  | some contents =>
    simp only [found] at loaded
    split at loaded
    · cases loaded
    · rename_i fits
      exact ⟨contents, rfl, Nat.not_lt.mp fits⟩

theorem byte_unrelocated (self : VpuShaderBinary) (contents : List UInt8) (base : Memory)
    {k : Nat} (bound : k < self.codeSize.toNat) :
    (self.unrelocated contents base).byte k = contents.getD k 0 := by
  simp only [unrelocated, Memory.byte_copy, Memory.byte_fill, Nat.zero_le, true_and,
    Nat.zero_add, Nat.sub_zero]
  split
  · rfl
  · rename_i past
    rw [List.getD_eq_default _ _ (Nat.not_lt.mp past)]

end VpuShaderBinary

end VpuSim
