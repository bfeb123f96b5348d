import Mathlib.Data.List.GetD
import VpuSim.Memory.LittleEndian
import VpuSim.Object.SymbolTable

/-!
# Opening an object file

`VpuObject` gathers the symbol table, the last section named `.text` and the
relocations of that section. A relocation keeps only the name of its symbol.
-/

namespace VpuSim

open ByteMemory

structure VpuObjRelocation where
  type : UInt32
  fixupOffset : UInt64
  symbolName : String
  deriving DecidableEq

/-- What the loop records of a relocation whose symbol has a name. -/
def VpuObjRelocation.ofCoff (relocation : CoffRelocation) : VpuObjRelocation where
  type := relocation.type.toUInt32
  fixupOffset := relocation.offset
  symbolName := relocation.symbol.name.getD ""

structure VpuObject where
  loaded : Bool
  code : Option CoffSection
  symbolTable : SymbolTable
  relocations : List VpuObjRelocation

def loadRelocations :
    List CoffRelocation → List VpuObjRelocation → Bool × List VpuObjRelocation
  | [], recorded => (true, recorded)
  | relocation :: rest, recorded =>
    match relocation.symbol.type with
    | none => (false, recorded)
    | some _ =>
      match relocation.symbol.name with
      | none => (false, recorded)
      | some name => loadRelocations rest
          (recorded ++ [⟨relocation.type.toUInt32, relocation.offset, name⟩])

/-- The section loop of `Open`: the last section named `.text` stays. -/
def findText : List CoffSection → Option CoffSection → Bool × Option CoffSection
  | [], code => (true, code)
  | section_ :: rest, code =>
    match section_.name with
    | none => (false, code)
    | some name => findText rest (if name = ".text" then some section_ else code)

namespace VpuObject

def new : VpuObject := ⟨false, none, [], []⟩

def openFile (self : VpuObject) : BinaryFile → Bool × VpuObject
  | .unreadable | .notObject | .notCoff => (false, self)
  | .coff file =>
    match loadSymbolTable file.symbols self.symbolTable with
    | (false, symbolTable) => (false, { self with symbolTable })
    | (true, symbolTable) =>
      match findText file.sections self.code with
      | (false, code) => (false, { self with symbolTable, code })
      | (true, none) => (false, { self with symbolTable, code := none })
      | (true, some text) =>
        match loadRelocations text.relocations self.relocations with
        | (false, relocations) =>
          (false, { self with symbolTable, code := some text, relocations })
        | (true, relocations) =>
          (true, { loaded := true, symbolTable, code := some text, relocations })

def close (self : VpuObject) : VpuObject :=
  { self with symbolTable := [], loaded := false }

/-- The value, or `none` where `GetSymbolValue` returns false. -/
def getSymbolValue (self : VpuObject) (name : String) : Option UInt64 :=
  self.symbolTable.lookup name

def getCodeSize (self : VpuObject) : UInt64 :=
  match self.code with
  | none => 0
  | some text => text.size

/-- `GetCode` into the memory from `buffer` on. -/
def getCode (self : VpuObject) (memory : Memory) (buffer : Nat) (size : UInt64) :
    Bool × Memory :=
  match self.code.bind CoffSection.contents with
  | none => (false, memory)
  | some contents =>
    if size.toNat < contents.length then (false, memory)
    else
      let memory := memory.fill buffer size.toNat 0
      (true, memory.copy buffer contents.length fun k => contents.getD k 0)

end VpuObject

theorem loadRelocations_true {relocations : List CoffRelocation}
    {recorded result : List VpuObjRelocation}
    (loaded : loadRelocations relocations recorded = (true, result)) :
    result = recorded ++ relocations.map VpuObjRelocation.ofCoff ∧
      ∀ relocation ∈ relocations,
        relocation.symbol.name = some (VpuObjRelocation.ofCoff relocation).symbolName := by
  induction relocations generalizing recorded with
  | nil =>
    cases loaded
    exact ⟨by simp, fun _ member => nomatch member⟩
  | cons relocation rest ih =>
    rw [loadRelocations] at loaded
    cases typed : relocation.symbol.type with
    | none => simp [typed] at loaded
    | some type =>
      cases named : relocation.symbol.name with
      | none => simp [typed, named] at loaded
      | some name =>
        simp only [typed, named] at loaded
        obtain ⟨equal, names⟩ := ih loaded
        refine ⟨?_, ?_⟩
        · simp [equal, VpuObjRelocation.ofCoff, named]
        · intro other member
          rcases List.mem_cons.mp member with rfl | inRest
          · simp [VpuObjRelocation.ofCoff, named]
          · exact names other inRest

theorem loadRelocations_of_named {relocations : List CoffRelocation}
    (typed : ∀ relocation ∈ relocations, relocation.symbol.type.isSome)
    (named : ∀ relocation ∈ relocations, relocation.symbol.name.isSome)
    (recorded : List VpuObjRelocation) :
    loadRelocations relocations recorded =
      (true, recorded ++ relocations.map VpuObjRelocation.ofCoff) := by
  induction relocations generalizing recorded with
  | nil => simp [loadRelocations]
  | cons relocation rest ih =>
    obtain ⟨type, hasType⟩ := Option.isSome_iff_exists.mp (typed relocation (List.mem_cons_self ..))
    obtain ⟨name, hasName⟩ := Option.isSome_iff_exists.mp (named relocation (List.mem_cons_self ..))
    rw [loadRelocations]
    simp only [hasType, hasName]
    rw [ih (fun other member => typed other (List.mem_cons_of_mem _ member))
      (fun other member => named other (List.mem_cons_of_mem _ member))]
    simp [VpuObjRelocation.ofCoff, hasName]

theorem loadRelocations_eq (relocations : List CoffRelocation)
    (recorded : List VpuObjRelocation) :
    loadRelocations relocations recorded =
      ((loadRelocations relocations []).1, recorded ++ (loadRelocations relocations []).2) := by
  induction relocations generalizing recorded with
  | nil => simp [loadRelocations]
  | cons relocation rest ih =>
    rw [loadRelocations, loadRelocations]
    cases relocation.symbol.type with
    | none => simp
    | some type =>
      cases relocation.symbol.name with
      | none => simp
      | some name =>
        dsimp only
        rw [ih, ih ([] ++ _), List.append_assoc, List.nil_append]

theorem loadRelocations_accepts_iff {relocations : List CoffRelocation}
    {recorded : List VpuObjRelocation} :
    (loadRelocations relocations recorded).1 = true ↔ ∀ relocation ∈ relocations,
      relocation.symbol.type.isSome ∧ relocation.symbol.name.isSome := by
  induction relocations generalizing recorded with
  | nil => simp [loadRelocations]
  | cons relocation rest ih =>
    rw [loadRelocations, List.forall_mem_cons]
    cases relocation.symbol.type with
    | none => simp
    | some type =>
      cases relocation.symbol.name with
      | none => simp
      | some name => simpa using ih

theorem findText_eq (sections : List CoffSection) (code : Option CoffSection) :
    findText sections code =
      ((findText sections none).1, (findText sections none).2.or code) := by
  induction sections generalizing code with
  | nil => rfl
  | cons section_ rest ih =>
    rw [findText, findText]
    cases section_.name with
    | none => rfl
    | some name =>
      by_cases isText : name = ".text"
      · simp only [if_pos isText]
        rw [ih, Option.or_assoc]
        rfl
      · simp only [if_neg isText]
        exact ih code

theorem findText_true {sections : List CoffSection} {before : Option CoffSection}
    {text : CoffSection} (found : findText sections before = (true, some text)) :
    before = some text ∨ text ∈ sections ∧ text.name = some ".text" := by
  induction sections generalizing before with
  | nil =>
    cases found
    exact .inl rfl
  | cons section_ rest ih =>
    rw [findText] at found
    cases named : section_.name with
    | none => simp [named] at found
    | some name =>
      simp only [named] at found
      rcases ih found with replaced | ⟨later, isText⟩
      · by_cases isText : name = ".text"
        · rw [if_pos isText] at replaced
          cases replaced
          exact .inr ⟨List.mem_cons_self .., by rw [named, isText]⟩
        · rw [if_neg isText] at replaced
          exact .inl replaced
      · exact .inr ⟨List.mem_cons_of_mem _ later, isText⟩

namespace VpuObject

section GetCode

variable {obj : VpuObject} {memory : Memory} {buffer : Nat} {size : UInt64}

theorem byte_getCode_before {address : Nat} (before : address < buffer) :
    (obj.getCode memory buffer size).2.byte address = memory.byte address := by
  unfold getCode
  cases obj.code.bind CoffSection.contents with
  | none => rfl
  | some contents =>
    dsimp only
    split
    · rfl
    · rw [Memory.byte_copy, if_neg (by omega), Memory.byte_fill, if_neg (by omega)]

theorem mem_log_getCode {store : Store}
    (member : store ∈ (obj.getCode memory buffer size).2.log) :
    store ∈ memory.log ∨ store.LiesIn buffer size.toNat := by
  unfold getCode at member
  cases found : obj.code.bind CoffSection.contents with
  | none => exact .inl (by simpa [found] using member)
  | some contents =>
    simp only [found] at member
    split at member
    · exact .inl member
    · rename_i fits
      simp only [Memory.log_copy, Memory.log_fill, List.mem_append, List.mem_singleton] at member
      rcases member with (inMemory | rfl) | rfl
      · exact .inl inMemory
      · exact .inr ⟨Nat.le_refl _, Nat.le_refl _⟩
      · exact .inr ⟨Nat.le_refl _, Nat.add_le_add_left (Nat.not_lt.mp fits) _⟩

/-- The section bytes, continued by zeros, whatever the memory held. -/
theorem byte_getCode {contents : List UInt8}
    (found : obj.code.bind CoffSection.contents = some contents)
    (fits : contents.length ≤ size.toNat) {k : Nat} (bound : k < size.toNat) :
    (obj.getCode memory buffer size).2.byte (buffer + k) = contents.getD k 0 := by
  simp only [getCode, found, if_neg (Nat.not_lt.mpr fits)]
  rw [Memory.byte_copy, Nat.add_sub_cancel_left]
  split
  · rfl
  · rw [Memory.byte_fill, if_pos (by omega), List.getD_eq_default _ _ (by omega)]

theorem getCode_true_iff :
    (obj.getCode memory buffer size).1 = true ↔
      ∃ contents, obj.code.bind CoffSection.contents = some contents ∧
        contents.length ≤ size.toNat := by
  unfold getCode
  cases obj.code.bind CoffSection.contents with
  | none => simp
  | some contents =>
    dsimp only
    split
    · rename_i large
      simp [Nat.not_le.mpr large]
    · rename_i fits
      simp [Nat.not_lt.mp fits]

end GetCode

/-- What a fresh object holds after opening `file` with `text` as its code. -/
structure OpenedFrom (obj : VpuObject) (file : CoffObject) (text : CoffSection) : Prop where
  loaded : obj.loaded = true
  code : obj.code = some text
  textMember : text ∈ file.sections
  textName : text.name = some ".text"
  textFound : findText file.sections none = (true, some text)
  symbolTable : loadSymbolTable file.symbols [] = (true, obj.symbolTable)
  relocations : obj.relocations = text.relocations.map VpuObjRelocation.ofCoff
  named : ∀ relocation ∈ text.relocations,
    relocation.symbol.name = some (VpuObjRelocation.ofCoff relocation).symbolName

/-- `Open` returns true when each of its three stages does. -/
theorem openFile_true_iff {self obj : VpuObject} {file : CoffObject} :
    self.openFile (.coff file) = (true, obj) ↔ ∃ symbolTable text relocations,
      loadSymbolTable file.symbols self.symbolTable = (true, symbolTable) ∧
        findText file.sections self.code = (true, some text) ∧
        loadRelocations text.relocations self.relocations = (true, relocations) ∧
        obj = ⟨true, some text, symbolTable, relocations⟩ := by
  constructor
  · intro opened
    rw [openFile] at opened
    split at opened
    · cases opened
    · rename_i symbolTable symbols
      split at opened
      · cases opened
      · cases opened
      · rename_i text found
        split at opened
        · cases opened
        · rename_i relocations resolved
          cases opened
          exact ⟨symbolTable, text, relocations, symbols, found, resolved, rfl⟩
  · rintro ⟨symbolTable, text, relocations, symbols, found, resolved, rfl⟩
    simp only [openFile, symbols, found, resolved]

theorem loaded_of_openFile_false {self : VpuObject} {file : BinaryFile}
    (failed : (self.openFile file).1 = false) : (self.openFile file).2.loaded = self.loaded := by
  unfold openFile at failed ⊢
  split
  · rfl
  · rfl
  · rfl
  · split
    · rfl
    · split
      · rfl
      · rfl
      · split
        · rfl
        · simp_all

theorem openedFrom_of_openFile {file : CoffObject} {obj : VpuObject}
    (opened : new.openFile (.coff file) = (true, obj)) :
    ∃ text, obj.OpenedFrom file text := by
  obtain ⟨symbolTable, text, relocations, symbols, found, resolved, rfl⟩ :=
    openFile_true_iff.mp opened
  rcases findText_true found with impossible | ⟨member, name⟩
  · cases impossible
  · obtain ⟨equal, named⟩ := loadRelocations_true resolved
    exact ⟨text, rfl, rfl, member, name, found, symbols, by simpa [new] using equal, named⟩

theorem openedFrom_of_code {file : CoffObject} {obj : VpuObject}
    (opened : new.openFile (.coff file) = (true, obj)) {text : CoffSection}
    (code : obj.code = some text) : obj.OpenedFrom file text := by
  obtain ⟨found, openedFrom⟩ := openedFrom_of_openFile opened
  cases Option.some.inj (openedFrom.code.symm.trans code)
  exact openedFrom

namespace OpenedFrom

variable {obj : VpuObject} {file : CoffObject} {text : CoffSection}

theorem getCodeSize_eq (opened : obj.OpenedFrom file text) : obj.getCodeSize = text.size := by
  simp only [getCodeSize, opened.code]

/-- A symbol value has at most 32 bits. -/
theorem getSymbolValue_lt (opened : obj.OpenedFrom file text) {name : String} {value : UInt64}
    (found : obj.getSymbolValue name = some value) : value.toNat < 2 ^ 32 := by
  obtain ⟨symbol, _, _, rfl⟩ := symbol_of_lookup_loadSymbolTable opened.symbolTable found
  rw [UInt32.toNat_toUInt64]
  exact symbol.value.toNat_lt

/-- The lookup by name finds the very symbol of the relocation. -/
theorem getSymbolValue_symbol (opened : obj.OpenedFrom file text)
    (wellFormed : file.WellFormed) {relocation : CoffRelocation}
    (member : relocation ∈ text.relocations) :
    obj.getSymbolValue (VpuObjRelocation.ofCoff relocation).symbolName =
      some relocation.symbol.value.toUInt64 := by
  rcases lookup_primary_of_loadSymbolTable wellFormed.symbolCount opened.symbolTable
    (wellFormed.relocationSymbol text opened.textMember relocation member) with
    ⟨name, named, found⟩
  have same := opened.named relocation member
  rw [named] at same
  cases same
  exact found

end OpenedFrom

end VpuObject

end VpuSim
