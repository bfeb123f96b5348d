import Mathlib.Algebra.Group.Nat.Defs

/-!
# COFF objects as the LLVM reader shows them

LLVM is not part of the repository. A `CoffObject` records what its accessors
return for one file, `none` where they return an error, and `WellFormed` states
what the file format and the reader promise about those answers.
-/

namespace VpuSim

/-- `SymbolRef::Type` -/
inductive SymbolType where
  | unknown
  | data
  | debug
  | file
  | function
  | other
  deriving DecidableEq

/-- A record of the symbol table, read as a symbol. -/
structure CoffSymbol where
  name : Option String
  /-- `COFFSymbolRef::getValue` -/
  value : UInt32
  numberOfAuxSymbols : UInt8
  sectionNumber : Int
  type : Option SymbolType
  /-- `SymbolRef::getValue` -/
  refValue : UInt64
  /-- A name ends in front of the first NUL, in the record as in the string table, so that
  `c_str()` gives all of it. -/
  noNul : ∀ text ∈ name, Char.ofNat 0 ∉ text.toList
  deriving DecidableEq

/-- The names that the compiler looks up are names of symbols. -/
theorem noNul_main : ∀ text ∈ some "main", Char.ofNat 0 ∉ text.toList := by
  decide

theorem noNul_gTls : ∀ text ∈ some "g_tls", Char.ofNat 0 ∉ text.toList := by
  decide

structure CoffRelocation where
  offset : UInt64
  type : UInt64
  /-- the symbol that `getSymbol` points at -/
  symbol : CoffSymbol
  deriving DecidableEq

structure CoffSection where
  /-- the one-based position in the section table -/
  number : Nat
  name : Option String
  size : UInt64
  contents : Option (List UInt8)
  relocations : List CoffRelocation
  deriving DecidableEq

structure CoffObject where
  /-- what `getSymbol` gives for every record, the auxiliary ones included -/
  symbols : List (Option CoffSymbol)
  sections : List CoffSection
  deriving DecidableEq

/-- What `createBinary` and the two casts find at a path. -/
inductive BinaryFile where
  | unreadable
  | notObject
  | notCoff
  | coff (file : CoffObject)
  deriving DecidableEq

/-- A symbol that no section of the file defines and that is not common: its
section number and its value are both zero. -/
def CoffSymbol.Undefined (symbol : CoffSymbol) : Prop :=
  symbol.sectionNumber = 0 ∧ symbol.value = 0

def CoffSymbol.DefinedIn (symbol : CoffSymbol) (text : CoffSection) : Prop :=
  symbol.sectionNumber = text.number

instance (symbol : CoffSymbol) : Decidable symbol.Undefined :=
  inferInstanceAs (Decidable (_ ∧ _))

instance (symbol : CoffSymbol) (text : CoffSection) : Decidable (symbol.DefinedIn text) :=
  inferInstanceAs (Decidable (symbol.sectionNumber = text.number))

/-- The symbols of a table after skipping some records: each symbol is followed by
its auxiliary records, and nothing can be located behind an unreadable record. -/
def primaryAfter : Nat → List (Option CoffSymbol) → List CoffSymbol
  | _, [] => []
  | skip + 1, _ :: rest => primaryAfter skip rest
  | 0, none :: _ => []
  | 0, some symbol :: rest => symbol :: primaryAfter symbol.numberOfAuxSymbols.toNat rest

theorem primaryAfter_eq_drop (skip : Nat) (records : List (Option CoffSymbol)) :
    primaryAfter skip records = primaryAfter 0 (records.drop skip) := by
  induction skip generalizing records with
  | zero => rfl
  | succ skip ih =>
    cases records with
    | nil => rfl
    | cons record rest => exact ih rest

def CoffObject.primarySymbols (file : CoffObject) : List CoffSymbol :=
  primaryAfter 0 file.symbols

/-- What the format and the reader promise about every object file. -/
structure CoffObject.WellFormed (file : CoffObject) : Prop where
  /-- `getNumberOfSymbols` is a `uint32_t`. -/
  symbolCount : file.symbols.length < 2 ^ 32
  /-- Sections are numbered from one in the order of the section table. -/
  numbered : file.sections.map CoffSection.number = List.range' 1 file.sections.length
  /-- `SizeOfRawData` is a 32-bit field. -/
  sectionSize : ∀ text ∈ file.sections, text.size.toNat < 2 ^ 32
  /-- A section holds no more bytes than its size says. -/
  contentsLength : ∀ text ∈ file.sections, ∀ bytes ∈ text.contents,
    bytes.length ≤ text.size.toNat
  /-- A relocation names a symbol of the table. -/
  relocationSymbol : ∀ text ∈ file.sections, ∀ relocation ∈ text.relocations,
    relocation.symbol ∈ file.primarySymbols
  /-- Only an undefined symbol is of unknown type. -/
  unknownType : ∀ symbol ∈ file.primarySymbols,
    symbol.type = some .unknown → symbol.Undefined
  /-- The generic reader reports the value of the record. -/
  genericValue : ∀ symbol ∈ file.primarySymbols, symbol.refValue = symbol.value.toUInt64

instance (file : CoffObject) : Decidable file.WellFormed :=
  decidable_of_iff
    (file.symbols.length < 2 ^ 32 ∧
      file.sections.map CoffSection.number = List.range' 1 file.sections.length ∧
      (∀ text ∈ file.sections, text.size.toNat < 2 ^ 32) ∧
      (∀ text ∈ file.sections, ∀ bytes ∈ text.contents, bytes.length ≤ text.size.toNat) ∧
      (∀ text ∈ file.sections, ∀ relocation ∈ text.relocations,
        relocation.symbol ∈ file.primarySymbols) ∧
      (∀ symbol ∈ file.primarySymbols, symbol.type = some .unknown → symbol.Undefined) ∧
      (∀ symbol ∈ file.primarySymbols, symbol.refValue = symbol.value.toUInt64))
    ⟨fun ⟨count, numbered, size, contents, relocation, unknown, generic⟩ =>
        ⟨count, numbered, size, contents, relocation, unknown, generic⟩,
      fun ⟨count, numbered, size, contents, relocation, unknown, generic⟩ =>
        ⟨count, numbered, size, contents, relocation, unknown, generic⟩⟩

end VpuSim
