import VpuSim.Object.Open
import VpuSim.Object.Records
import VpuSim.Transition.Run

/-!
# Reusing an object

`Open` adds to whatever the object holds and `Close` clears the symbol table only.
The binary is replaced early on, so what an object keeps from an earlier file can
also be a section whose binary is gone.
-/

namespace VpuSim

open Transition

/-- A file that can be opened: its symbols go into an empty map, a last section named
`.text` is found, and the symbols of its relocations can be read. -/
def CoffObject.OpensAlone (file : CoffObject) : Prop :=
  (loadSymbolTable file.symbols []).1 = true ∧
    ∃ text, findText file.sections none = (true, some text) ∧
      ∀ relocation ∈ text.relocations,
        relocation.symbol.type.isSome ∧ relocation.symbol.name.isSome

/-- `Open` goes on with a section of an earlier file, whose binary it has just released. -/
def VpuObject.ReadsDeadSection (self : VpuObject) : BinaryFile → Prop
  | .unreadable | .notObject | .notCoff => False
  | .coff file => (loadSymbolTable file.symbols self.symbolTable).1 = true ∧
      findText file.sections none = (true, none) ∧ self.code.isSome

/-- An object with what matters of `m_binary`. -/
structure ReusedObject where
  object : VpuObject
  /-- the file that `m_binary` holds -/
  binary : Option BinaryFile
  /-- `m_code` is null or a section of that file. -/
  codeHeld : Bool
  /-- The last call was an `Open` that returned true. -/
  justOpened : Bool

inductive ObjectCall where
  | openFile (file : BinaryFile)
  | close

namespace ReusedObject

def new : ReusedObject := ⟨.new, none, true, false⟩

def binaryAfter (self : ReusedObject) : BinaryFile → Option BinaryFile
  | .unreadable => self.binary
  | file => some file

def codeHeldAfter (self : ReusedObject) : BinaryFile → Bool
  | .unreadable => self.codeHeld
  | .notObject | .notCoff => self.object.code.isNone
  | .coff file => self.object.code.isNone ||
      (loadSymbolTable file.symbols self.object.symbolTable).1 &&
        (findText file.sections none).2.isSome

def openFile (self : ReusedObject) (file : BinaryFile) : ReusedObject where
  object := (self.object.openFile file).2
  binary := self.binaryAfter file
  codeHeld := self.codeHeldAfter file
  justOpened := (self.object.openFile file).1

def close (self : ReusedObject) : ReusedObject :=
  { self with object := self.object.close, justOpened := false }

/-- One call; none of them fails as a step. -/
def step (self : ReusedObject) : ObjectCall → Option ReusedObject
  | .openFile file => some (self.openFile file)
  | .close => some self.close

/-- An object marked loaded is what a fresh one gets from the file that it holds. -/
def Settled (reused : ReusedObject) : Prop :=
  reused.object.loaded = true → reused.codeHeld = true ∧
    ∃ file, reused.binary = some file ∧ VpuObject.new.openFile file = (true, reused.object)

/-- What an `Open` is to do, whatever came before it. -/
structure OpensCleanly (reused : ReusedObject) (file : BinaryFile) : Prop where
  readsOwn : ¬ reused.object.ReadsDeadSection file
  asFresh : (reused.openFile file).justOpened = true →
    VpuObject.new.openFile file = (true, (reused.openFile file).object)
  notMixed : (reused.openFile file).justOpened = false → (reused.openFile file).Settled
  byFileOnly : reused.justOpened = false →
    (reused.openFile file).justOpened = (VpuObject.new.openFile file).1

def Clean (reused : ReusedObject) : ObjectCall → Prop
  | .openFile file => reused.OpensCleanly file
  | .close => True

/-- Every `Open` of the run does what it is to do. -/
def AlwaysClean : ReusedObject → List ObjectCall → Prop := Along step Clean

/-- Nothing is left in the object that gets in the way of the file. -/
def FreeFor (reused : ReusedObject) : BinaryFile → Prop
  | .unreadable => True
  | .notObject | .notCoff => reused.object.loaded = false
  | .coff file =>
    (file.OpensAlone ∧ reused.object.symbolTable = [] ∧ reused.object.relocations = []) ∨
      (¬ file.OpensAlone ∧ reused.object.loaded = false ∧
        ¬ reused.object.ReadsDeadSection (.coff file))

def Free (reused : ReusedObject) : ObjectCall → Prop
  | .openFile file => reused.FreeFor file
  | .close => True

/-- Every `Open` of the run finds the object free for its file. -/
def AllFree : ReusedObject → List ObjectCall → Prop := Along step Free

end ReusedObject

namespace VpuObject

variable {self : VpuObject} {file : CoffObject}

theorem opensAlone_iff : file.OpensAlone ↔ (new.openFile (.coff file)).1 = true := by
  constructor
  · rintro ⟨symbols, text, found, readable⟩
    have resolved : loadRelocations text.relocations new.relocations =
        (true, (loadRelocations text.relocations []).2) :=
      Prod.ext (loadRelocations_accepts_iff.mpr readable) rfl
    have opened := openFile_true_iff.mpr ⟨_, text, _, Prod.ext symbols rfl, found, resolved, rfl⟩
    exact congrArg Prod.fst opened
  · intro opened
    obtain ⟨symbolTable, text, relocations, symbols, found, resolved, -⟩ :=
      openFile_true_iff.mp (Prod.ext opened rfl)
    exact ⟨congrArg Prod.fst symbols, text, found,
      loadRelocations_accepts_iff.mp (congrArg Prod.fst resolved)⟩

/-- Over the symbols and relocations of an object a file that opens adds its own. -/
theorem openFile_of_opensAlone (alone : file.OpensAlone)
    (symbols : (loadSymbolTable file.symbols self.symbolTable).1 = true) :
    ∃ fresh, new.openFile (.coff file) = (true, fresh) ∧
      self.openFile (.coff file) = (true, { fresh with
        symbolTable := fresh.symbolTable ++ self.symbolTable
        relocations := self.relocations ++ fresh.relocations }) := by
  obtain ⟨symbolTable, text, relocations, ownSymbols, found, resolved, opened⟩ :=
    openFile_true_iff.mp (Prod.ext (opensAlone_iff.mp alone) rfl)
  obtain ⟨own, ownLoaded, overLoaded⟩ := loadSymbolTable_over symbols
  refine ⟨_, openFile_true_iff.mpr ⟨own, text, relocations, ownLoaded, found, resolved, rfl⟩, ?_⟩
  apply openFile_true_iff.mpr
  refine ⟨_, text, _, overLoaded, ?_, ?_, rfl⟩
  · rw [findText_eq, show findText file.sections none = (true, some text) from found]
    rfl
  · rw [loadRelocations_eq, show loadRelocations text.relocations [] = (true, relocations)
      from resolved]

/-- A file that opens over an object without the object's section opens alone. -/
theorem opensAlone_of_openFile (opened : (self.openFile (.coff file)).1 = true)
    (readsOwn : ¬ self.ReadsDeadSection (.coff file)) : file.OpensAlone := by
  obtain ⟨symbolTable, text, relocations, symbols, found, resolved, -⟩ :=
    openFile_true_iff.mp (Prod.ext opened rfl)
  have symbolsLoaded := congrArg Prod.fst symbols
  obtain ⟨own, ownLoaded, -⟩ := loadSymbolTable_over symbolsLoaded
  have readable := loadRelocations_accepts_iff.mp (congrArg Prod.fst resolved)
  rw [findText_eq] at found
  have named : (findText file.sections none).1 = true := congrArg Prod.fst found
  cases last : (findText file.sections none).2 with
  | none =>
    rw [last, Option.none_or] at found
    have code : self.code = some text := congrArg Prod.snd found
    exact absurd ⟨symbolsLoaded, Prod.ext named last, by rw [code]; rfl⟩ readsOwn
  | some found' =>
    rw [last, Option.some_or] at found
    cases congrArg Prod.snd found
    exact ⟨congrArg Prod.fst ownLoaded, text, Prod.ext named last, readable⟩

end VpuObject

namespace ReusedObject

variable {reused : ReusedObject} {file : CoffObject}

/-- The invariant of a run: a loaded object is settled, and after an `Open` that
returned true the object is loaded. -/
structure Invariant (reused : ReusedObject) : Prop where
  settled : reused.Settled
  loaded : reused.justOpened = true → reused.object.loaded = true

theorem code_isSome_of_settled (settled : reused.Settled) (loaded : reused.object.loaded = true) :
    reused.object.code.isSome := by
  obtain ⟨-, file, -, opened⟩ := settled loaded
  cases file with
  | unreadable => cases opened
  | notObject => cases opened
  | notCoff => cases opened
  | coff file =>
    obtain ⟨symbolTable, text, relocations, -, -, -, same⟩ := VpuObject.openFile_true_iff.mp opened
    rw [same]
    rfl

/-- A failed `Open` that has released the binary must not leave a loaded object. -/
theorem not_loaded_of_settled {file : BinaryFile} (replaced : file ≠ .unreadable)
    (failed : (VpuObject.new.openFile file).1 = false)
    (settled : (reused.openFile file).Settled) :
    (reused.openFile file).object.loaded = false := by
  apply Bool.eq_false_iff.mpr
  intro loaded
  obtain ⟨-, held, isHeld, opened⟩ := settled loaded
  have same : held = file := by
    cases file with
    | unreadable => exact absurd rfl replaced
    | notObject => exact (Option.some.inj isHeld).symm
    | notCoff => exact (Option.some.inj isHeld).symm
    | coff file => exact (Option.some.inj isHeld).symm
  rw [same] at opened
  rw [opened] at failed
  cases failed

/-- A file that cannot be opened is dealt with cleanly if the object is not loaded. -/
theorem opensCleanly_iff_of_failed {file : BinaryFile} (replaced : file ≠ .unreadable)
    (readsOwn : ¬ reused.object.ReadsDeadSection file)
    (failed : (reused.object.openFile file).1 = false)
    (alone : (VpuObject.new.openFile file).1 = false) :
    reused.OpensCleanly file ↔ reused.object.loaded = false := by
  have kept := VpuObject.loaded_of_openFile_false failed
  constructor
  · intro clean
    exact kept.symm.trans (not_loaded_of_settled replaced alone (clean.notMixed failed))
  · intro closed
    constructor
    · exact readsOwn
    · intro opened
      cases failed.symm.trans opened
    · intro _ loaded
      cases (kept.trans closed).symm.trans loaded
    · exact fun _ => failed.trans alone.symm

/-- A name that is already there makes `Open` fail on a file that opens alone, and what
remains loaded has lost its code. -/
theorem symbols_load_of_clean (invariant : reused.Invariant) (alone : file.OpensAlone)
    (clean : reused.OpensCleanly (.coff file)) :
    (loadSymbolTable file.symbols reused.object.symbolTable).1 = true := by
  apply Bool.of_not_eq_false
  intro clash
  have failed : (reused.object.openFile (.coff file)).1 = false := by
    apply Bool.eq_false_iff.mpr
    intro opened
    obtain ⟨_, _, _, loaded, -⟩ := VpuObject.openFile_true_iff.mp (Prod.ext opened rfl)
    cases clash.symm.trans (congrArg Prod.fst loaded)
  cases opened : reused.justOpened with
  | false =>
    have freshFails := (clean.byFileOnly opened).symm.trans failed
    cases (VpuObject.opensAlone_iff.mp alone).symm.trans freshFails
  | true =>
    have loaded := invariant.loaded opened
    have kept := (VpuObject.loaded_of_openFile_false failed).trans loaded
    have held : reused.codeHeldAfter (.coff file) = true := (clean.notMixed failed kept).1
    obtain ⟨text, code⟩ :=
      Option.isSome_iff_exists.mp (code_isSome_of_settled invariant.settled loaded)
    simp [codeHeldAfter, clash, code] at held

theorem opensCleanly_of_empty (alone : file.OpensAlone)
    (noSymbols : reused.object.symbolTable = []) (noRelocations : reused.object.relocations = []) :
    reused.OpensCleanly (.coff file) := by
  have symbols : (loadSymbolTable file.symbols reused.object.symbolTable).1 = true := by
    rw [noSymbols]
    exact alone.1
  obtain ⟨fresh, freshOpened, opened⟩ := VpuObject.openFile_of_opensAlone alone symbols
  rw [noSymbols, noRelocations, List.append_nil, List.nil_append] at opened
  constructor
  · rintro ⟨-, noText, -⟩
    obtain ⟨-, text, found, -⟩ := alone
    cases noText.symm.trans found
  · intro _
    rw [freshOpened]
    exact (congrArg (fun outcome => (true, outcome.2)) opened).symm
  · intro failed
    cases (congrArg Prod.fst opened).symm.trans failed
  · intro _
    exact (congrArg Prod.fst opened).trans (VpuObject.opensAlone_iff.mp alone).symm

theorem opensCleanly_iff_of_opensAlone (invariant : reused.Invariant) (alone : file.OpensAlone) :
    reused.OpensCleanly (.coff file) ↔
      reused.object.symbolTable = [] ∧ reused.object.relocations = [] := by
  constructor
  · intro clean
    have symbols := symbols_load_of_clean invariant alone clean
    obtain ⟨fresh, freshOpened, opened⟩ := VpuObject.openFile_of_opensAlone alone symbols
    have same := clean.asFresh (congrArg Prod.fst opened)
    have object : (reused.openFile (.coff file)).object = _ := congrArg Prod.snd opened
    rw [freshOpened, object] at same
    have fields := congrArg Prod.snd same
    constructor
    · exact List.append_right_eq_self.mp (congrArg VpuObject.symbolTable fields).symm
    · exact List.append_left_eq_self.mp (congrArg VpuObject.relocations fields).symm
  · rintro ⟨noSymbols, noRelocations⟩
    exact opensCleanly_of_empty alone noSymbols noRelocations

/-- One `Open` does what it is to do exactly if the object is free for the file. -/
theorem opensCleanly_iff (invariant : reused.Invariant) (file : BinaryFile) :
    reused.OpensCleanly file ↔ reused.FreeFor file := by
  cases file with
  | unreadable =>
    refine iff_of_true ?_ trivial
    exact ⟨fun dead => dead, fun opened => (nomatch opened), fun _ => invariant.settled,
      fun _ => rfl⟩
  | notObject =>
    exact opensCleanly_iff_of_failed (fun same => nomatch same) (fun dead => dead) rfl rfl
  | notCoff =>
    exact opensCleanly_iff_of_failed (fun same => nomatch same) (fun dead => dead) rfl rfl
  | coff file =>
    rw [FreeFor]
    by_cases alone : file.OpensAlone
    · rw [opensCleanly_iff_of_opensAlone invariant alone, and_iff_right alone,
        or_iff_left (fun other => other.1 alone)]
    · rw [or_iff_right (fun other => alone other.1), and_iff_right alone]
      by_cases dead : reused.object.ReadsDeadSection (.coff file)
      · exact iff_of_false (fun clean => clean.readsOwn dead) (fun free => free.2 dead)
      · have failed := mt (fun opened => VpuObject.opensAlone_of_openFile opened dead) alone
        have freshFailed := mt VpuObject.opensAlone_iff.mpr alone
        rw [and_iff_left dead]
        exact opensCleanly_iff_of_failed (fun same => nomatch same) dead
          (Bool.eq_false_iff.mpr failed) (Bool.eq_false_iff.mpr freshFailed)

theorem settled_of_opened (opened : (reused.openFile (.coff file)).justOpened = true)
    (asFresh : VpuObject.new.openFile (.coff file) =
      (true, (reused.openFile (.coff file)).object)) :
    (reused.openFile (.coff file)).Settled := by
  intro _
  refine ⟨?_, .coff file, rfl, asFresh⟩
  obtain ⟨_, _, _, symbols, -⟩ := VpuObject.openFile_true_iff.mp (Prod.ext opened rfl)
  obtain ⟨_, text, _, -, found, -⟩ := VpuObject.openFile_true_iff.mp asFresh
  change codeHeldAfter reused (.coff file) = true
  rw [codeHeldAfter, symbols, show findText file.sections none = (true, some text) from found]
  exact Bool.or_true _

theorem Invariant.openFile {file : BinaryFile} (clean : reused.OpensCleanly file) :
    (reused.openFile file).Invariant := by
  cases opened : (reused.openFile file).justOpened with
  | false => exact ⟨clean.notMixed opened, fun again => nomatch opened.symm.trans again⟩
  | true =>
    have asFresh := clean.asFresh opened
    cases file with
    | unreadable => cases asFresh
    | notObject => cases asFresh
    | notCoff => cases asFresh
    | coff file =>
      refine ⟨settled_of_opened opened asFresh, fun _ => ?_⟩
      obtain ⟨_, _, _, -, -, -, object⟩ := VpuObject.openFile_true_iff.mp asFresh
      rw [object]

theorem Invariant.close (reused : ReusedObject) : reused.close.Invariant :=
  ⟨fun loaded => (nomatch loaded), fun opened => (nomatch opened)⟩

theorem Invariant.step {call : ObjectCall} {next : ReusedObject} (clean : reused.Clean call)
    (stepped : reused.step call = some next) : next.Invariant := by
  cases call with
  | openFile file =>
    cases stepped
    exact Invariant.openFile clean
  | close =>
    cases stepped
    exact Invariant.close reused

/-- In a run on a fresh object every `Open` does what it is to do exactly if it always
finds the object free for its file. -/
theorem alwaysClean_iff (calls : List ObjectCall) : new.AlwaysClean calls ↔ new.AllFree calls := by
  have fresh : new.Invariant :=
    ⟨fun loaded => absurd loaded Bool.false_ne_true, fun opened => absurd opened Bool.false_ne_true⟩
  apply along_congr _ _ fresh
  · intro reused call invariant
    cases call with
    | openFile file => exact opensCleanly_iff invariant file
    | close => exact Iff.rfl
  · intro reused call next _ clean stepped
    exact Invariant.step clean stepped

/-- A file with one relocation. -/
def patchedFile : CoffObject where
  symbols := [some ⟨some "g_tls", 72, 0, 0, some .data, 72, noNul_gTls⟩]
  sections := [⟨1, some ".text", 4, some [0, 0, 0, 0],
    [⟨0, 4, ⟨some "g_tls", 72, 0, 0, some .data, 72, noNul_gTls⟩⟩]⟩]

/-- Opened again after `Close`, the file has its relocation twice; opened again without
it, the object stays marked loaded and its code is gone. -/
theorem not_alwaysClean :
    ¬ new.AlwaysClean [.openFile (.coff patchedFile), .close, .openFile (.coff patchedFile)] ∧
      ¬ new.AlwaysClean [.openFile (.coff patchedFile), .openFile (.coff patchedFile)] := by
  constructor
  · intro always
    have again : OpensCleanly _ _ := ((always.2 _ rfl).2 _ rfl).1
    have same := congrArg (fun outcome => outcome.2.relocations.length) (again.asFresh rfl)
    exact absurd same (by decide)
  · intro always
    have again : OpensCleanly _ _ := (always.2 _ rfl).1
    have held := (again.notMixed rfl rfl).1
    exact absurd held (by decide)

end ReusedObject

end VpuSim
