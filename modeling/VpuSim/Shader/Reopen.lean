import VpuSim.Shader.Loading
import VpuSim.Transition.Run

/-!
# Opening a shader binary again

`Open` replaces every member of a binary except its relocations, to which it adds those of
the file. So a binary applies the relocations of every file it was ever opened on, the last
file's at the end.
-/

namespace VpuSim

open ByteMemory Transition

namespace VpuShaderBinary

/-- A binary whose memory was zero when its constructor ran. -/
def fresh : VpuShaderBinary := new 0 0 0 0 0

/-- `Open`, whatever it returns. -/
def reopen (fuel : Nat) (self : VpuShaderBinary) (file : BinaryFile) : Option VpuShaderBinary :=
  (self.openFile fuel file).map Prod.snd

/-- The records that an `Open` of the file adds. -/
def pushed (fuel : Nat) (file : BinaryFile) : List VpuRelocation :=
  ((fresh.openFile fuel file).map fun outcome => outcome.2.relocations).getD []

def adding (leftover : List VpuRelocation) (shader : VpuShaderBinary) : VpuShaderBinary :=
  { shader with relocations := leftover ++ shader.relocations }

/-- The two load the same into every buffer. -/
def LoadsAlike (first second : VpuShaderBinary) : Prop :=
  ∀ contents size,
    (first.load (.holding contents) size).1 = (second.load (.holding contents) size).1 ∧
      ∀ k, (first.load (.holding contents) size).2.byte k =
        (second.load (.holding contents) size).2.byte k

/-- Applied before the relocations of `shader`, the leftover ones change nothing: every
byte that they leave is patched again, or is a byte of the code that was so before. -/
def Unnoticed (shader : VpuShaderBinary) (code : List UInt8) (leftover : List VpuRelocation) :
    Prop :=
  (∀ relocation ∈ leftover, relocation.Supported) ∧
    ∀ k value, mostRecent (shader.relocations.map VpuRelocation.patch) k = none →
      mostRecent (leftover.map VpuRelocation.patch) k = some value →
      k < shader.codeSize.toNat ∧ code.getD k 0 = value

theorem buildRelocations_eq (file : CoffObject) (fuel : Nat) (tlsOffset : UInt32)
    (relocations : List CoffRelocation) (recorded : List VpuRelocation) :
    buildRelocations file fuel tlsOffset relocations recorded =
      (buildRelocations file fuel tlsOffset relocations []).map fun outcome =>
        (outcome.1, recorded ++ outcome.2) := by
  induction relocations generalizing recorded with
  | nil => simp [buildRelocations]
  | cons relocation rest ih =>
    rw [buildRelocations, buildRelocations]
    cases relocation.symbol.type with
    | none => simp
    | some type =>
      cases relocation.symbol.name with
      | none => simp
      | some name =>
        cases resolved : symbolOffset file fuel tlsOffset relocation.symbol name type with
        | none => simp [resolved]
        | some found =>
          cases found with
          | none => simp [resolved]
          | some offset =>
            simp only [resolved]
            by_cases admitted : Admitted relocation.type.toUInt32
            · simp only [if_pos admitted]
              rw [ih, ih ([] ++ _), Option.map_map]
              simp only [List.nil_append, Function.comp_def, List.append_assoc]
            · simp [if_neg admitted]

section Open

variable {self : VpuShaderBinary} {fuel : Nat} {file : CoffObject}

/-- What `Open` returns and adds is decided by the file, unless the section it goes on with
is gone. -/
theorem openFile_eq_fresh {file : BinaryFile} (readsOwn : ¬ self.ReadsDeadSection fuel file) :
    ((self.openFile fuel file).map fun outcome => (outcome.1, outcome.2.relocations)) =
      (fresh.openFile fuel file).map fun outcome =>
        (outcome.1, self.relocations ++ outcome.2.relocations) := by
  have nothing : self.relocations = self.relocations ++ fresh.relocations :=
    (List.append_nil _).symm
  cases file with
  | unreadable | notObject | notCoff => exact congrArg (fun added => some (false, added)) nothing
  | coff file =>
    rw [openFile, openFile]
    cases tls : findExport file fuel tlsSymbol with
    | none => rfl
    | some tlsFound =>
      cases tlsFound with
      | none => exact congrArg (fun added => some (false, added)) nothing
      | some tlsSize =>
        cases main : findExport file fuel mainSymbol with
        | none => rfl
        | some mainFound =>
          cases mainFound with
          | none => exact congrArg (fun added => some (false, added)) nothing
          | some mainOffset =>
            rw [findCode_eq, findCode_eq]
            rcases found : findText file.sections none with ⟨named, text⟩
            cases named with
            | false => exact congrArg (fun added => some (false, added)) nothing
            | true =>
              cases text with
              | none =>
                have noCode : self.code = none := by
                  rw [← Option.not_isSome_iff_eq_none]
                  exact fun dead => readsOwn ⟨⟨_, tls⟩, ⟨_, main⟩, found, dead⟩
                rw [noCode]
                exact congrArg (fun added => some (false, added)) nothing
              | some text =>
                simp only [Option.some_or, Option.map_some, Option.getD_some, Option.isNone_some,
                  Bool.false_eq_true, if_false]
                rw [buildRelocations_eq _ _ _ _ self.relocations]
                have empty : fresh.relocations = [] := rfl
                rw [empty]
                rcases buildRelocations file fuel _ text.relocations [] with _ | ⟨_ | _, _⟩
                · rfl
                · rfl
                · rfl

/-- An `Open` that comes to an end has used a section of its own file. -/
theorem readsOwn_of_openFile {file : BinaryFile} {outcome : Bool × VpuShaderBinary}
    (opened : self.openFile fuel file = some outcome) : ¬ self.ReadsDeadSection fuel file := by
  cases file with
  | unreadable | notObject | notCoff => exact id
  | coff file =>
    rintro ⟨⟨tlsSize, tls⟩, ⟨mainOffset, main⟩, found, dead⟩
    obtain ⟨text, held⟩ := Option.isSome_iff_exists.mp dead
    simp [openFile, findCode_eq, tls, main, found, held] at opened

/-- A file that a fresh binary opens is opened by every binary, with the records that the
binary already has in front. -/
theorem openFile_over {shader : VpuShaderBinary}
    (opened : fresh.openFile fuel (.coff file) = some (true, shader)) (self : VpuShaderBinary) :
    self.openFile fuel (.coff file) =
      some (true, shader.adding self.relocations) := by
  obtain ⟨tlsSize, mainOffset, text, relocations, tls, main, found, built, rfl⟩ :=
    openFile_true opened
  have rebuilt : buildRelocations file fuel (alignSectionSize text.size.toUInt32)
      text.relocations self.relocations = some (true, self.relocations ++ relocations) := by
    rw [buildRelocations_eq]
    exact congrArg _ built
  simp [openFile, tls, main, findCode_eq, found, rebuilt, adding]

theorem pushed_of_opens {shader : VpuShaderBinary}
    (opened : fresh.openFile fuel (.coff file) = some (true, shader)) :
    pushed fuel (.coff file) = shader.relocations := by
  rw [pushed, opened]
  rfl

/-- One `Open` adds the records of its file. -/
theorem relocations_of_reopen {file : BinaryFile} {next : VpuShaderBinary}
    (stepped : self.reopen fuel file = some next) :
    next.relocations = self.relocations ++ pushed fuel file := by
  obtain ⟨⟨returned, _⟩, opened, rfl⟩ := Option.map_eq_some_iff.mp stepped
  have same := openFile_eq_fresh (readsOwn_of_openFile opened)
  rw [opened, Option.map_some] at same
  obtain ⟨⟨_, alone⟩, openedAlone, added⟩ := Option.map_eq_some_iff.mp same.symm
  rw [pushed, openedAlone]
  exact (congrArg Prod.snd added).symm

/-- A run of `Open`s adds the records of its files, one after the other. -/
theorem relocations_of_run {history : List BinaryFile} {last : VpuShaderBinary}
    (ran : history.foldlM (reopen fuel) self = some last) :
    last.relocations = self.relocations ++ history.flatMap (pushed fuel) := by
  induction history generalizing self with
  | nil =>
    cases ran
    exact (List.append_nil _).symm
  | cons file rest ih =>
    rw [List.foldlM_cons] at ran
    obtain ⟨next, stepped, continued⟩ := Option.bind_eq_some_iff.mp ran
    rw [ih continued, relocations_of_reopen stepped, List.flatMap_cons, List.append_assoc]

end Open

section Load

variable {shader : VpuShaderBinary} {code : List UInt8} {leftover : List VpuRelocation}

/-- A byte of the code that was cleared and copied. -/
theorem mostRecent_unrelocated (fits : code.length ≤ shader.codeSize.toNat) (k : Nat)
    (value : UInt8) :
    mostRecent [⟨0, shader.codeSize.toNat, fun _ => 0⟩,
        ⟨0, code.length, fun k => code.getD k 0⟩] k = some value ↔
      k < shader.codeSize.toNat ∧ code.getD k 0 = value := by
  simp only [mostRecent, List.reverse_cons, List.reverse_nil, List.nil_append, List.cons_append,
    List.find?_cons, List.find?_nil, Store.Covers, Nat.zero_le, true_and, Nat.zero_add]
  by_cases copied : k < code.length
  · have cleared : k < shader.codeSize.toNat := Nat.lt_of_lt_of_le copied fits
    simp [copied, cleared]
  · have past : code.getD k 0 = 0 := List.getD_eq_default _ _ (Nat.not_lt.mp copied)
    by_cases cleared : k < shader.codeSize.toNat
    · simp only [copied, cleared, past, decide_true, decide_false, Option.map_some,
        Option.some.injEq, true_and]
    · simp [copied, cleared]

/-- Leftover relocations do not change what is loaded exactly if they go unnoticed. -/
theorem adding_loadsAlike_iff (found : shader.code.bind CoffSection.contents = some code)
    (fits : code.length ≤ shader.codeSize.toNat)
    (supported : ∀ relocation ∈ shader.relocations, relocation.Supported) :
    (shader.adding leftover).LoadsAlike shader ↔ shader.Unnoticed code leftover := by
  have foundAdding : (shader.adding leftover).code.bind CoffSection.contents = some code := found
  have alone := fun base size => (load_accepts_iff found fits base size).mpr supported
  by_cases leftoverSupported : ∀ relocation ∈ leftover, relocation.Supported
  · have all : ∀ relocation ∈ (shader.adding leftover).relocations, relocation.Supported :=
      List.forall_mem_append.mpr ⟨leftoverSupported, supported⟩
    have both := fun base size => (load_accepts_iff foundAdding fits base size).mpr all
    have stores : shader.loadStores code = [⟨0, shader.codeSize.toNat, fun _ => 0⟩,
        ⟨0, code.length, fun k => code.getD k 0⟩] ++
          shader.relocations.map VpuRelocation.patch := by
      rw [loadStores, VpuImageHeader.performedPatches_of_all supported]
      rfl
    have allStores : (shader.adding leftover).loadStores code =
        [⟨0, shader.codeSize.toNat, fun _ => 0⟩, ⟨0, code.length, fun k => code.getD k 0⟩] ++
          (leftover.map VpuRelocation.patch ++ shader.relocations.map VpuRelocation.patch) := by
      rw [loadStores, VpuImageHeader.performedPatches_of_all all, ← List.map_append]
      rfl
    have inserted := @replay_insert_iff [⟨0, shader.codeSize.toNat, fun _ => 0⟩,
      ⟨0, code.length, fun k => code.getD k 0⟩] (leftover.map VpuRelocation.patch)
      (shader.relocations.map VpuRelocation.patch)
    simp only [mostRecent_unrelocated fits] at inserted
    rw [Unnoticed, and_iff_right leftoverSupported, ← inserted, ← stores, ← allStores]
    constructor
    · intro same contents address
      have bytes := (same contents 0).2 address
      rwa [byte_load foundAdding fits, byte_load found fits] at bytes
    · intro same contents size
      refine ⟨(both _ size).trans (alone _ size).symm, ?_⟩
      intro address
      rw [byte_load foundAdding fits, byte_load found fits]
      exact same contents address
  · refine iff_of_false ?_ fun unnoticed => leftoverSupported unnoticed.1
    intro same
    have accepted := (same (fun _ => 0) 0).1.trans (alone _ 0)
    have all := (load_accepts_iff foundAdding fits _ 0).mp accepted
    exact leftoverSupported (List.forall_mem_append.mp all).1

end Load

section Run

variable {fuel : Nat} {file : CoffObject} {shader : VpuShaderBinary} {code : List UInt8}

/-- After any run of `Open`s, a file that a fresh binary opens and loads is opened with the
relocations of the earlier files in front of its own, and it loads as it does from a fresh
binary exactly if those go unnoticed. -/
theorem reopen_loadsAlike_iff {history : List BinaryFile} {last : VpuShaderBinary}
    (ran : history.foldlM (reopen fuel) fresh = some last)
    (opened : fresh.openFile fuel (.coff file) = some (true, shader))
    {base : Memory} {size : UInt32} (loaded : (shader.load base size).1 = true) :
    ∃ code reopened, shader.code.bind CoffSection.contents = some code ∧
      last.openFile fuel (.coff file) = some (true, reopened) ∧
      reopened.relocations = history.flatMap (pushed fuel) ++ shader.relocations ∧
      reopened.getMainOffset = shader.getMainOffset ∧
      reopened.getTlsOffset = shader.getTlsOffset ∧
      reopened.getImageSize = shader.getImageSize ∧
      (reopened.LoadsAlike shader ↔ shader.Unnoticed code (history.flatMap (pushed fuel))) := by
  have leftover := relocations_of_run ran
  obtain ⟨code, found, fits⟩ := contents_of_load loaded
  have supported := (load_accepts_iff found fits base size).mp loaded
  refine ⟨code, _, found, openFile_over opened last, ?_, rfl, rfl, rfl, ?_⟩
  · rw [adding, leftover]
    rfl
  · rw [leftover]
    exact adding_loadsAlike_iff found fits supported

/-- The relocations of a file are patched again when the file is opened again. -/
theorem unnoticed_replicate (supported : ∀ relocation ∈ shader.relocations, relocation.Supported)
    (count : Nat) :
    shader.Unnoticed code (List.replicate count shader.relocations).flatten := by
  have own : ∀ relocation ∈ (List.replicate count shader.relocations).flatten,
      relocation ∈ shader.relocations := by
    intro relocation member
    obtain ⟨records, isCopy, inRecords⟩ := List.mem_flatten.mp member
    rwa [List.eq_of_mem_replicate isCopy] at inRecords
  refine ⟨fun relocation member => supported relocation (own relocation member), ?_⟩
  intro k value notPatched patched
  obtain ⟨store, member, covers⟩ := mostRecent_isSome_iff.mp (Option.isSome_of_eq_some patched)
  obtain ⟨relocation, inLeftover, rfl⟩ := List.mem_map.mp member
  have again := mostRecent_isSome_iff.mpr
    ⟨_, List.mem_map_of_mem (own relocation inLeftover), covers⟩
  rw [notPatched] at again
  cases again

theorem foldlM_replicate (opened : fresh.openFile fuel (.coff file) = some (true, shader))
    (count : Nat) (self : VpuShaderBinary) :
    ∃ last,
      (List.replicate count (BinaryFile.coff file)).foldlM (reopen fuel) self = some last := by
  induction count generalizing self with
  | zero => exact ⟨self, rfl⟩
  | succ count ih =>
    have stepped : self.reopen fuel (.coff file) = some (shader.adding self.relocations) := by
      rw [reopen, openFile_over opened self]
      rfl
    obtain ⟨last, ran⟩ := ih (shader.adding self.relocations)
    refine ⟨last, ?_⟩
    rw [List.replicate_succ, List.foldlM_cons, stepped]
    exact ran

/-- A file may be opened any number of times: it loads as if it had been opened once, with a
copy of its relocations from every time. -/
theorem reopen_replicate (opened : fresh.openFile fuel (.coff file) = some (true, shader))
    (found : shader.code.bind CoffSection.contents = some code)
    (fits : code.length ≤ shader.codeSize.toNat)
    (supported : ∀ relocation ∈ shader.relocations, relocation.Supported) (count : Nat) :
    ∃ last reopened,
      (List.replicate count (BinaryFile.coff file)).foldlM (reopen fuel) fresh = some last ∧
      last.openFile fuel (.coff file) = some (true, reopened) ∧
      reopened.relocations = (List.replicate (count + 1) shader.relocations).flatten ∧
      reopened.LoadsAlike shader := by
  obtain ⟨last, ran⟩ := foldlM_replicate opened count fresh
  have leftover := relocations_of_run ran
  rw [List.flatMap_replicate, pushed_of_opens opened] at leftover
  refine ⟨last, _, ran, openFile_over opened last, ?_, ?_⟩
  · rw [adding, leftover, List.replicate_succ', List.flatten_append]
    simp [fresh, new]
  · rw [leftover]
    exact (adding_loadsAlike_iff found fits supported).mpr (unnoticed_replicate supported count)

end Run

/-- After an object with an absolute reference no other one loads. -/
theorem reopen_loadsAlike_iff_absolute :
    ∃ reopened, (referenceShader 6).openFile 3 (.coff (referenceFile 4)) = some (true, reopened) ∧
      ¬ reopened.LoadsAlike (referenceShader 4) := by
  obtain ⟨code, reopened, found, opened, -, -, -, -, alike⟩ :=
    @reopen_loadsAlike_iff 3 (referenceFile 4) (referenceShader 4)
      [.unreadable, .coff (referenceFile 6)] (referenceShader 6) (by rfl) (by rfl)
      (.holding fun _ => 0) 8192 (by decide)
  refine ⟨reopened, opened, ?_⟩
  intro same
  exact absurd ((alike.mp same).1 ⟨6, 0, 4096⟩ (by decide)) (by decide)

theorem reopen_replicate_small :
    ∃ last reopened,
      (List.replicate 5 (BinaryFile.coff (referenceFile 4))).foldlM (reopen 3) fresh = some last ∧
      last.openFile 3 (.coff (referenceFile 4)) = some (true, reopened) ∧
      reopened.relocations =
        (List.replicate 6 (referenceShader 4).relocations).flatten ∧
      reopened.LoadsAlike (referenceShader 4) :=
  @reopen_replicate 3 (referenceFile 4) (referenceShader 4) _ (by rfl) rfl (by decide) (by decide) 5

end VpuShaderBinary

end VpuSim
