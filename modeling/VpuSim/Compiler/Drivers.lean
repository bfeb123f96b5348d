import VpuSim.Compiler.Run

/-!
# The two drivers

`llvm_linker` and `llvm_compile` drive LLVM with its options at their defaults, as nobody
parses a command line. Each opens its output late and keeps it at the very end. So there are
two ways to fail: before the output was opened, which leaves the file of an earlier run, and
after that, which removes it. While it loads its inputs the linker may also end the process.
-/

namespace VpuSim

/-- How a driver ends. -/
inductive DriverEnd (File : Type)
  /-- `ExitOnErr` ends the process; the output was not opened -/
  | exited
  /-- a return before the output was opened -/
  | refused (code : Int)
  /-- a return without `keep` -/
  | discarded (code : Int)
  | kept (file : File)

namespace DriverEnd

variable {File Output : Type}

/-- What is in the place of the output afterwards. -/
def output (absent before : Output) (present : File → Output) : DriverEnd File → Output
  | exited | refused _ => before
  | discarded _ => absent
  | kept file => present file

/-- The output was not opened. -/
def Leaves (driver : DriverEnd File) : Prop := driver = exited ∨ ∃ code, driver = refused code

theorem Leaves.output_eq {driver : DriverEnd File} (leaves : driver.Leaves)
    (absent before : Output) (present : File → Output) :
    driver.output absent before present = before := by
  rcases leaves with rfl | ⟨code, rfl⟩ <;> rfl

/-- The file, or the exit code where none was kept. -/
def toExcept : DriverEnd File → Except Int File
  | exited => .error 1
  | refused code | discarded code => .error code
  | kept file => .ok file

end DriverEnd

structure LinkFlags where
  overrideFromSrc : Bool
  linkOnlyNeeded : Bool
  deriving DecidableEq

def LinkFlags.none : LinkFlags := ⟨false, false⟩

/-- The options of `llvm_linker` that decide what is linked. -/
structure LinkOptions where
  overridingInputs : List String
  internalize : Bool
  disableDITypeMap : Bool
  onlyNeeded : Bool

def LinkOptions.initial : LinkOptions := ⟨[], false, false, false⟩

/-- What the drivers call. Every call returns, and a target that is found makes a machine, as
`llvm_compile` asserts. -/
structure Llvm (Source Module Bitcode : Type) where
  parseIR : Source → Option Module
  /-- the module with its metadata, its debug information upgraded; `none` on an error -/
  materializeMetadata : Module → Option Module
  empty : Module
  /-- `none` where an error is reported; the last argument asks for internalization -/
  linkInModule : Module → Module → LinkFlags → Bool → Option Module
  /-- `verifyModule`: whether the module is broken -/
  broken : Module → Bool
  bitcode : Module → Bitcode
  parseBitcode : Bitcode → Option Module
  triple : Module → String
  defaultTriple : String
  lookupTarget : String → Bool
  /-- whether the target supports the file type -/
  emitsObject : Module → Bool
  /-- the passes: whether they reported an error, and what they wrote -/
  runPasses : Module → Bool × BinaryFile

namespace Llvm

variable {Source Module Bitcode : Type} (llvm : Llvm Source Module Bitcode)

/-- `none` where `ExitOnErr` ends the process, `some none` for a null pointer. The file is
looked for under its name alone, on no link path. -/
def loadFile (files : String → Option Source) (name : String) : Option (Option Module) :=
  match (files name).bind llvm.parseIR with
  | none => some none
  | some result => (llvm.materializeMetadata result).map some

/-- The loop of `linkFiles`, `none` where the process ends; the flags and the internalization
in front of a file are the ones that apply to it. -/
def linkFilesFrom (options : LinkOptions) (files : String → Option Source) (flags : LinkFlags) :
    List String → LinkFlags → Bool → Module → Option (Option Module)
  | [], _, _, composite => some (some composite)
  | file :: rest, applicableFlags, internalizeLinkedSymbols, composite =>
    match llvm.loadFile files file with
    | none => none
    | some none => some none
    | some (some m) =>
      if options.disableDITypeMap && llvm.broken m then some none
      else
        match llvm.linkInModule composite m applicableFlags internalizeLinkedSymbols with
        | none => some none
        | some composite =>
          linkFilesFrom options files flags rest flags options.internalize composite

/-- The first file gets no internalization and of the flags only `OverrideFromSrc`. -/
def linkFiles (options : LinkOptions) (files : String → Option Source) (names : List String)
    (flags : LinkFlags) (composite : Module) : Option (Option Module) :=
  llvm.linkFilesFrom options files flags names ⟨flags.overrideFromSrc, false⟩ false composite

/-- `llvm_linker`, without a module summary; `opens` says whether the output can be opened. -/
def linker (options : LinkOptions) (files : String → Option Source) (opens : Bool)
    (inputA inputB inputC : String) : DriverEnd Bitcode :=
  let flags := { LinkFlags.none with linkOnlyNeeded := options.onlyNeeded }
  match llvm.linkFiles options files [inputA, inputB, inputC] flags llvm.empty with
  | none => .exited
  | some none => .refused 1
  | some (some composite) =>
    match llvm.linkFiles options files options.overridingInputs
        { flags with overrideFromSrc := true } composite with
    | none => .exited
    | some none => .refused 1
    | some (some composite) =>
      if !opens then .refused 1
      else if llvm.broken composite then .discarded 1
      else .kept (llvm.bitcode composite)

/-- `llvm_compile` on the bitcode in the directory. -/
def compileModule (opens : Bool) (input : Option Bitcode) : DriverEnd BinaryFile :=
  match input.bind llvm.parseBitcode with
  | none => .refused 1
  | some m =>
    let triple := if llvm.triple m = "" then llvm.defaultTriple else llvm.triple m
    if !llvm.lookupTarget triple then .refused 1
    else if !opens then .refused 1
    else if llvm.broken m then .discarded 1
    else if !llvm.emitsObject m then .discarded 1
    else
      match llvm.runPasses m with
      | (true, _) => .discarded 1
      | (false, object) => .kept object

/-- The files linked one after the other, each as the others; `none` where one of them cannot
be loaded or linked. -/
def linkInOrder (files : String → Option Source) (names : List String) (composite : Module) :
    Option Module :=
  names.foldlM (fun composite name => do
    let result ← (files name).bind llvm.parseIR
    let m ← llvm.materializeMetadata result
    llvm.linkInModule composite m .none false) composite

/-- With no option set the first file is no exception. -/
theorem linkFiles_initial (files : String → Option Source) (names : List String)
    (composite : Module) :
    (llvm.linkFiles .initial files names .none composite).join =
      llvm.linkInOrder files names composite := by
  unfold linkFiles linkInOrder
  change (llvm.linkFilesFrom .initial files .none names .none false composite).join = _
  induction names generalizing composite with
  | nil => rfl
  | cons name rest ih =>
    rw [linkFilesFrom, List.foldlM_cons, loadFile]
    cases (files name).bind llvm.parseIR with
    | none => rfl
    | some result =>
      simp only [LinkOptions.initial, Bool.false_and, Bool.false_eq_true, if_false,
        Option.bind_eq_bind, Option.bind_some]
      cases llvm.materializeMetadata result with
      | none => rfl
      | some m =>
        simp only [Option.map_some, Option.bind_some]
        cases llvm.linkInModule composite m .none false with
        | none => rfl
        | some composite => exact ih composite

/-- The bitcode that is kept is that of the three inputs, linked in their order. -/
theorem linker_kept_iff {files : String → Option Source} {opens : Bool}
    {inputA inputB inputC : String} {bitcode : Bitcode} :
    llvm.linker .initial files opens inputA inputB inputC = .kept bitcode ↔
      ∃ composite, llvm.linkInOrder files [inputA, inputB, inputC] llvm.empty = some composite ∧
        opens = true ∧ llvm.broken composite = false ∧ llvm.bitcode composite = bitcode := by
  unfold linker
  change (match llvm.linkFiles .initial files [inputA, inputB, inputC] .none llvm.empty with
    | none => DriverEnd.exited
    | some none => .refused 1
    | some (some composite) => if !opens then .refused 1
      else if llvm.broken composite then .discarded 1 else .kept (llvm.bitcode composite)) = _ ↔ _
  rw [← llvm.linkFiles_initial]
  match llvm.linkFiles .initial files [inputA, inputB, inputC] .none llvm.empty with
  | none | some none => simp
  | some (some composite) =>
    cases opens <;> cases broken : llvm.broken composite <;> simp [broken]

end Llvm

end VpuSim
