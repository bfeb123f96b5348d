import Mathlib.Data.List.Induction
import VpuSim.Compiler.Drivers
import VpuSim.Transition.Run

/-!
# Many runs in one directory

The compiler never looks at the return values of its two drivers, so what a run packages is
the object that was kept last, unless it was removed since, compiled from the bitcode that
was kept last by then. Either may be of an earlier run, or have been in the directory from
the start.
-/

namespace VpuSim

open ByteMemory Transition

variable {Source Module Bitcode : Type}

/-- What the compiler does once its two drivers are done. -/
def WorkDir.package (workDir : WorkDir Bitcode) (allocation : BlobAllocation) :
    Option (CompilerResult Bitcode) := do
  let (opened, obj) := VpuObject.new.openFile workDir.object
  let outVpuImage ← imageOf opened obj allocation
  obj.close.destroy
  return { returned := true, outVpuImage, workDir }

theorem imageOf_image_iff {opened : Bool} {obj : VpuObject} {allocation : BlobAllocation}
    {image : Memory} :
    imageOf opened obj allocation = some (some image) ↔ opened = true ∧
      ∃ package, packageImage obj allocation = some package ∧ package.aborted = false ∧
        package.blob = image := by
  unfold imageOf
  cases opened with
  | false => simp
  | true =>
    cases packageImage obj allocation with
    | none => simp
    | some package => cases aborted : package.aborted <;> simp [aborted]

/-- An image is handed out when the object opens and is packaged to its end. -/
theorem WorkDir.package_image_iff {workDir : WorkDir Bitcode} {allocation : BlobAllocation}
    {image : Memory} :
    (∃ result, workDir.package allocation = some result ∧ result.outVpuImage = some image) ↔
      ∃ obj package, VpuObject.new.openFile workDir.object = (true, obj) ∧
        packageImage obj allocation = some package ∧ package.aborted = false ∧
        package.blob = image := by
  have handedOut : (∃ result, workDir.package allocation = some result ∧
      result.outVpuImage = some image) ↔
      imageOf (VpuObject.new.openFile workDir.object).1
        (VpuObject.new.openFile workDir.object).2 allocation = some (some image) := by
    simp [package, VpuObject.destroy_close, Option.bind_eq_some_iff]
  rw [handedOut, imageOf_image_iff]
  cases VpuObject.new.openFile workDir.object with
  | mk opened obj => cases opened <;> simp

/-- What a run of the compiler starts from, its two files apart. -/
structure CompilerRun (Source Module Bitcode : Type) where
  llvm : Llvm Source Module Bitcode
  /-- the files that are there before the disassembly is written -/
  files : String → Option Source
  disassembly : Source
  opensBitcode : Bool
  opensObject : Bool

namespace CompilerRun

variable (run : CompilerRun Source Module Bitcode)

def inputs (name : String) : Option Source :=
  if name = "dis.dxil" then some run.disassembly else run.files name

def link : DriverEnd Bitcode :=
  run.llvm.linker .initial run.inputs run.opensBitcode "VpuShaderLib.bc" "DxilToVpu.ll" "dis.dxil"

/-- The library, the glue and the disassembly link to a module that is written as `bitcode`. -/
def Links (bitcode : Bitcode) : Prop :=
  ∃ composite, run.llvm.linkInOrder run.inputs ["VpuShaderLib.bc", "DxilToVpu.ll", "dis.dxil"]
      run.llvm.empty = some composite ∧
    run.opensBitcode = true ∧ run.llvm.broken composite = false ∧
    run.llvm.bitcode composite = bitcode

theorem link_kept_iff {bitcode : Bitcode} : run.link = .kept bitcode ↔ run.Links bitcode :=
  run.llvm.linker_kept_iff

/-- The directory after the linker. -/
def linked (workDir : WorkDir Bitcode) : WorkDir Bitcode :=
  { workDir with bitcode := run.link.output none workDir.bitcode some }

def compile (bitcode : Option Bitcode) : DriverEnd BinaryFile :=
  run.llvm.compileModule run.opensObject bitcode

/-- The process ends in the linker. -/
def Exits : Prop := run.link = .exited

instance : Decidable run.Exits :=
  match ended : run.link with
  | .exited => isTrue ended
  | .refused _ | .discarded _ | .kept _ => isFalse fun exits => by
    rw [Exits, ended] at exits
    cases exits

/-- The directory after both drivers, or after the linker where the process ends in it. -/
def stages (workDir : WorkDir Bitcode) : WorkDir Bitcode :=
  if run.Exits then workDir
  else
    let workDir := run.linked workDir
    { workDir with object := (run.compile workDir.bitcode).output .unreadable workDir.object id }

/-- `none` where the process ends or an assertion fails. -/
def vpuCompiler (workDir : WorkDir Bitcode) (allocation : BlobAllocation) :
    Option (CompilerResult Bitcode) :=
  if run.Exits then none else (run.stages workDir).package allocation

/-- The run does not open the object. -/
def LeavesObject (workDir : WorkDir Bitcode) : Prop :=
  run.Exits ∨ (run.compile (run.linked workDir).bitcode).Leaves

/-- The drivers of a run, which keep their output or do not touch it. -/
def toolchain : Toolchain Source Bitcode where
  link _ := run.link.toExcept
  compile bitcode := (run.compile bitcode).toExcept

/-- A compilation never ends the process. -/
theorem compile_ne_exited (bitcode : Option Bitcode) : run.compile bitcode ≠ .exited := by
  rw [compile, Llvm.compileModule]
  cases bitcode.bind run.llvm.parseBitcode with
  | none => exact fun impossible => nomatch impossible
  | some m =>
    dsimp only
    repeat' split
    all_goals exact fun impossible => nomatch impossible

/-- A run that does not end the process and whose drivers discard nothing is one whose tools
succeed or fail. -/
theorem vpuCompiler_eq {workDir : WorkDir Bitcode} (returns : ¬ run.Exits)
    (linkEnd : ∀ code, run.link ≠ .discarded code)
    (compileEnd : ∀ code, run.compile (run.linked workDir).bitcode ≠ .discarded code)
    (allocation : BlobAllocation) :
    run.vpuCompiler workDir allocation =
      VpuSim.vpuCompiler run.toolchain workDir run.disassembly allocation := by
  have first : run.linked workDir = (llvmLinker run.toolchain workDir run.disassembly).2 := by
    rw [linked, llvmLinker, toolchain]
    cases ended : run.link with
    | exited => exact absurd ended returns
    | refused code => rfl
    | discarded code => exact absurd ended (linkEnd code)
    | kept bitcode => rfl
  have second : run.stages workDir = (llvmCompile run.toolchain (run.linked workDir)).2 := by
    rw [stages, if_neg returns, llvmCompile]
    simp only [toolchain]
    cases ended : run.compile (run.linked workDir).bitcode with
    | exited => exact absurd ended (run.compile_ne_exited _)
    | refused code => rfl
    | discarded code => exact absurd ended (compileEnd code)
    | kept object => rfl
  rw [vpuCompiler, if_neg returns, second, first]
  rfl

/-- A compiler without bitcode fails before it opens its output. -/
theorem compile_none : run.compile none = .refused 1 := rfl

theorem bitcode_stages (workDir : WorkDir Bitcode) :
    (run.stages workDir).bitcode = run.link.output none workDir.bitcode some := by
  rw [stages]
  split
  · rename_i exits
    rw [Exits] at exits
    rw [exits, DriverEnd.output]
  · rfl

theorem object_stages_of_leaves {workDir : WorkDir Bitcode} (leaves : run.LeavesObject workDir) :
    (run.stages workDir).object = workDir.object := by
  rw [stages]
  split
  · rfl
  · rename_i returns
    exact (leaves.resolve_left returns).output_eq _ _ _

theorem object_stages {workDir : WorkDir Bitcode} (returns : ¬ run.Exits) :
    (run.stages workDir).object =
      (run.compile (run.stages workDir).bitcode).output .unreadable workDir.object id := by
  rw [stages, if_neg returns]
  rfl

end CompilerRun

namespace WorkDir

def step (workDir : WorkDir Bitcode) (run : CompilerRun Source Module Bitcode) :
    Option (WorkDir Bitcode) :=
  some (run.stages workDir)

def after (start : WorkDir Bitcode) (history : List (CompilerRun Source Module Bitcode)) :
    WorkDir Bitcode :=
  history.foldl (fun workDir run => run.stages workDir) start

end WorkDir

/-- The last run whose linker opened its output has linked `bitcode`, or the directory had it
at the start and no linker opened its output. -/
def LastLinked (start : WorkDir Bitcode) (history : List (CompilerRun Source Module Bitcode))
    (bitcode : Bitcode) : Prop :=
  (start.bitcode = some bitcode ∧ ∀ later ∈ history, later.link.Leaves) ∨
    ∃ before run rest, history = before ++ run :: rest ∧ run.Links bitcode ∧
      ∀ later ∈ rest, later.link.Leaves

/-- The last run whose compiler opened its output has kept `object`, made of the bitcode that
was in the directory then, or the directory had it at the start and no compiler opened its
output. -/
def LastCompiled (start : WorkDir Bitcode) (history : List (CompilerRun Source Module Bitcode))
    (object : BinaryFile) : Prop :=
  (start.object = object ∧
    Along WorkDir.step (fun workDir later => later.LeavesObject workDir) start history) ∨
  ∃ before run rest bitcode, history = before ++ run :: rest ∧ ¬ run.Exits ∧
    LastLinked start (before ++ [run]) bitcode ∧ run.compile (some bitcode) = .kept object ∧
    Along WorkDir.step (fun workDir later => later.LeavesObject workDir)
      (start.after (before ++ [run])) rest

section Histories

variable {start : WorkDir Bitcode} {history : List (CompilerRun Source Module Bitcode)}
  {run : CompilerRun Source Module Bitcode}

theorem WorkDir.after_concat (start : WorkDir Bitcode)
    (history : List (CompilerRun Source Module Bitcode)) (run : CompilerRun Source Module Bitcode) :
    start.after (history ++ [run]) = run.stages (start.after history) :=
  List.foldl_append

theorem WorkDir.foldlM_step (rest : List (CompilerRun Source Module Bitcode))
    (workDir : WorkDir Bitcode) :
    rest.foldlM WorkDir.step workDir = some (workDir.after rest) := by
  induction rest generalizing workDir with
  | nil => rfl
  | cons run rest ih => exact ih (run.stages workDir)

theorem WorkDir.along_concat {property : WorkDir Bitcode → CompilerRun Source Module Bitcode → Prop}
    (workDir : WorkDir Bitcode) (rest : List (CompilerRun Source Module Bitcode))
    (run : CompilerRun Source Module Bitcode) :
    Along step property workDir (rest ++ [run]) ↔
      Along step property workDir rest ∧ property (workDir.after rest) run := by
  rw [along_append, foldlM_step]
  simp only [Option.some.injEq, forall_eq', Along]
  exact and_congr_right fun _ => and_iff_left fun _ _ => trivial

theorem WorkDir.after_append (start : WorkDir Bitcode)
    (history rest : List (CompilerRun Source Module Bitcode)) :
    start.after (history ++ rest) = (start.after history).after rest :=
  List.foldl_append

theorem LastLinked.concat {bitcode : Bitcode} (last : LastLinked start history bitcode)
    (leaves : run.link.Leaves) : LastLinked start (history ++ [run]) bitcode := by
  have alsoRun : ∀ {rest : List (CompilerRun Source Module Bitcode)},
      (∀ later ∈ rest, later.link.Leaves) → ∀ later ∈ rest ++ [run], later.link.Leaves := by
    intro rest later other member
    rcases List.mem_append.mp member with inRest | isRun
    · exact later other inRest
    · rw [List.mem_singleton.mp isRun]
      exact leaves
  rcases last with ⟨initial, later⟩ | ⟨before, first, rest, rfl, linked, later⟩
  · exact .inl ⟨initial, alsoRun later⟩
  · exact .inr ⟨before, first, rest ++ [run], by simp, linked, alsoRun later⟩

theorem LastCompiled.concat {object : BinaryFile} (last : LastCompiled start history object)
    (leaves : run.LeavesObject (start.after history)) :
    LastCompiled start (history ++ [run]) object := by
  rcases last with ⟨initial, later⟩ | ⟨before, first, rest, bitcode, rfl, returns, linked,
    compiled, later⟩
  · exact .inl ⟨initial, (WorkDir.along_concat _ _ _).mpr ⟨later, leaves⟩⟩
  · refine .inr ⟨before, first, rest ++ [run], bitcode, by simp, returns, linked, compiled, ?_⟩
    rw [WorkDir.along_concat, ← WorkDir.after_append, List.append_assoc]
    exact ⟨later, leaves⟩

/-- The bitcode in the directory was the last to be linked. -/
theorem lastLinked_of_bitcode {bitcode : Bitcode}
    (present : (start.after history).bitcode = some bitcode) :
    LastLinked start history bitcode := by
  induction history using List.reverseRecOn with
  | nil => exact .inl ⟨present, fun _ impossible => nomatch impossible⟩
  | append_singleton history run ih =>
    rw [WorkDir.after_concat, CompilerRun.bitcode_stages] at present
    cases ended : run.link with
    | exited =>
      rw [ended] at present
      exact (ih present).concat (.inl ended)
    | refused code =>
      rw [ended] at present
      exact (ih present).concat (.inr ⟨code, ended⟩)
    | discarded code =>
      rw [ended] at present
      cases present
    | kept made =>
      rw [ended] at present
      cases present
      exact .inr ⟨history, run, [], rfl, run.link_kept_iff.mp ended,
        fun _ impossible => nomatch impossible⟩

/-- Linkers that do not open their output leave the bitcode. -/
theorem WorkDir.bitcode_after {workDir : WorkDir Bitcode}
    {rest : List (CompilerRun Source Module Bitcode)}
    (later : ∀ run ∈ rest, run.link.Leaves) : (workDir.after rest).bitcode = workDir.bitcode := by
  induction rest using List.reverseRecOn with
  | nil => rfl
  | append_singleton rest last ih =>
    obtain ⟨earlier, leaves⟩ := List.forall_mem_append.mp later
    rw [after_concat, CompilerRun.bitcode_stages,
      (leaves last (List.mem_singleton_self _)).output_eq]
    exact ih earlier

theorem LastLinked.bitcode_eq {bitcode : Bitcode} (last : LastLinked start history bitcode) :
    (start.after history).bitcode = some bitcode := by
  rcases last with ⟨initial, later⟩ | ⟨before, run, rest, rfl, linked, later⟩
  · rw [WorkDir.bitcode_after later, initial]
  · rw [← List.singleton_append, ← List.append_assoc, WorkDir.after_append,
      WorkDir.bitcode_after later, WorkDir.after_concat, CompilerRun.bitcode_stages,
      run.link_kept_iff.mpr linked, DriverEnd.output]

/-- The object in the directory was the last to be compiled. -/
theorem lastCompiled_of_object (present : (start.after history).object ≠ .unreadable) :
    LastCompiled start history (start.after history).object := by
  induction history using List.reverseRecOn with
  | nil => exact .inl ⟨rfl, trivial⟩
  | append_singleton history run ih =>
    have made := fun bitcode => @lastLinked_of_bitcode _ _ _ start (history ++ [run]) bitcode
    rw [WorkDir.after_concat] at present made ⊢
    have left : run.LeavesObject (start.after history) →
        LastCompiled start (history ++ [run]) (run.stages (start.after history)).object := by
      intro leaves
      rw [run.object_stages_of_leaves leaves] at present ⊢
      exact (ih present).concat leaves
    by_cases exits : run.Exits
    · exact left (.inl exits)
    · cases ended : run.compile (run.stages (start.after history)).bitcode with
      | exited => exact absurd ended (run.compile_ne_exited _)
      | refused code =>
        rw [CompilerRun.bitcode_stages] at ended
        exact left (.inr (.inr ⟨code, ended⟩))
      | discarded code =>
        rw [run.object_stages exits, ended] at present
        exact absurd rfl present
      | kept object =>
        rw [run.object_stages exits, ended]
        cases found : (run.stages (start.after history)).bitcode with
        | none =>
          rw [found, CompilerRun.compile_none] at ended
          cases ended
        | some bitcode =>
          rw [found] at ended
          exact .inr ⟨history, run, [], bitcode, rfl, exits, made bitcode found, ended, trivial⟩

/-- Runs that do not open the object leave it. -/
theorem WorkDir.object_after {workDir : WorkDir Bitcode}
    {rest : List (CompilerRun Source Module Bitcode)}
    (later : Along step (fun workDir run => run.LeavesObject workDir) workDir rest) :
    (workDir.after rest).object = workDir.object := by
  induction rest using List.reverseRecOn with
  | nil => rfl
  | append_singleton rest last ih =>
    obtain ⟨earlier, leaves⟩ := (along_concat _ _ _).mp later
    rw [after_concat, last.object_stages_of_leaves leaves]
    exact ih earlier

theorem LastCompiled.object_eq {object : BinaryFile} (last : LastCompiled start history object) :
    (start.after history).object = object := by
  rcases last with ⟨initial, later⟩ | ⟨before, run, rest, bitcode, rfl, returns, linked, compiled,
    later⟩
  · rw [WorkDir.object_after later, initial]
  · have present := linked.bitcode_eq
    rw [← List.singleton_append, ← List.append_assoc, WorkDir.after_append,
      WorkDir.object_after later]
    rw [WorkDir.after_concat] at present ⊢
    rw [run.object_stages returns, present, compiled]
    rfl

/-- A run hands out an image exactly when it comes to its packager and packages the object
that was compiled last, by this run or by one before it, or the one that was in the directory
from the start. -/
theorem vpuCompiler_image_iff (start : WorkDir Bitcode)
    (history : List (CompilerRun Source Module Bitcode))
    (run : CompilerRun Source Module Bitcode) (allocation : BlobAllocation) (image : Memory) :
    (∃ result, run.vpuCompiler (start.after history) allocation = some result ∧
        result.outVpuImage = some image) ↔
      ¬ run.Exits ∧ ∃ file obj package, LastCompiled start (history ++ [run]) file ∧
        VpuObject.new.openFile file = (true, obj) ∧
        packageImage obj allocation = some package ∧ package.aborted = false ∧
        package.blob = image := by
  rw [CompilerRun.vpuCompiler, ← WorkDir.after_concat]
  generalize history ++ [run] = runs
  by_cases exits : run.Exits
  · simp [exits]
  · rw [if_neg exits, WorkDir.package_image_iff, and_iff_right exits]
    constructor
    · rintro ⟨obj, package, opened, packaged⟩
      have present : (start.after runs).object ≠ .unreadable := by
        intro unreadable
        rw [unreadable] at opened
        cases opened
      exact ⟨_, obj, package, lastCompiled_of_object present, opened, packaged⟩
    · rintro ⟨file, obj, package, last, opened, packaged⟩
      rw [last.object_eq]
      exact ⟨obj, package, opened, packaged⟩

end Histories

/-- LLVM that finds every composite broken or none, and makes the small object. -/
def smallLlvm (broken : Bool) : Llvm Unit Unit Unit where
  parseIR := some
  materializeMetadata := some
  empty := ()
  linkInModule _ _ _ _ := some ()
  broken _ := broken
  bitcode _ := ()
  parseBitcode := some
  triple _ := ""
  defaultTriple := "x86_64-pc-windows-msvc"
  lookupTarget _ := true
  emitsObject _ := true
  runPasses _ := (false, .coff (smallFile 0))

def smallRun (broken : Bool) : CompilerRun Unit Unit Unit :=
  ⟨smallLlvm broken, fun _ => some (), (), true, true⟩

/-- A linker that removes its output leaves the object alone: the image of the run before
is handed out again. -/
example : (smallRun true).vpuCompiler (WorkDir.after ⟨none, .unreadable⟩ [smallRun false])
    (.filled 0) =
    some ⟨true, some (smallPackage 0).blob, ⟨none, .coff (smallFile 0)⟩⟩ := by rfl

end VpuSim
