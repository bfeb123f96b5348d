import VpuSim.Compiler.Loadable
import VpuSim.Image.Safety
import VpuSim.Sim.Results

/-!
# How the test program exits

`exit(1)` destroys `g_vpuSim` like the end of `main` does, and the destructor of its store
asserts that the store was unloaded. A run that cannot load its image exits with the store
still loaded.
-/

set_option linter.dupNamespace false

namespace VpuSim

open ByteMemory

/-- The destruction of `g_vpuSim` when the program exits. -/
def Outcome.exit : Outcome → Option Unit
  | failedToCompile => VpuSim.new.globalStore.destroy
  | errorLoading final | results _ final => final.sim.globalStore.destroy

namespace SimState

/-- No call of the host or the shader loads or unloads the store. -/
theorem globalStore_of_step {state next : SimState} {event : Event} {output : Output}
    (stepped : state.step event = some (next, output)) :
    next.sim.globalStore = state.sim.globalStore := by
  cases event with
  | write address buf count =>
    obtain ⟨memory, _, same⟩ := Option.bind_eq_some_iff.mp stepped
    cases same
    rfl
  | read address count =>
    obtain ⟨buf, _, same⟩ := Option.bind_eq_some_iff.mp stepped
    cases same
    rfl
  | setUav index address elementSize =>
    obtain ⟨sim, set, same⟩ := Option.bind_eq_some_iff.mp stepped
    cases same
    obtain ⟨context, _, made⟩ := Option.bind_eq_some_iff.mp set
    cases made
    rfl
  | bufferStoreI32 access value | bufferStoreF32 access value | bufferLoadI32 access
  | bufferLoadF32 access =>
    cases stepped
    rfl

theorem globalStore_of_run {state final : SimState} {events : List Event}
    {outputs : List Output} (ran : state.run events = some (final, outputs)) :
    final.sim.globalStore = state.sim.globalStore := by
  induction events generalizing state outputs with
  | nil =>
    cases ran
    rfl
  | cons event rest ih =>
    obtain ⟨⟨next, output⟩, stepped, later⟩ := Option.bind_eq_some_iff.mp ran
    obtain ⟨⟨last, others⟩, continued, same⟩ := Option.bind_eq_some_iff.mp later
    cases same
    rw [ih continued, globalStore_of_step stepped]

end SimState

section Run

variable {machine : Machine} {image : Nat → UInt8} {state : SimState}
  {data : Fin 3 → Fin 4 → UavElement} {outcome : Outcome}

/-- After the set-up the store has its allocation. -/
theorem destroy_of_setUp (set : machine.setUp data = some state) :
    state.sim.globalStore.destroy = none := by
  obtain ⟨sim, loaded, continued⟩ := Option.bind_eq_some_iff.mp set
  obtain ⟨⟨final, outputs⟩, ran, rfl⟩ := Option.map_eq_some_iff.mp continued
  obtain ⟨store, made, same⟩ := Option.bind_eq_some_iff.mp loaded
  cases same
  have kept := SimState.globalStore_of_run ran
  rw [VpuStore.load] at made
  split at made
  · cases made
  · rename_i allocated
    cases made
    rw [VpuStore.destroy, kept]
    exact if_neg fun empty => allocated empty.1

/-- The image is executed to its results, or it is refused and the simulator stays as it is. -/
theorem execute_cases (executed : machine.execute image state = some outcome) :
    (∃ uavResult memory, outcome = .results uavResult ⟨state.sim.unload, memory⟩) ∨
      ∃ memory, outcome = .errorLoading { state with memory } := by
  rw [Machine.execute] at executed
  split at executed
  · cases executed
    exact .inr ⟨_, rfl⟩
  · obtain ⟨memory, _, continued⟩ := Option.bind_eq_some_iff.mp executed
    obtain ⟨buf, _, rfl⟩ := Option.map_eq_some_iff.mp continued
    exact .inl ⟨_, memory, rfl⟩

variable {Source Bitcode : Type} {tools : Toolchain Source Bitcode} {workDir : WorkDir Bitcode}
  {disassembly : Source} {allocation : BlobAllocation}

/-- Every run that comes to an exit has compiled, and its exit fails exactly if its image
could not be loaded. -/
theorem main_exit
    (ran : main tools workDir disassembly allocation machine data = some outcome) :
    outcome ≠ .failedToCompile ∧
      (outcome.exit = none ↔ ∃ final, outcome = .errorLoading final) := by
  obtain ⟨compiled, compiles, continued⟩ := Option.bind_eq_some_iff.mp ran
  rw [returned_of_vpuCompiler compiles, if_pos rfl] at continued
  obtain ⟨state, set, continued⟩ := Option.bind_eq_some_iff.mp continued
  obtain ⟨image, made, executed⟩ := Option.bind_eq_some_iff.mp continued
  rcases execute_cases executed with ⟨uavResult, memory, rfl⟩ | ⟨memory, rfl⟩
  · refine ⟨Outcome.noConfusion, ?_⟩
    have unloaded : (Outcome.results uavResult ⟨state.sim.unload, memory⟩).exit = some () := rfl
    rw [unloaded]
    exact iff_of_false (fun impossible => nomatch impossible)
      fun ⟨_, impossible⟩ => nomatch impossible
  · have loaded := destroy_of_setUp set
    exact ⟨Outcome.noConfusion, iff_of_true loaded ⟨_, rfl⟩⟩

/-- The loader refuses an image of its own size for a type in the table, with the simulator
and all that it did not write as they were. -/
theorem execute_eq_errorLoading_iff {final : SimState} :
    machine.execute image state = some (.errorLoading final) ↔
      (∃ relocation ∈ VpuImageHeader.table image, ¬ relocation.Supported) ∧
        final = { state with
          memory := (VpuImageHeader.loadAt image state.memory machine.imageBase
            (VpuImageHeader.read image 0).getImageSize).2 } := by
  have accepts := @VpuImageHeader.accepts_iff image (VpuImageHeader.read image 0).getImageSize
  have loadAt := VpuImageHeader.loadAt_eq image state.memory machine.imageBase
    (VpuImageHeader.read image 0).getImageSize
  cases accepted : VpuImageHeader.accepts image (VpuImageHeader.read image 0).getImageSize with
  | true =>
    rw [accepted] at accepts loadAt
    refine iff_of_false ?_ ?_
    · intro refused
      rw [Machine.execute, loadAt] at refused
      obtain ⟨_, _, continued⟩ := Option.bind_eq_some_iff.mp refused
      obtain ⟨_, _, impossible⟩ := Option.map_eq_some_iff.mp continued
      cases impossible
    · rintro ⟨⟨relocation, member, unsupported⟩, _⟩
      exact unsupported ((accepts.mp rfl).2 relocation member)
  | false =>
    rw [accepted] at accepts loadAt
    have refused : ∃ relocation ∈ VpuImageHeader.table image, ¬ relocation.Supported := by
      by_contra none
      push Not at none
      exact absurd (accepts.mpr ⟨UInt64.le_refl _, none⟩) Bool.false_ne_true
    rw [and_iff_right refused, Machine.execute, loadAt]
    simp only [Option.some.injEq, Outcome.errorLoading.injEq, eq_comm]

/-- Where the loader keeps to the image's allocation, an image is refused exactly if some
relocation of its table has a type that the loader does not implement. The store then holds
the data of the host, and nothing has changed outside the allocations and the stack. -/
theorem main_errorLoading_iff {compiled : CompilerResult Bitcode} {image : Memory}
    (compiles : vpuCompiler tools workDir disassembly allocation = some compiled)
    (made : compiled.outVpuImage = some image) (allocates : machine.Allocates image.byte)
    (safe : VpuImageHeader.HandledSafely (VpuImageHeader.read image.byte 0)
      (VpuImageHeader.table image.byte) (VpuImageHeader.read image.byte 0).getImageSize)
    (data : Fin 3 → Fin 4 → UavElement) :
    ((∃ final, main tools workDir disassembly allocation machine data =
        some (.errorLoading final)) ↔
      ∃ relocation ∈ VpuImageHeader.table image.byte, ¬ relocation.Supported) ∧
    ∀ final, main tools workDir disassembly allocation machine data =
        some (.errorLoading final) →
      (∀ k < 2 ^ 20, final.memory.byte (machine.block.toNat + k) =
        (hostHistory data).view (fun k => machine.memory.byte (machine.block.toNat + k)) k) ∧
      ∀ address,
        (address < machine.block.toNat ∨ machine.block.toNat + 2 ^ 20 ≤ address) →
        (address < machine.imageBase.toNat ∨ machine.imageBase.toNat
          + (VpuImageHeader.read image.byte 0).getImageSize.toNat ≤ address) →
        ¬ machine.IsStack address →
        final.memory.byte address = machine.memory.byte address := by
  obtain ⟨state, represents, executed⟩ := main_eq_execute compiles made allocates.block
    allocates.blockInAddressSpace data
  simp only [executed, execute_eq_errorLoading_iff]
  obtain ⟨windows, codeFits⟩ : _ ∧ (VpuImageHeader.read image.byte 0).codeSize ≤
      (VpuImageHeader.read image.byte 0).getImageSize := by
    rcases safe with impossible | ⟨windows, fits | ⟨codeFits, _⟩⟩
    · exact absurd (UInt64.le_refl _) (UInt64.not_le.mpr impossible)
    · exact ⟨windows, VpuImageHeader.codeSize_le_of_fits fits (UInt64.le_refl _)⟩
    · exact ⟨windows, codeFits⟩
  have outsideImage := fun {address} => @VpuImageHeader.byte_loadAt_outside image.byte state.memory
    machine.imageBase _ (VpuImageHeader.within_loadStores codeFits windows) address
  have apart := allocates.apart
  constructor
  · exact ⟨fun ⟨_, unsupported, _⟩ => unsupported, fun unsupported => ⟨_, unsupported, rfl⟩⟩
  · rintro _ ⟨_, rfl⟩
    constructor
    · intro k bound
      rw [outsideImage (by omega)]
      exact represents.inside k bound
    · intro address notStore notImage _
      rw [outsideImage notImage]
      exact represents.outside address notStore

end Run

/-- The package of an object with an absolute reference. -/
def absolutePackage : Packaging :=
  fillBlob absoluteObject (packagedHeader absoluteObject 0 72) (.filled 0)

theorem main_exit_absolute :
    ∃ outcome, main (toolsOf (.coff absoluteFile)) ⟨none, .unreadable⟩ () (.filled 0) testMachine
        uavInitData = some outcome ∧
      outcome ≠ .failedToCompile ∧
      (outcome.exit = none ↔ ∃ final, outcome = .errorLoading final) := by
  have ran : ∃ final, main (toolsOf (.coff absoluteFile)) ⟨none, .unreadable⟩ () (.filled 0)
      testMachine uavInitData = some (.errorLoading final) := ⟨_, rfl⟩
  obtain ⟨final, ran⟩ := ran
  exact ⟨_, ran, main_exit ran⟩

theorem main_errorLoading_iff_absolute :
    ((∃ final, main (toolsOf (.coff absoluteFile)) ⟨none, .unreadable⟩ () (.filled 0) testMachine
        uavInitData = some (.errorLoading final)) ↔
      ∃ relocation ∈ VpuImageHeader.table absolutePackage.blob.byte,
        ¬ relocation.Supported) ∧
    ∀ final, main (toolsOf (.coff absoluteFile)) ⟨none, .unreadable⟩ () (.filled 0) testMachine
        uavInitData = some (.errorLoading final) →
      (∀ k < 2 ^ 20, final.memory.byte (testMachine.block.toNat + k) =
        (hostHistory uavInitData).view
          (fun k => testMachine.memory.byte (testMachine.block.toNat + k)) k) ∧
      ∀ address,
        (address < testMachine.block.toNat ∨ testMachine.block.toNat + 2 ^ 20 ≤ address) →
        (address < testMachine.imageBase.toNat ∨ testMachine.imageBase.toNat
          + (VpuImageHeader.read absolutePackage.blob.byte 0).getImageSize.toNat ≤ address) →
        ¬ testMachine.IsStack address →
        final.memory.byte address = testMachine.memory.byte address :=
  @main_errorLoading_iff testMachine _ _ (toolsOf (.coff absoluteFile)) ⟨none, .unreadable⟩ ()
    (.filled 0) ⟨true, some absolutePackage.blob, ⟨some (), .coff absoluteFile⟩⟩
    absolutePackage.blob (by rfl) rfl (allocates_testMachine (by decide))
    (.inr ⟨by decide, .inl (by decide)⟩) uavInitData

end VpuSim
