import VpuSim.Compiler.RoundTrip
import VpuSim.Shader.Linked
import VpuSim.Sim.Execute

/-!
# What the test program prints

A run of `main` prints what the device makes of the host's data, whatever the image, the
allocations and the shader in it. For the shader of `Test.hlsl` these are the sums.
-/

set_option linter.dupNamespace false

namespace VpuSim

open ByteMemory

section Elements

/-- `BufType` added member by member. -/
def UavElement.add (fadd : UInt32 → UInt32 → UInt32) (first second : UavElement) :
    UavElement where
  i := first.i + second.i
  f := fadd first.f second.f

/-- The elements of a buffer are the words at their offsets. -/
theorem ofBytes_buffer (view : Nat → UInt8) (start : Nat) (index : Fin 4) :
    UavElement.ofBytes (fun k => view (start + k)) index =
      ⟨.ofUInt32 (load32 view (start + index.val * 8)),
        load32 view (start + index.val * 8 + 4)⟩ := by
  have low : load32 (fun k => view (start + k)) (index.val * 8) =
      load32 view (start + index.val * 8) := by
    apply load32_congr
    intro k _
    rw [Nat.add_assoc]
  have high : load32 (fun k => view (start + k)) (index.val * 8 + 4) =
      load32 view (start + index.val * 8 + 4) := by
    apply load32_congr
    intro k _
    rw [Nat.add_assoc start, Nat.add_assoc start]
  rw [UavElement.ofBytes, sizeofUavElement, low, high]

variable (data : Fin 3 → Fin 4 → UavElement) (initial : Nat → UInt8)

theorem ofBytes_hostHistory (buffer : Fin 3) :
    UavElement.ofBytes (fun k => (hostHistory data).view initial (buffer.val * 32 + k)) =
      data buffer := by
  rw [← UavElement.ofBytes_bytes (data buffer)]
  apply UavElement.ofBytes_congr
  intro k bound
  exact view_hostHistory data initial buffer bound

end Elements

/-- The binding of a buffer of the host. -/
def hostBinding (buffer : Fin 3) : UavBinding := ⟨uavAddress buffer, Int32.ofNat sizeofUavElement⟩

theorem elementAt_hostBinding (buffer : Fin 3) (index : Nat) :
    (hostBinding buffer).elementAt index = buffer.val * 32 + index * 8 := by
  have few := buffer.isLt
  have size : (Int32.ofNat 8).toInt.toNat = 8 := rfl
  simp only [UavBinding.elementAt, hostBinding, uavAddress, UInt64.toNat_ofNat',
    sizeofUavElement, size]
  omega

theorem spans_hostBinding (buffer : Fin 3) : (hostBinding buffer).Spans 4 := by
  have few := buffer.isLt
  constructor
  · exact Int.le_refl 8
  · rw [elementAt_hostBinding]
    omega

theorem handle_injective : ∀ uav other : Fin 4,
    UInt64.ofNat uav.val * 16 = UInt64.ofNat other.val * 16 → uav = other := by
  decide

theorem hostBuffers (gTls : UInt64) :
    (hostDevice gTls).Buffers (hostBinding 0) (hostBinding 1) (hostBinding 2) 4 := by
  constructor
  · rfl
  · rfl
  · rfl
  · intro uav other same
    simp only [hostDevice] at same
    exact handle_injective uav other ((UInt64.add_right_inj _).mp same)
  · exact spans_hostBinding 0
  · exact spans_hostBinding 1
  · exact spans_hostBinding 2
  · rw [elementAt_hostBinding, elementAt_hostBinding, elementAt_hostBinding, elementAt_hostBinding]
    decide
  · rw [elementAt_hostBinding, elementAt_hostBinding, elementAt_hostBinding, elementAt_hostBinding]
    decide

/-- On the device of the host the threads leave the sums in the third buffer. -/
theorem runThreads_hostDevice (gTls : UInt64) (opcodes : DxilOpcodes)
    (fadd : UInt32 → UInt32 → UInt32) (data : Fin 3 → Fin 4 → UavElement)
    (initial : Nat → UInt8) :
    ∃ after, Transition.runThreads (fun threadId =>
        (hostDevice gTls).handler (dispatchedId threadId)) (fun _ => testMain opcodes fadd)
        (List.range 4) ((hostHistory data).view initial) = some after ∧
      UavElement.ofBytes (fun k => after (64 + k)) =
        fun index => (data 0 index).add fadd (data 1 index) := by
  obtain ⟨after, ran, sums, _⟩ := @Device.Buffers.runThreads_testMain (hostDevice gTls) 4
    (hostBinding 0) (hostBinding 1) (hostBinding 2) opcodes fadd (hostBuffers gTls)
    ((hostHistory data).view initial) (List.range 4) (.refl _)
  refine ⟨after, ran, ?_⟩
  funext index
  obtain ⟨low, high⟩ := sums index.val index.isLt
  simp only [elementAt_hostBinding] at low high
  have first := congrFun (ofBytes_hostHistory data initial 0) index
  have second := congrFun (ofBytes_hostHistory data initial 1) index
  rw [ofBytes_buffer] at first second ⊢
  rw [← first, ← second, UavElement.add]
  exact UavElement.mk.injEq .. ▸ ⟨congrArg Int32.ofUInt32 low, high⟩

section Run

variable {Source Bitcode : Type} {tools : Toolchain Source Bitcode} {workDir : WorkDir Bitcode}
  {disassembly : Source} {allocation : BlobAllocation} {machine : Machine} {image : Memory}
  {compiled : CompilerResult Bitcode}

/-- Once the compiler has made an image, `main` sets the simulator up and executes it. -/
theorem main_eq_execute
    (compiles : vpuCompiler tools workDir disassembly allocation = some compiled)
    (made : compiled.outVpuImage = some image) (allocated : machine.block ≠ 0)
    (space : machine.block.toNat + 2 ^ 20 < 2 ^ 64) (data : Fin 3 → Fin 4 → UavElement) :
    ∃ state, state.Represents (hostHistory data) machine.block.toNat machine.memory.byte ∧
      main tools workDir disassembly allocation machine data =
        machine.execute image.byte state := by
  obtain ⟨state, setUp, represents⟩ := setUp_represents data allocated space
  refine ⟨state, represents, ?_⟩
  rw [main, compiles, Option.bind_eq_bind, Option.bind_some, returned_of_vpuCompiler compiles,
    if_pos rfl, setUp, Option.bind_eq_bind, Option.bind_some, made, Option.bind_eq_bind,
    Option.bind_some]

/-- The simulator is unloaded, the store holds what the device has made, and nothing but
the store, the allocation of the image and the stack has changed. -/
structure Finished (machine : Machine) (image : Nat → UInt8) (after : Nat → UInt8)
    (final : SimState) : Prop where
  unloaded : final.sim.globalStore = .new kVpuSegmentGlobal
  store : ∀ k < 2 ^ 20, final.memory.byte (machine.block.toNat + k) = after k
  untouched : ∀ address,
    (address < machine.block.toNat ∨ machine.block.toNat + 2 ^ 20 ≤ address) →
    (address < machine.imageBase.toNat ∨ machine.imageBase.toNat
      + (VpuImageHeader.read image 0).getImageSize.toNat ≤ address) →
    ¬ machine.IsStack address → final.memory.byte address = machine.memory.byte address

/-- What the four threads make of the data of the host on the device that it sets up. -/
def hostRun (machine : Machine) (image : Nat → UInt8) (windll : Bool) (shader : DxilShader)
    (data : Fin 3 → Fin 4 → UavElement) : Option (Nat → UInt8) :=
  Transition.runThreads
    (fun threadId => (hostDevice (machine.lib image windll).gTls).handler (dispatchedId threadId))
    (fun _ => shader) (List.range 4)
    ((hostHistory data).view fun k => machine.memory.byte (machine.block.toNat + k))

theorem execute_finished (runnable : VpuImageHeader.Runnable image.byte)
    (allocates : machine.Allocates image.byte) {windll : Bool} {shader : DxilShader}
    (runs : machine.Runs image.byte windll shader) {data : Fin 3 → Fin 4 → UavElement}
    {state : SimState}
    (represents : state.Represents (hostHistory data) machine.block.toNat
      machine.memory.byte)
    {after : Nat → UInt8} (ran : hostRun machine image.byte windll shader data = some after) :
    ∃ final, machine.execute image.byte state =
        some (.results (UavElement.ofBytes fun k => after (64 + k)) final) ∧
      Finished machine image.byte after final := by
  obtain ⟨final, finished, inside, outside⟩ :=
    execute_eq runnable allocates runs represents ran
  refine ⟨_, finished, ?_⟩
  constructor
  · change state.sim.globalStore.unload = _
    rw [VpuStore.unload, represents.loaded.segment]
    rfl
  · exact inside
  · intro address notStore notImage notStack
    have gTls := toNat_gTls runnable allocates windll
    have room := runnable.tls_le
    have notId : address < (machine.lib image.byte windll).gTls.toNat ∨
        (machine.lib image.byte windll).gTls.toNat + 4 ≤ address := by
      simp only [sizeofVpuThreadLocalStorage] at room
      omega
    change final.byte address = _
    rw [outside address ⟨notStore, notId⟩ notStack,
      byte_prepared_outside runnable allocates state notImage]
    exact represents.outside address notStore

end Run

/-- A host with the store at 2 ^ 20, the image at 4096 and a page of stack at 3 * 2 ^ 20. Its
processor executes the code of `Test.hlsl`. -/
def testMachine : Machine where
  memory := .holding fun _ => 0xCD
  block := 0x100000
  imageBase := 4096
  stackLimit := 0x300000
  stackPointer := 0x301000
  call entry := if entry = 4096 then callTestCode ⟨false, 8192⟩ 4096 0x300000 else fun _ => none

/-- Images of up to a megabyte fit between the page at 4096 and the store. -/
theorem allocates_testMachine {image : Nat → UInt8}
    (small : (VpuImageHeader.read image 0).getImageSize.toNat ≤ 0xFF000) :
    testMachine.Allocates image := by
  have block : testMachine.block.toNat = 0x100000 := rfl
  have imageBase : testMachine.imageBase.toNat = 4096 := rfl
  have stackLimit : testMachine.stackLimit = 0x300000 := rfl
  constructor
  · exact (by decide : (0x100000 : UInt64) ≠ 0)
  · rw [block]
    omega
  · exact (by decide : (4096 : UInt64) ≠ 0)
  · omega
  · omega
  · omega
  · omega

/-- The loader leaves the code with the displacements of its call and of `g_tls`. -/
theorem relocatedCode_test : ∀ k < 80,
    testMachine.relocatedCode testPackage.blob.byte (4096 + k) = (testCode 7 4073).getD k 0 := by
  decide +kernel

theorem lib_test : testMachine.lib testPackage.blob.byte false = ⟨false, 8192⟩ :=
  congrArg (VpuShaderLib.mk false) (by decide :
    (4096 : UInt64) + (VpuImageHeader.read testPackage.blob.byte 0).getTlsOffset = 8192)

theorem shaderMain_test : testMachine.shaderMain testPackage.blob.byte =
    callTestCode ⟨false, 8192⟩ 4096 0x300000 := by
  have entry : testMachine.imageBase +
      (VpuImageHeader.read testPackage.blob.byte 0).getEntryOffset = 4096 := by decide
  rw [Machine.shaderMain, entry]
  rfl

theorem isCode_test {address : Nat} :
    testMachine.IsCode testPackage.blob.byte address ↔ 4096 ≤ address ∧ address < 4096 + 80 := by
  have size : (VpuImageHeader.read testPackage.blob.byte 0).codeSize.toNat = 80 := by decide
  have base : testMachine.imageBase.toNat = 4096 := rfl
  rw [Machine.IsCode, size, base]

theorem runs_test : testMachine.Runs testPackage.blob.byte false smallShader := by
  intro memory final inPlace attached allows linked
  have present : (testShaderCode 4096 0x300000).InPlace memory.byte := by
    rintro address ⟨start, finish⟩
    obtain ⟨k, rfl⟩ := Nat.exists_eq_add_of_le start
    have bytes := relocatedCode_test k (by omega)
    rw [inPlace _ (isCode_test.mpr ⟨start, finish⟩)]
    simp only [Machine.code, testShaderCode, Nat.add_sub_cancel_left, bytes]
  rw [lib_test] at attached allows linked
  obtain ⟨reached, called, agree⟩ :=
    executes_callTestCode _ _ _ 4096 0x300000 memory final present attached allows linked
  rw [shaderMain_test]
  exact ⟨reached, called, fun address own => agree address own⟩

end VpuSim
