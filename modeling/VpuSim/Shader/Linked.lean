import VpuSim.Compiler.Resolution
import VpuSim.Shader.TestShader

/-!
# Linked shaders

What is proved of a shader on the device holds of the linked shader in the process memory:
its results, what it leaves alone, and that threads which do not race may be run in any
order, whatever their calls leave in memory of their own.
-/

set_option linter.dupNamespace false

namespace VpuSim

open ByteMemory Transition

namespace Device

variable {device : Device} {lib : VpuShaderLib} {block : Nat}

/-- A memory shows its own store and its own rest. -/
theorem shows_self (block : Nat) (memory : Memory) :
    Shows block memory.byte memory fun k => memory.byte (block + k) :=
  ⟨fun _ _ => rfl, fun _ _ => rfl⟩

/-- A shader that the device allows runs linked in the process memory as it does on the
device: the store ends up alike, and nothing outside of it changes. -/
theorem link_run_eq {memory : Memory} (attached : device.Attached lib block memory.byte)
    {shader : DxilShader} {after : Nat → UInt8}
    (ran : shader.run (device.handler (load32 memory.byte lib.gTls.toNat))
      (fun k => memory.byte (block + k)) = some ((), after)) :
    ∃ final, shader.link.run lib.handler memory = some ((), final) ∧
      (∀ k < 2 ^ 20, final.byte (block + k) = after k) ∧
      ∀ address, address < block ∨ block + 2 ^ 20 ≤ address →
        final.byte address = memory.byte address := by
  obtain ⟨final, linked, shows⟩ := attached.run_link rfl (shows_self block memory) ran
  exact ⟨final, linked, shows.inside, shows.outside⟩

/-- Threads that do not race may be dispatched in any order: each leaves in its own bytes
of the store what it leaves there alone, and nothing else changes but the id and the memory
that the calls may use. -/
theorem dispatchThreads_raceFree {memory : Memory}
    (attached : device.Attached lib block memory.byte) {code : ShaderCode}
    (apart : code.Apart lib block) (inPlace : code.InPlace memory.byte)
    {shaderMain : Memory → Option Memory} {shader : DxilShader}
    (executes : device.Executes lib block code shaderMain shader)
    {sees owns : Nat → Set Nat} {threads order : List Nat} {outcome : Nat → Nat → UInt8}
    (free : RaceFree (fun threadId => device.handler (dispatchedId threadId)) device.reads
      device.writes (fun _ => shader) sees owns threads (fun k => memory.byte (block + k)) outcome)
    (permuted : order.Perm threads) :
    ∃ first second, VpuSim.dispatchThreads shaderMain lib.gTls threads memory = some first ∧
      VpuSim.dispatchThreads shaderMain lib.gTls order memory = some second ∧
      (∀ k < 2 ^ 20, second.byte (block + k) = first.byte (block + k)) ∧
      (∀ threadId ∈ threads, ∀ k ∈ owns threadId, k < 2 ^ 20 →
        first.byte (block + k) = outcome threadId k) ∧
      (∀ k < 2 ^ 20, (∀ threadId ∈ threads, k ∉ owns threadId) →
        first.byte (block + k) = memory.byte (block + k)) ∧
      ∀ address, lib.Spares block address → ¬ code.IsScratch address →
        first.byte address = memory.byte address ∧ second.byte address = memory.byte address := by
  obtain ⟨after, ran, permutedRan, owned, kept⟩ := free.run_perm permuted
  obtain ⟨first, dispatched, inside, outside⟩ :=
    executes.dispatchThreads apart attached inPlace (fun _ _ => rfl) ran
  obtain ⟨second, otherDispatched, otherInside, otherOutside⟩ :=
    executes.dispatchThreads apart attached inPlace (fun _ _ => rfl) permutedRan
  refine ⟨first, second, dispatched, otherDispatched, ?_, ?_, ?_, ?_⟩
  · intro k bound
    rw [inside k bound, otherInside k bound]
  · intro threadId member k isOwned bound
    rw [inside k bound]
    exact owned threadId member k isOwned
  · intro k bound foreign
    rw [inside k bound]
    exact kept k foreign
  · intro address away own
    exact ⟨outside address away own, otherOutside address away own⟩

end Device

section Small

/-- The addition of floats. -/
def addFloat (first second : UInt32) : UInt32 :=
  (Float32.ofBits first + Float32.ofBits second).toBits

/-- `Test.hlsl` with the opcodes of DXIL. -/
def smallShader : DxilShader := testMain ⟨93, 57, 68, 69⟩ addFloat

/-- The relocated code of the shader at `base`, called with a page of stack left. -/
def testShaderCode (base stack : Nat) : ShaderCode where
  IsCode address := base ≤ address ∧ address < base + 80
  bytes address := (testCode 7 4073).getD (address - base) 0
  IsScratch address := stack ≤ address ∧ address < stack + 4096

/-- A call of this code. Besides what the linked shader does, it leaves the return address of
the host and its own on the stack. -/
def callTestCode (lib : VpuShaderLib) (base stack : Nat) (memory : Memory) : Option Memory :=
  if ∀ k : Nat, k < 80 → memory.byte (base + k) = (testCode 7 4073).getD k 0 then
    (smallShader.link.run lib.handler memory).map fun outcome =>
      (outcome.2.store64 (stack + 4088) 0x7FF600001234).store64 (stack + 4040)
        (UInt64.ofNat (base + 9))
  else none

theorem executes_callTestCode (device : Device) (lib : VpuShaderLib) (block base stack : Nat) :
    device.Executes lib block (testShaderCode base stack) (callTestCode lib base stack)
      smallShader := by
  intro memory final inPlace _ _ linked
  have present : ∀ k < 80, memory.byte (base + k) = (testCode 7 4073).getD k 0 := by
    intro k bound
    rw [inPlace (base + k) ⟨Nat.le_add_right _ _, Nat.add_lt_add_left bound _⟩]
    simp only [testShaderCode, Nat.add_sub_cancel_left]
  refine ⟨_, by rw [callTestCode, if_pos present, linked]; rfl, ?_⟩
  intro address own
  simp only [testShaderCode] at own
  rw [Memory.byte_store64_outside _ _ _ (by omega), Memory.byte_store64_outside _ _ _ (by omega)]

/-- The library linked as bitcode, its `g_tls` in the page behind the code. -/
def smallLib : VpuShaderLib := ⟨false, 0x201000⟩

def smallBinding (buffer : Nat) : UavBinding := ⟨⟨kVpuSegmentGlobal, UInt64.ofNat (buffer * 32)⟩, 8⟩

/-- Three buffers of four elements. -/
def smallDevice : Device where
  bindings := fun uav => if uav.val < 3 then some (smallBinding uav.val) else none
  handles := fun uav => smallLib.gTls + 8 + UInt64.ofNat uav.val * 16

/-- A process with the store at 2 ^ 20, the code behind it and the descriptors written to
`g_tls`. -/
def smallMemory : Memory :=
  VpuThreadLocalStorage.writeUavs smallLib.gTls.toNat
    ⟨0, .ofFn fun uav => ⟨0x100000 + (smallBinding uav.val).address.offset, 8⟩⟩
    (.holding fun k =>
      if k < 0x200000 then UInt8.ofNat k else (testCode 7 4073).getD (k - 0x200000) 0)

theorem attached_small : smallDevice.Attached smallLib 0x100000 smallMemory.byte := by
  refine Device.attached_writeUavs (by decide) (by decide) (.inr (by decide)) (fun _ => rfl) ?_ _
  intro uav binding bound
  obtain ⟨inRange, made⟩ := Option.ite_none_right_eq_some.mp bound
  cases made
  exact Vector.getElem_ofFn ..

theorem buffers_small :
    smallDevice.Buffers (smallBinding 0) (smallBinding 1) (smallBinding 2) 4 where
  first := rfl
  second := rfl
  output := rfl
  handles := by decide
  spansFirst := ⟨by decide, by decide⟩
  spansSecond := ⟨by decide, by decide⟩
  spansOutput := ⟨by decide, by decide⟩
  apartFirst := by decide
  apartSecond := by decide

/-- The library of the small process finds the id of thread 0. -/
theorem id_small : load32 smallMemory.byte smallLib.gTls.toNat = dispatchedId 0 := by
  decide

theorem link_run_eq_small :
    ∃ final, smallShader.link.run smallLib.handler smallMemory = some ((), final) ∧
      (∀ k < 2 ^ 20, final.byte (0x100000 + k) =
        Device.testOutcome addFloat (smallBinding 0) (smallBinding 1) (smallBinding 2)
          (fun k => smallMemory.byte (0x100000 + k)) 0 k) ∧
      ∀ address, address < 0x100000 ∨ 0x100000 + 2 ^ 20 ≤ address →
        final.byte address = smallMemory.byte address := by
  apply Device.link_run_eq attached_small
  rw [id_small]
  exact (buffers_small.runsWithin_testMain (by decide) _).ran

/-- The code, `g_tls` and the stack of the small process. -/
theorem apart_small : (testShaderCode 0x200000 0x300000).Apart smallLib 0x100000 := by
  have gTls : smallLib.gTls.toNat = 0x201000 := rfl
  constructor
  all_goals
    intro address member
    simp only [testShaderCode, VpuShaderLib.Spares, sizeofVpuThreadLocalStorage, gTls] at member ⊢
    omega

theorem inPlace_small : (testShaderCode 0x200000 0x300000).InPlace smallMemory.byte := by
  have gTls : smallLib.gTls.toNat = 0x201000 := rfl
  rintro address ⟨start, finish⟩
  rw [smallMemory, VpuThreadLocalStorage.byte_writeUavs_outside _ _ _ (by omega),
    Memory.byte_holding, if_neg (Nat.not_lt.mpr start), testShaderCode]

theorem dispatchThreads_raceFree_small :
    ∃ first second,
      dispatchThreads (callTestCode smallLib 0x200000 0x300000) smallLib.gTls [0, 1, 2, 3]
        smallMemory = some first ∧
      dispatchThreads (callTestCode smallLib 0x200000 0x300000) smallLib.gTls [3, 2, 1, 0]
        smallMemory = some second ∧
      (∀ k < 2 ^ 20, second.byte (0x100000 + k) = first.byte (0x100000 + k)) ∧
      (∀ threadId ∈ [0, 1, 2, 3], ∀ k ∈ Device.element (smallBinding 2) threadId, k < 2 ^ 20 →
        first.byte (0x100000 + k) = Device.testOutcome addFloat (smallBinding 0) (smallBinding 1)
          (smallBinding 2) (fun k => smallMemory.byte (0x100000 + k)) threadId k) ∧
      (∀ k < 2 ^ 20, (∀ threadId ∈ [0, 1, 2, 3], k ∉ Device.element (smallBinding 2) threadId) →
        first.byte (0x100000 + k) = smallMemory.byte (0x100000 + k)) ∧
      ∀ address, smallLib.Spares 0x100000 address →
        ¬ (testShaderCode 0x200000 0x300000).IsScratch address →
        first.byte address = smallMemory.byte address ∧
        second.byte address = smallMemory.byte address :=
  Device.dispatchThreads_raceFree attached_small apart_small inPlace_small
    (executes_callTestCode smallDevice smallLib 0x100000 0x200000 0x300000)
    (buffers_small.raceFree_testMain _) (by decide)

end Small

end VpuSim
