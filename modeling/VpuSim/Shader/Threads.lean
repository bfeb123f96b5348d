import VpuSim.Shader.Device

/-!
# Running the threads

The host sets the id in `g_tls` and calls the shader, once for each thread. Where its code
is in place a call does what the linked shader does, and it may use memory of its own, such
as the stack. Neither a call nor the host changes the code or the descriptors, so the next
thread finds them in place.
-/

set_option linter.dupNamespace false

namespace VpuSim

open ByteMemory Transition

/-- The loop over the thread ids, where `shaderMain` is the call of the shader. -/
def dispatchThreads (shaderMain : Memory → Option Memory) (tls : UInt64) :
    List Nat → Memory → Option Memory
  | [], memory => some memory
  | threadId :: rest, memory =>
    (shaderMain (memory.store32 tls.toNat (Int32.ofNat threadId).toUInt32)).bind fun memory =>
      dispatchThreads shaderMain tls rest memory

/-- What the shader reads back as the id of a thread. -/
def dispatchedId (threadId : Nat) : UInt32 := (Int32.ofNat threadId).toUInt32

/-- The address is neither one of the store nor one of the id in `g_tls`. -/
def VpuShaderLib.Spares (lib : VpuShaderLib) (block address : Nat) : Prop :=
  (address < block ∨ block + 2 ^ 20 ≤ address) ∧
    (address < lib.gTls.toNat ∨ lib.gTls.toNat + 4 ≤ address)

/-- The code of a shader and the memory that its calls may use as they like. -/
structure ShaderCode where
  IsCode : Nat → Prop
  bytes : Nat → UInt8
  IsScratch : Nat → Prop

namespace ShaderCode

def InPlace (self : ShaderCode) (contents : Nat → UInt8) : Prop :=
  ∀ address, self.IsCode address → contents address = self.bytes address

/-- Neither the host nor the device writes to the code, and a call uses neither the store nor
`g_tls` nor the code as memory of its own. -/
structure Apart (code : ShaderCode) (lib : VpuShaderLib) (block : Nat) : Prop where
  spared : ∀ address, code.IsCode address → lib.Spares block address
  notCode : ∀ address, code.IsScratch address → ¬ code.IsCode address
  notStore : ∀ address, code.IsScratch address → address < block ∨ block + 2 ^ 20 ≤ address
  notTls : ∀ address, code.IsScratch address → address < lib.gTls.toNat ∨
    lib.gTls.toNat + sizeofVpuThreadLocalStorage ≤ address

/-- The memories have the same bytes wherever a call may not write as it likes. -/
def Agree (self : ShaderCode) (first second : Memory) : Prop :=
  ∀ address, ¬ self.IsScratch address → first.byte address = second.byte address

end ShaderCode

/-- The device runs the shader to its end on what the memory has in the store. -/
def Device.Allows (device : Device) (lib : VpuShaderLib) (block : Nat) (shader : DxilShader)
    (memory : Memory) : Prop :=
  ∃ view after, (∀ k < 2 ^ 20, memory.byte (block + k) = view k) ∧
    shader.run (device.handler (load32 memory.byte lib.gTls.toNat)) view = some ((), after)

/-- Called where its code is in place, the device is attached and its run is allowed, the
shader ends as it does linked with the library, but for the memory that its calls may use. -/
def Device.Executes (device : Device) (lib : VpuShaderLib) (block : Nat) (code : ShaderCode)
    (shaderMain : Memory → Option Memory) (shader : DxilShader) : Prop :=
  ∀ memory final, code.InPlace memory.byte → device.Attached lib block memory.byte →
    device.Allows lib block shader memory →
    shader.link.run lib.handler memory = some ((), final) →
    ∃ reached, shaderMain memory = some reached ∧ code.Agree reached final

namespace Device

variable {device : Device} {lib : VpuShaderLib} {block : Nat} {contents : Nat → UInt8}

/-- What attaches the device are the bytes of `g_tls` behind the id. -/
theorem Attached.congr (attached : device.Attached lib block contents) {other : Nat → UInt8}
    (agree : ∀ k < 64, other (lib.gTls.toNat + 8 + k) = contents (lib.gTls.toNat + 8 + k)) :
    device.Attached lib block other := by
  constructor
  · exact attached.inAddressSpace
  · exact attached.tlsInAddressSpace
  · exact attached.apart
  · exact attached.handles
  · intro uav binding bound
    have few := uav.isLt
    rw [← attached.descriptors uav binding bound]
    apply VpuResourceDescriptor.read_congr
    intro k inDescriptor
    have same := agree (uav.val * 16 + k) (by omega)
    have position : lib.gTls.toNat + uavOffset uav.val + k =
        lib.gTls.toNat + 8 + (uav.val * 16 + k) := by
      simp only [uavOffset, sizeofVpuResourceDescriptor]
      omega
    rw [position, same]

/-- Setting the id leaves the descriptors behind it. -/
theorem Attached.setId {memory : Memory} (attached : device.Attached lib block memory.byte)
    (threadId : UInt32) :
    device.Attached lib block (memory.store32 lib.gTls.toNat threadId).byte := by
  apply attached.congr
  intro k _
  exact Memory.byte_store32_outside _ _ _ (by omega)

variable {code : ShaderCode} {shaderMain : Memory → Option Memory} {shader : DxilShader}

/-- One turn of the loop: the store as the device leaves it, the device still attached, the
code still in place and everything else that a call may not use unchanged. -/
theorem Executes.step (executes : device.Executes lib block code shaderMain shader)
    (apart : code.Apart lib block) {memory : Memory}
    (attached : device.Attached lib block memory.byte) (inPlace : code.InPlace memory.byte)
    {view after : Nat → UInt8} (shows : ∀ k < 2 ^ 20, memory.byte (block + k) = view k)
    {threadId : Nat}
    (ran : shader.run (device.handler (dispatchedId threadId)) view = some ((), after)) :
    ∃ reached, shaderMain (memory.store32 lib.gTls.toNat (dispatchedId threadId)) =
        some reached ∧
      device.Attached lib block reached.byte ∧ code.InPlace reached.byte ∧
      (∀ k < 2 ^ 20, reached.byte (block + k) = after k) ∧
      ∀ address, lib.Spares block address → ¬ code.IsScratch address →
        reached.byte address = memory.byte address := by
  have tlsApart := attached.apart
  simp only [sizeofVpuThreadLocalStorage] at tlsApart
  have id : load32 (memory.store32 lib.gTls.toNat (dispatchedId threadId)).byte lib.gTls.toNat =
      dispatchedId threadId := Memory.load32_store32 _ _ _
  have attachedHere := attached.setId (dispatchedId threadId)
  have spares : ∀ address, lib.Spares block address →
      (memory.store32 lib.gTls.toNat (dispatchedId threadId)).byte address =
        memory.byte address := fun address away => Memory.byte_store32_outside _ _ _ away.2
  have showsHere : Shows block (memory.store32 lib.gTls.toNat (dispatchedId threadId)).byte
      (memory.store32 lib.gTls.toNat (dispatchedId threadId)) view := by
    refine ⟨?_, fun _ _ => rfl⟩
    intro k bound
    rw [Memory.byte_store32_outside _ _ _ (by omega)]
    exact shows k bound
  have inPlaceHere : code.InPlace
      (memory.store32 lib.gTls.toNat (dispatchedId threadId)).byte := by
    intro address isCode
    rw [spares address (apart.spared address isCode)]
    exact inPlace address isCode
  obtain ⟨final, linked, showsAfter⟩ := attachedHere.run_link id showsHere ran
  obtain ⟨reached, called, agree⟩ := executes _ final inPlaceHere attachedHere
    ⟨view, after, showsHere.inside, id.symm ▸ ran⟩ linked
  have kept : ∀ address, lib.Spares block address → ¬ code.IsScratch address →
      reached.byte address = memory.byte address := by
    intro address away own
    rw [agree address own, showsAfter.outside address away.1, spares address away]
  refine ⟨reached, called, ?_, ?_, ?_, kept⟩
  · -- The descriptors lie in no memory that the host, the device or the call may write.
    apply attached.congr
    intro k bound
    refine kept _ ⟨by omega, by omega⟩ fun isScratch => ?_
    have notTls := apart.notTls _ isScratch
    simp only [sizeofVpuThreadLocalStorage] at notTls
    omega
  · intro address isCode
    rw [kept address (apart.spared address isCode) fun isScratch =>
      apart.notCode address isScratch isCode]
    exact inPlace address isCode
  · intro k bound
    have own : ¬ code.IsScratch (block + k) := fun isScratch => by
      have notStore := apart.notStore _ isScratch
      omega
    rw [agree _ own]
    exact showsAfter.inside k bound

/-- The loop leaves in the store what the device makes of it, and everything but the id and
the memory that the calls may use as it was. -/
theorem Executes.dispatchThreads (executes : device.Executes lib block code shaderMain shader)
    (apart : code.Apart lib block) {memory : Memory}
    (attached : device.Attached lib block memory.byte) (inPlace : code.InPlace memory.byte)
    {view after : Nat → UInt8} (shows : ∀ k < 2 ^ 20, memory.byte (block + k) = view k)
    {order : List Nat}
    (ran : runThreads (fun threadId => device.handler (dispatchedId threadId))
      (fun _ => shader) order view = some after) :
    ∃ final, VpuSim.dispatchThreads shaderMain lib.gTls order memory = some final ∧
      (∀ k < 2 ^ 20, final.byte (block + k) = after k) ∧
      ∀ address, lib.Spares block address → ¬ code.IsScratch address →
        final.byte address = memory.byte address := by
  induction order generalizing memory view with
  | nil =>
    cases ran
    exact ⟨memory, rfl, shows, fun _ _ _ => rfl⟩
  | cons threadId rest ih =>
    obtain ⟨⟨_, middle⟩, alone, later⟩ := Option.bind_eq_some_iff.mp ran
    obtain ⟨reached, called, attachedAfter, inPlaceAfter, showsAfter, kept⟩ :=
      executes.step apart attached inPlace shows alone
    obtain ⟨final, finished, inside, outside⟩ := ih attachedAfter inPlaceAfter showsAfter later
    refine ⟨final, ?_, inside, ?_⟩
    · simp only [VpuSim.dispatchThreads]
      rw [← dispatchedId, called]
      exact finished
    · intro address away own
      rw [outside address away own]
      exact kept address away own

end Device

end VpuSim
