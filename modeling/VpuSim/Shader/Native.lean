import VpuSim.Shader.Dispatch
import VpuSim.Shader.TestShader

/-!
# The native shader and the compiled one

`VpuShader.c` is `Test.hlsl` by hand. The compiled shader reads the id and the descriptors
from `g_tls` at every access, the native one is given them as a value. As long as no access
of a thread reaches `g_tls`, a dispatch of the one leaves the bytes of a dispatch of the
other, but for the id.
-/

set_option linter.dupNamespace false

namespace VpuSim

open ByteMemory Transition

namespace VpuShaderLib

variable {lib : VpuShaderLib} {uavs : Vector VpuResourceDescriptor 4} {threadId : Nat}
  {fadd : UInt32 → UInt32 → UInt32} {memory model : Memory}

/-- The word lies in the address space and outside `g_tls`. -/
def WordApart (lib : VpuShaderLib) (word : UInt64) : Prop :=
  word.toNat + 4 ≤ 2 ^ 64 ∧
    (word.toNat + 4 ≤ lib.gTls.toNat ∨
      lib.gTls.toNat + sizeofVpuThreadLocalStorage ≤ word.toNat)

instance (lib : VpuShaderLib) (word : UInt64) : Decidable (lib.WordApart word) :=
  inferInstanceAs (Decidable (_ ∧ _))

/-- No word that a thread reads or writes is one of `g_tls`. -/
def SparedBy (lib : VpuShaderLib) (uavs : Vector VpuResourceDescriptor 4) (threadId : Nat) :
    Prop :=
  ∀ uav : Fin 4, uav.val < 3 →
    lib.WordApart ((uavs.get uav).element (dispatchedId threadId) 0) ∧
      lib.WordApart ((uavs.get uav).element (dispatchedId threadId) 4)

instance (lib : VpuShaderLib) (uavs : Vector VpuResourceDescriptor 4) (threadId : Nat) :
    Decidable (lib.SparedBy uavs threadId) :=
  Nat.decidableForallFin _

/-- The memory has the descriptors in `g_tls`, at an address where all of it fits. -/
structure HoldsUavs (lib : VpuShaderLib) (uavs : Vector VpuResourceDescriptor 4)
    (memory : Memory) : Prop where
  inAddressSpace : lib.gTls.toNat + sizeofVpuThreadLocalStorage ≤ 2 ^ 64
  descriptors : ∀ uav : Fin 4,
    VpuResourceDescriptor.read memory.byte (lib.gTls.toNat + uavOffset uav.val) = uavs.get uav

/-- `&g_tls.m_uavs[uav]` -/
def handle (lib : VpuShaderLib) (uav : Fin 4) : DxTypesHandle :=
  lib.gTls + 8 + UInt64.ofNat uav.val * 16

theorem HoldsUavs.read_handle (holds : lib.HoldsUavs uavs memory) (uav : Fin 4) :
    VpuResourceDescriptor.read memory.byte (lib.handle uav).toNat = uavs.get uav := by
  have room := holds.inAddressSpace
  have few := uav.isLt
  have position : (lib.handle uav).toNat = lib.gTls.toNat + uavOffset uav.val := by
    simp only [sizeofVpuThreadLocalStorage] at room
    rw [handle, UInt64.toNat_add, UInt64.toNat_add, UInt64.toNat_mul, UInt64.toNat_ofNat']
    simp only [uavOffset, sizeofVpuResourceDescriptor, UInt64.reduceToNat]
    omega
  rw [position, holds.descriptors uav]

/-- A store away from the descriptors leaves them. -/
theorem HoldsUavs.store32 (holds : lib.HoldsUavs uavs memory) {target : Nat}
    (apart : target + 4 ≤ lib.gTls.toNat + 8 ∨
      lib.gTls.toNat + sizeofVpuThreadLocalStorage ≤ target) (value : UInt32) :
    lib.HoldsUavs uavs (memory.store32 target value) := by
  refine ⟨holds.inAddressSpace, ?_⟩
  intro uav
  have few := uav.isLt
  rw [← holds.descriptors uav]
  apply VpuResourceDescriptor.read_congr
  intro k bound
  apply Memory.byte_store32_outside
  simp only [sizeofVpuThreadLocalStorage] at apart
  simp only [uavOffset, sizeofVpuResourceDescriptor]
  omega

/-- The arguments of the native shader pass the assertions. -/
theorem handler_createHandle {uav : Fin 4} {index : UInt32} (register : index.toNat = uav.val)
    (memory : Memory) :
    lib.handler (.createHandle kVpuResourceClassUAV index index 0) memory =
      some (lib.handle uav, memory) := by
  have few : index < kVpuMaxUAVs := UInt32.lt_iff_toNat_lt.mpr (register ▸ uav.isLt)
  have same : index.toUInt64 = UInt64.ofNat uav.val := by
    rw [← register]
    simp
  simp [handler, dxOpCreateHandle, handle, few, same]

section Accesses

variable (holds : lib.HoldsUavs uavs memory) (uav : Fin 4) (index offset : UInt32)

include holds

theorem HoldsUavs.bufferLoadI32 :
    lib.handler (.bufferLoadI32 (lib.handle uav) index offset) memory =
      some (VpuSim.dxOpBufferLoadI32 memory (uavs.get uav) index offset, memory) := by
  rw [handler, dxOpBufferLoadI32, holds.read_handle]

theorem HoldsUavs.bufferLoadF32 :
    lib.handler (.bufferLoadF32 (lib.handle uav) index offset) memory =
      some (VpuSim.dxOpBufferLoadF32 memory (uavs.get uav) index offset, memory) := by
  rw [handler, dxOpBufferLoadF32, holds.read_handle]

theorem HoldsUavs.bufferStoreI32 (value : Int32) :
    lib.handler (.bufferStoreI32 (lib.handle uav) index offset value 0 0 0 1) memory =
      some ((), VpuSim.dxOpBufferStoreI32 memory (uavs.get uav) index offset value) := by
  rw [handler, dxOpBufferStoreI32, if_neg (fun failed => failed.2 rfl), holds.read_handle]
  rfl

theorem HoldsUavs.bufferStoreF32 (value : UInt32) :
    lib.handler (.bufferStoreF32 (lib.handle uav) index offset value 0 0 0 1) memory =
      some ((), VpuSim.dxOpBufferStoreF32 memory (uavs.get uav) index offset value) := by
  rw [handler, dxOpBufferStoreF32, if_neg (fun failed => failed.2 rfl), holds.read_handle]
  rfl

end Accesses

/-- Called through the library, the shader does what the native one does with the id and the
descriptors that the memory holds. -/
theorem run_shaderMainCalls (holds : lib.HoldsUavs uavs memory)
    (id : load32 memory.byte lib.gTls.toNat = dispatchedId threadId)
    (spared : lib.SparedBy uavs threadId) :
    (shaderMainCalls fadd).run lib.handler memory =
      some ((), shaderMain fadd ⟨Int32.ofNat threadId, uavs⟩ memory) := by
  have threadIdCall : lib.handler .threadIdI32 memory = some (dispatchedId threadId, memory) := by
    rw [handler, dxOpThreadIdI32, id]
  -- The integers are stored before the descriptors are read again for the floats.
  have stored := (spared 2 (by decide)).1.2
  have holdsAfter : ∀ value : Int32, lib.HoldsUavs uavs
      (VpuSim.dxOpBufferStoreI32 memory (uavs.get 2) (dispatchedId threadId) 0 value) :=
    fun value => holds.store32 (by omega) value.toUInt32
  rw [shaderMainCalls, Program.run_call threadIdCall,
    Program.run_call (@handler_createHandle lib 2 2 rfl memory),
    Program.run_call (@handler_createHandle lib 1 1 rfl memory),
    Program.run_call (@handler_createHandle lib 0 0 rfl memory),
    Program.run_call (holds.bufferLoadI32 0 _ 0), Program.run_call (holds.bufferLoadI32 1 _ 0),
    Program.run_call (holds.bufferStoreI32 2 _ 0 _),
    Program.run_call ((holdsAfter _).bufferLoadF32 0 _ 4),
    Program.run_call ((holdsAfter _).bufferLoadF32 1 _ 4),
    Program.run_call ((holdsAfter _).bufferStoreF32 2 _ 4 _)]
  rfl

/-- The memories agree everywhere but in the id. -/
def AgreeButId (lib : VpuShaderLib) (first second : Memory) : Prop :=
  ∀ address, address < lib.gTls.toNat ∨ lib.gTls.toNat + 4 ≤ address →
    first.byte address = second.byte address

variable {first second : Memory}

theorem AgreeButId.load32_eq (agree : lib.AgreeButId first second) {word : Nat}
    (apart : word + 4 ≤ lib.gTls.toNat ∨ lib.gTls.toNat + sizeofVpuThreadLocalStorage ≤ word) :
    load32 first.byte word = load32 second.byte word := by
  apply load32_congr
  intro k bound
  apply agree
  simp only [sizeofVpuThreadLocalStorage] at apart
  omega

theorem AgreeButId.store32 (agree : lib.AgreeButId first second) (word : Nat) (value : UInt32) :
    lib.AgreeButId (first.store32 word value) (second.store32 word value) := by
  intro address away
  have stored : ∀ memory : Memory,
      memory.store32 word value = memory.store (.ofNat word 4 value.toNat) := fun _ => rfl
  rw [stored, stored, Memory.byte_store, Memory.byte_store]
  simp only [Store.apply, agree address away]

/-- On memories that agree but in the id, a thread loads and stores the same words. -/
theorem AgreeButId.shaderMain (agree : lib.AgreeButId first second)
    (spared : lib.SparedBy uavs threadId) :
    lib.AgreeButId (VpuSim.shaderMain fadd ⟨Int32.ofNat threadId, uavs⟩ first)
      (VpuSim.shaderMain fadd ⟨Int32.ofNat threadId, uavs⟩ second) := by
  have aLow := agree.load32_eq (spared 0 (by decide)).1.2
  have bLow := agree.load32_eq (spared 1 (by decide)).1.2
  have middle := agree.store32 ((uavs.get 2).element (dispatchedId threadId) 0).toNat
    (Int32.ofUInt32 (load32 second.byte
        ((uavs.get 0).element (dispatchedId threadId) 0).toNat) +
      Int32.ofUInt32 (load32 second.byte
        ((uavs.get 1).element (dispatchedId threadId) 0).toNat)).toUInt32
  have aHigh := middle.load32_eq (spared 0 (by decide)).2.2
  have bHigh := middle.load32_eq (spared 1 (by decide)).2.2
  simp only [dispatchedId] at aLow bLow middle aHigh bHigh
  simp only [VpuSim.shaderMain, VpuSim.dxOpThreadIdI32, VpuSim.dxOpCreateHandle,
    VpuSim.dxOpBufferLoadI32, VpuSim.dxOpBufferLoadF32, VpuSim.dxOpBufferStoreI32,
    VpuSim.dxOpBufferStoreF32, aLow, bLow, aHigh, bHigh]
  exact middle.store32 _ _

/-- A thread leaves the descriptors. -/
theorem HoldsUavs.shaderMain (holds : lib.HoldsUavs uavs memory)
    (spared : lib.SparedBy uavs threadId) :
    lib.HoldsUavs uavs (VpuSim.shaderMain fadd ⟨Int32.ofNat threadId, uavs⟩ memory) := by
  have low := (spared 2 (by decide)).1.2
  have high := (spared 2 (by decide)).2.2
  exact (holds.store32 (low.imp_left Nat.le_add_right_of_le) _).store32
    (high.imp_left Nat.le_add_right_of_le) _

end VpuShaderLib

section Dispatch

variable {lib : VpuShaderLib} {tls : VpuThreadLocalStorage} {opcodes : DxilOpcodes}
  {fadd : UInt32 → UInt32 → UInt32}

/-- Linked with the library, in either build, the threads of `Test.hlsl` leave the bytes that
those of `VpuShader.c` leave, whatever the order of the threads and whatever the memory. -/
theorem dispatchThreads_testMain {memory model : Memory} (holds : lib.HoldsUavs tls.uavs memory)
    (agree : lib.AgreeButId memory model) {order : List Nat}
    (spared : ∀ threadId ∈ order, lib.SparedBy tls.uavs threadId) :
    ∃ final, dispatchThreads
        (fun memory => ((testMain opcodes fadd).link.run lib.handler memory).map Prod.snd)
        lib.gTls order memory = some final ∧
      lib.AgreeButId final (dispatch fadd order tls model) := by
  induction order generalizing tls memory model with
  | nil => exact ⟨memory, rfl, agree⟩
  | cons threadId rest ih =>
    have sparedHere := spared threadId (List.mem_cons_self ..)
    have id : load32 (memory.store32 lib.gTls.toNat (dispatchedId threadId)).byte
        lib.gTls.toNat = dispatchedId threadId := Memory.load32_store32 _ _ _
    have holdsHere := holds.store32 (.inl (Nat.add_le_add_left (by decide : 4 ≤ 8) _))
      (dispatchedId threadId)
    have agreeHere : lib.AgreeButId (memory.store32 lib.gTls.toNat (dispatchedId threadId))
        model := by
      intro address away
      rw [Memory.byte_store32_outside _ _ _ away]
      exact agree address away
    have called := @VpuShaderLib.run_shaderMainCalls lib tls.uavs threadId fadd _ holdsHere id
      sparedHere
    obtain ⟨final, finished, same⟩ := @ih { tls with id := Int32.ofNat threadId } _ _
      (holdsHere.shaderMain sparedHere) (agreeHere.shaderMain sparedHere)
      fun other member => spared other (List.mem_cons_of_mem _ member)
    refine ⟨final, ?_, same⟩
    rw [dispatchThreads, ← dispatchedId, link_testMain, called]
    exact finished

end Dispatch

/-- The three buffers of a small dispatch, in a process with `g_tls` at 2 ^ 20. -/
theorem dispatchThreads_testMain_small :
    ∃ final, dispatchThreads
        (fun memory =>
          ((testMain ⟨93, 57, 68, 69⟩ (· + ·)).link.run (VpuShaderLib.mk true 0x100000).handler
            memory).map Prod.snd)
        0x100000 [2, 0, 3, 1]
        (VpuThreadLocalStorage.writeUavs 0x100000 smallTls (.holding fun _ => 1)) = some final ∧
      (VpuShaderLib.mk true 0x100000).AgreeButId final
        (dispatch (· + ·) [2, 0, 3, 1] smallTls
          (VpuThreadLocalStorage.writeUavs 0x100000 smallTls (.holding fun _ => 1))) :=
  @dispatchThreads_testMain ⟨true, 0x100000⟩ smallTls ⟨93, 57, 68, 69⟩ (· + ·)
    (VpuThreadLocalStorage.writeUavs 0x100000 smallTls (.holding fun _ => 1)) _
    ⟨by decide, fun uav => VpuThreadLocalStorage.read_writeUavs 0x100000 smallTls _ uav⟩
    (fun _ _ => rfl) [2, 0, 3, 1] (by decide)

end VpuSim
