import VpuSim.Shader.Lib
import VpuSim.Transition.Program

/-!
# The shader library behind handles

A handle is the address of a descriptor in `g_tls`, and every access reads the descriptor
through it. The intrinsics that a compiled shader calls reach the library through the
thunks of `DxilToVpu.ll`, which drop the opcode and the component of the thread id.
-/

set_option linter.dupNamespace false

namespace VpuSim

open ByteMemory Transition

/-- `dx_types_Handle` -/
abbrev DxTypesHandle := UInt64

def kVpuResourceClassUAV : UInt8 := 1

def kVpuMaxUAVs : UInt32 := 4

namespace VpuResourceDescriptor

/-- The descriptor at `offset`, field by field. -/
def read (contents : Nat → UInt8) (offset : Nat) : VpuResourceDescriptor where
  base := load64 contents offset
  elementSize := .ofUInt32 (load32 contents (offset + 8))

theorem read_congr {first second : Nat → UInt8} {offset : Nat}
    (agree : ∀ k < 16, first (offset + k) = second (offset + k)) :
    read first offset = read second offset := by
  simp only [read, mk.injEq]
  constructor
  · exact load64_congr fun k bound => agree k (by omega)
  · congr 1
    apply load32_congr
    intro k bound
    rw [Nat.add_assoc]
    exact agree (8 + k) (by omega)

theorem byte_write_outside (memory : Memory) (offset : Nat) (descriptor : VpuResourceDescriptor)
    {address : Nat} (outside : address < offset ∨ offset + 16 ≤ address) :
    (write memory offset descriptor).byte address = memory.byte address := by
  rw [write, Memory.byte_store32_outside _ _ _ (by omega),
    Memory.byte_store64_outside _ _ _ (by omega)]

theorem read_write (memory : Memory) (offset : Nat) (descriptor : VpuResourceDescriptor) :
    read (write memory offset descriptor).byte offset = descriptor := by
  have base : load64 (write memory offset descriptor).byte offset = descriptor.base := by
    rw [write, Memory.load64_store32_apart _ _ _ (by omega), Memory.load64_store64]
  have elementSize : load32 (write memory offset descriptor).byte (offset + 8) =
      descriptor.elementSize.toUInt32 := Memory.load32_store32 _ _ _
  rw [read, base, elementSize]

end VpuResourceDescriptor

namespace VpuThreadLocalStorage

/-- The loop of the host over the descriptors. -/
def writeUavs (offset : Nat) (tls : VpuThreadLocalStorage) (memory : Memory) : Memory :=
  (List.finRange 4).foldl (writeUav offset tls) memory

theorem read_foldl_writeUav {offset : Nat} {tls : VpuThreadLocalStorage} {memory : Memory}
    {indices : List (Fin 4)} {index : Fin 4} (member : index ∈ indices) :
    VpuResourceDescriptor.read (indices.foldl (writeUav offset tls) memory).byte
      (offset + uavOffset index.val) = tls.uavs.get index := by
  induction indices using List.reverseRecOn with
  | nil => cases member
  | append_singleton rest last ih =>
    rw [List.foldl_append, List.foldl_cons, List.foldl_nil]
    by_cases same : index = last
    · subst same
      exact VpuResourceDescriptor.read_write _ _ _
    · have inRest : index ∈ rest := by
        rcases List.mem_append.mp member with earlier | isLast
        · exact earlier
        · exact absurd (List.mem_singleton.mp isLast) same
      rw [← ih inRest]
      apply VpuResourceDescriptor.read_congr
      intro k bound
      apply VpuResourceDescriptor.byte_write_outside
      have different := mt Fin.ext same
      simp only [uavOffset, sizeofVpuResourceDescriptor]
      omega

/-- The descriptors read back as the host wrote them. -/
theorem read_writeUavs (offset : Nat) (tls : VpuThreadLocalStorage) (memory : Memory)
    (index : Fin 4) :
    VpuResourceDescriptor.read (writeUavs offset tls memory).byte (offset + uavOffset index.val) =
      tls.uavs.get index :=
  read_foldl_writeUav (List.mem_finRange index)

theorem byte_foldl_writeUav_outside {offset : Nat} {tls : VpuThreadLocalStorage}
    (indices : List (Fin 4)) (memory : Memory) {address : Nat}
    (outside : address < offset + 8 ∨ offset + sizeofVpuThreadLocalStorage ≤ address) :
    (indices.foldl (writeUav offset tls) memory).byte address = memory.byte address := by
  induction indices generalizing memory with
  | nil => rfl
  | cons index rest ih =>
    rw [List.foldl_cons, ih]
    apply VpuResourceDescriptor.byte_write_outside
    have few := index.isLt
    simp only [sizeofVpuThreadLocalStorage] at outside
    simp only [uavOffset, sizeofVpuResourceDescriptor]
    omega

theorem byte_writeUavs_outside (offset : Nat) (tls : VpuThreadLocalStorage) (memory : Memory)
    {address : Nat}
    (outside : address < offset + 8 ∨ offset + sizeofVpuThreadLocalStorage ≤ address) :
    (writeUavs offset tls memory).byte address = memory.byte address :=
  byte_foldl_writeUav_outside _ memory outside

end VpuThreadLocalStorage

/-- The library as it is linked into a shader. -/
structure VpuShaderLib where
  /-- compiled with `_WINDLL`, which turns the assertions on -/
  windll : Bool
  /-- the address of `g_tls` -/
  gTls : UInt64

namespace VpuShaderLib

variable (self : VpuShaderLib) (memory : Memory)

/-- `&g_tls.m_uavs[index]`, `none` where an assertion fails. -/
def dxOpCreateHandle (resourceClass : UInt8) (_rangeId index : UInt32) (_nonUniform : UInt8) :
    Option DxTypesHandle :=
  if self.windll = true ∧ ¬ (resourceClass = kVpuResourceClassUAV ∧ index < kVpuMaxUAVs) then none
  else some (self.gTls + 8 + index.toUInt64 * 16)

def dxOpBufferLoadF32 (handle : DxTypesHandle) (index offset : UInt32) : DxTypesResRet UInt32 :=
  VpuSim.dxOpBufferLoadF32 memory (.read memory.byte handle.toNat) index offset

def dxOpBufferLoadI32 (handle : DxTypesHandle) (index offset : UInt32) : DxTypesResRet Int32 :=
  VpuSim.dxOpBufferLoadI32 memory (.read memory.byte handle.toNat) index offset

def dxOpBufferStoreF32 (handle : DxTypesHandle) (index offset v0 _v1 _v2 _v3 : UInt32)
    (mask : UInt8) : Option Memory :=
  if self.windll = true ∧ mask ≠ 1 then none
  else some (VpuSim.dxOpBufferStoreF32 memory (.read memory.byte handle.toNat) index offset v0)

def dxOpBufferStoreI32 (handle : DxTypesHandle) (index offset : UInt32)
    (v0 _v1 _v2 _v3 : Int32) (mask : UInt8) : Option Memory :=
  if self.windll = true ∧ mask ≠ 1 then none
  else some (VpuSim.dxOpBufferStoreI32 memory (.read memory.byte handle.toNat) index offset v0)

def dxOpThreadIdI32 : UInt32 := load32 memory.byte self.gTls.toNat

end VpuShaderLib

/-- A call of a library function. -/
inductive LibCall where
  | createHandle (resourceClass : UInt8) (rangeId index : UInt32) (nonUniform : UInt8)
  | bufferLoadF32 (handle : DxTypesHandle) (index offset : UInt32)
  | bufferLoadI32 (handle : DxTypesHandle) (index offset : UInt32)
  | bufferStoreF32 (handle : DxTypesHandle) (index offset v0 v1 v2 v3 : UInt32) (mask : UInt8)
  | bufferStoreI32 (handle : DxTypesHandle) (index offset : UInt32) (v0 v1 v2 v3 : Int32)
      (mask : UInt8)
  | threadIdI32

abbrev LibCall.Answer : LibCall → Type
  | createHandle .. => DxTypesHandle
  | bufferLoadF32 .. => DxTypesResRet UInt32
  | bufferLoadI32 .. => DxTypesResRet Int32
  | bufferStoreF32 .. | bufferStoreI32 .. => Unit
  | threadIdI32 => UInt32

/-- The library checks no handle, so an access goes wherever the descriptor behind it leads; one
that leaves the memory of the process faults there. -/
def VpuShaderLib.handler (self : VpuShaderLib) : Handler LibCall LibCall.Answer Memory
  | .createHandle resourceClass rangeId index nonUniform, memory =>
    (self.dxOpCreateHandle resourceClass rangeId index nonUniform).map fun handle =>
      (handle, memory)
  | .bufferLoadF32 handle index offset, memory =>
    some (dxOpBufferLoadF32 memory handle index offset, memory)
  | .bufferLoadI32 handle index offset, memory =>
    some (dxOpBufferLoadI32 memory handle index offset, memory)
  | .bufferStoreF32 handle index offset v0 v1 v2 v3 mask, memory =>
    (self.dxOpBufferStoreF32 memory handle index offset v0 v1 v2 v3 mask).map ((), ·)
  | .bufferStoreI32 handle index offset v0 v1 v2 v3 mask, memory =>
    (self.dxOpBufferStoreI32 memory handle index offset v0 v1 v2 v3 mask).map ((), ·)
  | .threadIdI32, memory => some (self.dxOpThreadIdI32 memory, memory)

/-- A call of a DXIL intrinsic; the opcode is its first argument. -/
inductive DxilCall where
  | createHandle (opcode : UInt32) (resourceClass : UInt8) (rangeId index : UInt32)
      (nonUniform : Bool)
  | bufferLoadI32 (opcode : UInt32) (handle : DxTypesHandle) (index offset : UInt32)
  | bufferLoadF32 (opcode : UInt32) (handle : DxTypesHandle) (index offset : UInt32)
  | bufferStoreF32 (opcode : UInt32) (handle : DxTypesHandle)
      (index offset v0 v1 v2 v3 : UInt32) (mask : UInt8)
  | bufferStoreI32 (opcode : UInt32) (handle : DxTypesHandle) (index offset : UInt32)
      (v0 v1 v2 v3 : Int32) (mask : UInt8)
  | threadIdI32 (opcode component : UInt32)

namespace DxilCall

abbrev Answer : DxilCall → Type
  | createHandle .. => DxTypesHandle
  | bufferLoadI32 .. => DxTypesResRet Int32
  | bufferLoadF32 .. => DxTypesResRet UInt32
  | bufferStoreF32 .. | bufferStoreI32 .. => Unit
  | threadIdI32 .. => UInt32

/-- The definition that `DxilToVpu.ll` gives for the intrinsic. -/
def thunk : (call : DxilCall) → Program LibCall LibCall.Answer call.Answer
  | createHandle _ resourceClass rangeId index nonUniform =>
    .call (.createHandle resourceClass rangeId index (if nonUniform then 1 else 0)) .done
  | bufferLoadI32 _ handle index offset => .call (.bufferLoadI32 handle index offset) .done
  | bufferLoadF32 _ handle index offset => .call (.bufferLoadF32 handle index offset) .done
  | bufferStoreF32 _ handle index offset v0 v1 v2 v3 mask =>
    .call (.bufferStoreF32 handle index offset v0 v1 v2 v3 mask) .done
  | bufferStoreI32 _ handle index offset v0 v1 v2 v3 mask =>
    .call (.bufferStoreI32 handle index offset v0 v1 v2 v3 mask) .done
  | threadIdI32 _ _ => .call .threadIdI32 .done

end DxilCall

/-- A shader as the calls of intrinsics it makes. -/
abbrev DxilShader := Program DxilCall DxilCall.Answer Unit

/-- The shader linked with the thunks. -/
def DxilShader.link (shader : DxilShader) : Program LibCall LibCall.Answer Unit :=
  shader.translate DxilCall.thunk

/-- How the linked shader's intrinsics behave. -/
def VpuShaderLib.dxilHandler (self : VpuShaderLib) : Handler DxilCall DxilCall.Answer Memory :=
  fun call memory => call.thunk.run self.handler memory

theorem DxilShader.run_link (lib : VpuShaderLib) (shader : DxilShader) (memory : Memory) :
    shader.link.run lib.handler memory = shader.run lib.dxilHandler memory :=
  Program.run_translate DxilCall.thunk lib.handler shader memory

end VpuSim
