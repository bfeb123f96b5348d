import VpuSim.Shader.ThreadLocal

/-!
# The shader library

The accessors that compiled shaders call. An access names an element by a 32-bit
index and a byte offset in the element; a `float` is the pattern of its 32 bits.
-/

namespace VpuSim

open ByteMemory

/-- `dx_types_ResRet_i32` and `dx_types_ResRet_f32` -/
structure DxTypesResRet (Value : Type) where
  v0 : Value
  v1 : Value
  v2 : Value
  v3 : Value
  mask : Int32
  deriving DecidableEq

/-- `m_base + (index * m_elementSize) + offset`: the product has 32 bits, because
the signed element size is converted to the type of the index. -/
def VpuResourceDescriptor.element (handle : VpuResourceDescriptor) (index offset : UInt32) :
    UInt64 :=
  handle.base + (index * handle.elementSize.toUInt32).toUInt64 + offset.toUInt64

/-- The descriptor behind the handle `&g_tls.m_uavs[index]`. -/
def dxOpCreateHandle (tls : VpuThreadLocalStorage) (index : Fin 4) : VpuResourceDescriptor :=
  tls.uavs.get index

def dxOpBufferLoadF32 (memory : Memory) (handle : VpuResourceDescriptor)
    (index offset : UInt32) : DxTypesResRet UInt32 :=
  ⟨load32 memory.byte (handle.element index offset).toNat, 0, 0, 0, 0⟩

def dxOpBufferLoadI32 (memory : Memory) (handle : VpuResourceDescriptor)
    (index offset : UInt32) : DxTypesResRet Int32 :=
  ⟨.ofUInt32 (load32 memory.byte (handle.element index offset).toNat), 0, 0, 0, 0⟩

def dxOpBufferStoreF32 (memory : Memory) (handle : VpuResourceDescriptor)
    (index offset : UInt32) (v0 : UInt32) : Memory :=
  memory.store32 (handle.element index offset).toNat v0

def dxOpBufferStoreI32 (memory : Memory) (handle : VpuResourceDescriptor)
    (index offset : UInt32) (v0 : Int32) : Memory :=
  memory.store32 (handle.element index offset).toNat v0.toUInt32

def dxOpThreadIdI32 (tls : VpuThreadLocalStorage) : UInt32 := tls.id.toUInt32

theorem toNat_toUInt32_of_pos {value : Int32} (positive : 0 < value.toInt) :
    value.toUInt32.toNat = value.toInt.toNat := by
  have signed : value.toInt = value.toBitVec.toInt := rfl
  have word : value.toUInt32.toNat = value.toBitVec.toNat := rfl
  rw [BitVec.toInt_eq_toNat_cond] at signed
  split at signed <;> omega

/-- Without wrap-around the machine address is the exact sum. -/
theorem VpuResourceDescriptor.toNat_element {handle : VpuResourceDescriptor} {size : Nat}
    (elementSize : handle.elementSize.toUInt32.toNat = size) {index offset : UInt32}
    (product : index.toNat * size < 2 ^ 32)
    (bounded : handle.base.toNat + index.toNat * size + offset.toNat < 2 ^ 64) :
    (handle.element index offset).toNat =
      handle.base.toNat + index.toNat * size + offset.toNat := by
  rw [element, UInt64.toNat_add, UInt64.toNat_add, UInt32.toNat_toUInt64, UInt32.toNat_toUInt64,
    UInt32.toNat_mul, elementSize, Nat.mod_eq_of_lt product]
  omega

end VpuSim
