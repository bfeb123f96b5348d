import VpuSim.Memory.LittleEndian

/-!
# Resource descriptors and thread-local storage

The block that the host and the shader share, in the layout of the 64-bit build:
the thread id, four bytes of padding, then the descriptors of the four UAVs.
-/

namespace VpuSim

open ByteMemory

structure VpuResourceDescriptor where
  base : UInt64
  elementSize : Int32
  deriving DecidableEq

structure VpuThreadLocalStorage where
  id : Int32
  uavs : Vector VpuResourceDescriptor 4

def sizeofVpuResourceDescriptor : Nat := 16

def sizeofVpuThreadLocalStorage : Nat := 72

/-- Where `m_uavs[index]` lies in the block. -/
def uavOffset (index : Nat) : Nat := 8 + index * sizeofVpuResourceDescriptor

namespace VpuResourceDescriptor

def write (memory : Memory) (offset : Nat) (descriptor : VpuResourceDescriptor) : Memory :=
  (memory.store64 offset descriptor.base).store32 (offset + 8) descriptor.elementSize.toUInt32

theorem mem_log_write {memory : Memory} {offset : Nat} {descriptor : VpuResourceDescriptor}
    {store : Store} (member : store ∈ (write memory offset descriptor).log) :
    store ∈ memory.log ∨ store.LiesIn offset 16 := by
  simp only [write, Memory.log_store32, Memory.log_store64, List.mem_append,
    List.mem_singleton] at member
  rcases member with (inMemory | rfl) | rfl
  · exact .inl inMemory
  all_goals
    right
    simp only [Store.LiesIn, Store.ofNat_offset, Store.ofNat_length]
    omega

end VpuResourceDescriptor

namespace VpuThreadLocalStorage

def writeUav (offset : Nat) (tls : VpuThreadLocalStorage) (memory : Memory) (index : Fin 4) :
    Memory :=
  VpuResourceDescriptor.write memory (offset + uavOffset index) tls.uavs[index]

/-- The stores of the host to the block at `offset`: the descriptors, then the id. -/
def write (memory : Memory) (offset : Nat) (tls : VpuThreadLocalStorage) : Memory :=
  ((List.finRange 4).foldl (writeUav offset tls) memory).store32 offset tls.id.toUInt32

theorem mem_log_writeUav {memory : Memory} {offset : Nat} {tls : VpuThreadLocalStorage}
    {index : Fin 4} {store : Store} (member : store ∈ (writeUav offset tls memory index).log) :
    store ∈ memory.log ∨ store.LiesIn offset sizeofVpuThreadLocalStorage := by
  rcases VpuResourceDescriptor.mem_log_write member with inMemory | ⟨start, finish⟩
  · exact .inl inMemory
  · have last := index.isLt
    simp only [uavOffset, sizeofVpuResourceDescriptor] at start finish
    refine .inr ⟨by omega, ?_⟩
    simp only [sizeofVpuThreadLocalStorage]
    omega

/-- The host writes nothing outside the block. -/
theorem mem_log_write {memory : Memory} {offset : Nat} {tls : VpuThreadLocalStorage}
    {store : Store} (member : store ∈ (write memory offset tls).log) :
    store ∈ memory.log ∨ store.LiesIn offset sizeofVpuThreadLocalStorage := by
  have uavs : ∀ (indices : List (Fin 4)) (memory : Memory),
      store ∈ (indices.foldl (writeUav offset tls) memory).log →
        store ∈ memory.log ∨ store.LiesIn offset sizeofVpuThreadLocalStorage := by
    intro indices
    induction indices with
    | nil => exact fun _ => .inl
    | cons index rest ih =>
      intro memory performed
      rcases ih _ performed with inFirst | lies
      · exact mem_log_writeUav inFirst
      · exact .inr lies
  simp only [write, Memory.log_store32, List.mem_append, List.mem_singleton] at member
  rcases member with inUavs | rfl
  · exact uavs _ memory inUavs
  · exact .inr ⟨Nat.le_refl _, Nat.add_le_add_left (by decide : 4 ≤ 72) _⟩

end VpuThreadLocalStorage

end VpuSim
