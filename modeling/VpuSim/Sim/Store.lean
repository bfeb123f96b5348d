import VpuSim.Memory.LittleEndian

/-!
# The global store

A `VpuStore` is a block of the process memory. The host reaches it through a
segment and a byte offset; both accessors assert that the access stays inside.
-/

namespace VpuSim

open ByteMemory

/-- `VpuSegment` -/
abbrev VpuSegment := Int32

def kVpuSegmentUndefined : VpuSegment := 0

def kVpuSegmentGlobal : VpuSegment := 1

structure VpuAddress where
  segment : VpuSegment
  /-- byte offset -/
  offset : UInt64
  deriving DecidableEq

def VpuAddress.undefined : VpuAddress := ⟨kVpuSegmentUndefined, 0⟩

structure VpuStore where
  segment : VpuSegment
  /-- the block in the process memory, 0 for `NULL` -/
  base : UInt64
  size : UInt64
  deriving DecidableEq

namespace VpuStore

def new (segment : VpuSegment) : VpuStore := ⟨segment, 0, 0⟩

/-- `Load`, where `malloc` returns `block`. -/
def load (self : VpuStore) (size block : UInt64) : Option VpuStore :=
  if block = 0 then none else some { self with base := block, size := size }

def unload (self : VpuStore) : VpuStore := { self with base := 0, size := 0 }

/-- The destructor, `none` where one of its assertions fails. -/
def destroy (self : VpuStore) : Option Unit :=
  if self.base = 0 ∧ self.size = 0 then some () else none

/-- The `count` bytes at `buf` are written; `none` where an assertion fails. -/
def write (self : VpuStore) (memory : Memory) (dst : VpuAddress) (buf : Nat → UInt8)
    (count : UInt64) : Option Memory :=
  if dst.segment = self.segment ∧ dst.offset + count ≤ self.size then
    some (memory.copy (self.base + dst.offset).toNat count.toNat buf)
  else none

def read (self : VpuStore) (memory : Memory) (dst : VpuAddress) (count : UInt64) :
    Option (List UInt8) :=
  if dst.offset + count ≤ self.size then
    some ((List.range count.toNat).map fun k =>
      memory.byte ((self.base + dst.offset).toNat + k))
  else none

/-- A global store whose mebibyte starts at the process address `block`. -/
structure LoadedAt (store : VpuStore) (block : Nat) : Prop where
  segment : store.segment = kVpuSegmentGlobal
  base : store.base.toNat = block
  size : store.size.toNat = 2 ^ 20
  /-- There is an address one past the end. -/
  inAddressSpace : block + 2 ^ 20 < 2 ^ 64

namespace LoadedAt

variable {store : VpuStore} {block : Nat} {offset count : UInt64}

theorem toNat_base_add (loaded : store.LoadedAt block) (bounded : offset.toNat ≤ 2 ^ 20) :
    (store.base + offset).toNat = block + offset.toNat := by
  have space := loaded.inAddressSpace
  rw [UInt64.toNat_add, loaded.base]
  omega

theorem add_le_size (loaded : store.LoadedAt block)
    (bounded : offset.toNat + count.toNat ≤ 2 ^ 20) : offset + count ≤ store.size := by
  rw [UInt64.le_iff_toNat_le, UInt64.toNat_add, loaded.size]
  omega

end LoadedAt

end VpuStore

end VpuSim
