import VpuSim.Shader.Dispatch

/-!
# The elements of a UAV

The accessors multiply index and element size in 32 bits before they add the product
to a 64-bit pointer. They reach the element that the index names as long as the product
does not wrap and the word ends in the address space, and different elements are then apart.
-/

namespace VpuSim

open ByteMemory

/-- A word of an element: the element's index and the word's offset in it. -/
structure ElementAccess where
  index : UInt32
  offset : UInt32

namespace ElementAccess

variable (access : ElementAccess) (handle : VpuResourceDescriptor)

/-- The address of the word in exact arithmetic. -/
def exactAddress : Nat := handle.elementAt access.index.toNat + access.offset.toNat

/-- The four accessors access the four bytes from `address` on, which are all addresses. -/
structure AccessesAt (address : Nat) : Prop where
  inAddressSpace : address + 4 ≤ 2 ^ 64
  loadI32 : ∀ memory, dxOpBufferLoadI32 memory handle access.index access.offset =
    ⟨.ofUInt32 (load32 memory.byte address), 0, 0, 0, 0⟩
  loadF32 : ∀ memory, dxOpBufferLoadF32 memory handle access.index access.offset =
    ⟨load32 memory.byte address, 0, 0, 0, 0⟩
  storeI32 : ∀ memory value, dxOpBufferStoreI32 memory handle access.index access.offset value =
    memory.store32 address value.toUInt32
  storeF32 : ∀ memory value, dxOpBufferStoreF32 memory handle access.index access.offset value =
    memory.store32 address value

/-- The byte at `address` is one that the accessors access. -/
def Touches (address : Nat) : Prop :=
  (handle.element access.index access.offset).toNat ≤ address ∧
    address < (handle.element access.index access.offset).toNat + 4

/-- One of the two accessors that store has turned `before` into `after`. -/
def Stores (before after : Memory) : Prop :=
  (∃ value, after = dxOpBufferStoreI32 before handle access.index access.offset value) ∨
    ∃ value, after = dxOpBufferStoreF32 before handle access.index access.offset value

/-- Neither of the two accessors that load tells the two memories apart. -/
def LoadsAlike (before after : Memory) : Prop :=
  dxOpBufferLoadI32 after handle access.index access.offset =
      dxOpBufferLoadI32 before handle access.index access.offset ∧
    dxOpBufferLoadF32 after handle access.index access.offset =
      dxOpBufferLoadF32 before handle access.index access.offset

/-- The product does not wrap, and the word ends in the address space. -/
def InRange : Prop :=
  access.index.toNat * handle.stride < 2 ^ 32 ∧ access.exactAddress handle + 4 ≤ 2 ^ 64

/-- The word lies in its element. -/
def InElement : Prop := (access.offset.toNat : Int) + 4 ≤ handle.elementSize.toInt

instance : Decidable (access.InElement handle) := inferInstanceAs (Decidable (_ ≤ _))

variable {access handle}

theorem accessesAt_iff {address : Nat} :
    access.AccessesAt handle address ↔
      (handle.element access.index access.offset).toNat = address ∧ address + 4 ≤ 2 ^ 64 := by
  constructor
  · intro accesses
    have stored := congrArg Memory.log (accesses.storeF32 (.holding fun _ => 0) 0)
    rw [dxOpBufferStoreF32, Memory.log_store32, Memory.log_store32, List.append_cancel_left_eq,
      List.singleton_inj] at stored
    exact ⟨congrArg Store.offset stored, accesses.inAddressSpace⟩
  · rintro ⟨rfl, inAddressSpace⟩
    exact ⟨inAddressSpace, fun _ => rfl, fun _ => rfl, fun _ _ => rfl, fun _ _ => rfl⟩

theorem InElement.le_stride (inElement : access.InElement handle) :
    access.offset.toNat + 4 ≤ handle.stride := by
  rw [InElement] at inElement
  rw [VpuResourceDescriptor.stride]
  omega

/-- The exact word is accessed exactly in range. -/
theorem accessesAt_exactAddress_iff (inElement : access.InElement handle) :
    access.AccessesAt handle (access.exactAddress handle) ↔ access.InRange handle := by
  have size : handle.elementSize.toUInt32.toNat = handle.stride := by
    apply toNat_toUInt32_of_pos
    rw [InElement] at inElement
    omega
  have sum : (handle.element access.index access.offset).toNat =
      ((handle.base.toNat + access.index.toNat * handle.stride % 2 ^ 32) % 2 ^ 64
        + access.offset.toNat) % 2 ^ 64 := by
    rw [VpuResourceDescriptor.element, UInt64.toNat_add, UInt64.toNat_add,
      UInt32.toNat_toUInt64, UInt32.toNat_toUInt64, UInt32.toNat_mul, size]
  rw [accessesAt_iff, sum, InRange, exactAddress, VpuResourceDescriptor.elementAt]
  omega

/-- An access in range ends before the next element starts. -/
theorem exactAddress_add_le {other : ElementAccess} (inElement : access.InElement handle)
    (before : access.index.toNat < other.index.toNat) :
    access.exactAddress handle + 4 ≤ other.exactAddress handle := by
  have room := inElement.le_stride
  have next : (access.index.toNat + 1) * handle.stride ≤ other.index.toNat * handle.stride :=
    Nat.mul_le_mul_right _ before
  rw [Nat.succ_mul] at next
  simp only [exactAddress, VpuResourceDescriptor.elementAt]
  omega

/-- The accessors reach the two words, and if they belong to different elements,
nothing that is done to one shows in the other. -/
structure Separate (handle : VpuResourceDescriptor) (first second : ElementAccess) : Prop where
  reachesFirst : first.AccessesAt handle (first.exactAddress handle)
  reachesSecond : second.AccessesAt handle (second.exactAddress handle)
  disjoint : first.index ≠ second.index →
    ∀ address, first.Touches handle address → ¬ second.Touches handle address
  unseen : first.index ≠ second.index →
    ∀ before after, first.Stores handle before after → second.LoadsAlike handle before after

theorem apart_of_accessesAt {first second : ElementAccess}
    (firstInside : first.InElement handle) (secondInside : second.InElement handle)
    (reachesFirst : first.AccessesAt handle (first.exactAddress handle))
    (reachesSecond : second.AccessesAt handle (second.exactAddress handle))
    (different : first.index ≠ second.index) :
    (handle.element first.index first.offset).toNat + 4 ≤
        (handle.element second.index second.offset).toNat ∨
      (handle.element second.index second.offset).toNat + 4 ≤
        (handle.element first.index first.offset).toNat := by
  rw [(accessesAt_iff.mp reachesFirst).1, (accessesAt_iff.mp reachesSecond).1]
  rcases Nat.lt_or_gt_of_ne (mt UInt32.toNat_inj.mp different) with before | after
  · exact .inl (exactAddress_add_le firstInside before)
  · exact .inr (exactAddress_add_le secondInside after)

theorem loadsAlike_of_apart {first second : ElementAccess} {before after : Memory}
    (apart : (handle.element first.index first.offset).toNat + 4 ≤
        (handle.element second.index second.offset).toNat ∨
      (handle.element second.index second.offset).toNat + 4 ≤
        (handle.element first.index first.offset).toNat)
    (stores : first.Stores handle before after) : second.LoadsAlike handle before after := by
  have sameWord : load32 after.byte (handle.element second.index second.offset).toNat =
      load32 before.byte (handle.element second.index second.offset).toNat := by
    rcases stores with ⟨value, rfl⟩ | ⟨value, rfl⟩
    · exact Memory.load32_storeLE_apart before _ value.toUInt32.toNat apart.symm
    · exact Memory.load32_storeLE_apart before _ value.toNat apart.symm
  rw [LoadsAlike, dxOpBufferLoadI32, dxOpBufferLoadI32, dxOpBufferLoadF32, dxOpBufferLoadF32,
    sameWord]
  exact ⟨rfl, rfl⟩

/-- Words of elements are reached and kept apart exactly as far as neither product wraps and
both words end in the address space. -/
theorem separate_iff {first second : ElementAccess} (firstInside : first.InElement handle)
    (secondInside : second.InElement handle) :
    Separate handle first second ↔ first.InRange handle ∧ second.InRange handle := by
  rw [← accessesAt_exactAddress_iff firstInside, ← accessesAt_exactAddress_iff secondInside]
  constructor
  · intro separate
    exact ⟨separate.reachesFirst, separate.reachesSecond⟩
  · rintro ⟨reachesFirst, reachesSecond⟩
    have apart := apart_of_accessesAt firstInside secondInside reachesFirst reachesSecond
    constructor
    · exact reachesFirst
    · exact reachesSecond
    · rintro different address ⟨firstStart, firstFinish⟩ ⟨secondStart, secondFinish⟩
      have ordered := apart different
      omega
    · intro different before after stores
      exact loadsAlike_of_apart (apart different) stores

theorem separate_iff_small :
    Separate ⟨4096, 8⟩ ⟨0, 4⟩ ⟨1, 0⟩ ↔
      InRange ⟨0, 4⟩ ⟨4096, 8⟩ ∧ InRange ⟨1, 0⟩ ⟨4096, 8⟩ :=
  @separate_iff ⟨4096, 8⟩ ⟨0, 4⟩ ⟨1, 0⟩ (by decide) (by decide)

/-- Element 2 ^ 29 of eight bytes is taken for element 0. -/
theorem not_separate :
    InElement ⟨0, 0⟩ ⟨4096, 8⟩ ∧ InElement ⟨0x20000000, 0⟩ ⟨4096, 8⟩ ∧
      ¬ Separate ⟨4096, 8⟩ ⟨0, 0⟩ ⟨0x20000000, 0⟩ := by
  refine ⟨by decide, by decide, ?_⟩
  intro separate
  have reached := accessesAt_iff.mp separate.reachesSecond
  exact absurd reached.1 (by decide)

end ElementAccess

end VpuSim
