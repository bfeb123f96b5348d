import VpuSim.Sim.Bounds

/-!
# The lifetime of a UAV descriptor

A descriptor is a copy of a pointer that `SetUav` made, and neither `Load` nor
`Unload` touches it. It stays inside the store's allocation as long as the store is
not replaced under a descriptor that is set, and no UAV is set past the end.
-/

set_option linter.dupNamespace false

namespace VpuSim

open ByteMemory Transition

inductive SimCall where
  /-- `malloc` returns `block`. -/
  | load (block : UInt64)
  | unload
  | setUav (index : Nat) (address : VpuAddress) (elementSize : Int32)
  | copy (call : HostCall)

/-- The address is one of the store's allocation. -/
def VpuStore.Contains (store : VpuStore) (address : UInt64) : Prop :=
  store.base.toNat ≤ address.toNat ∧ address.toNat < store.base.toNat + store.size.toNat

instance (store : VpuStore) (address : UInt64) : Decidable (store.Contains address) :=
  inferInstanceAs (Decidable (_ ∧ _))

namespace VpuSim

/-- Every descriptor is null or points into the store. -/
def Owned (sim : VpuSim) : Prop :=
  ∀ index, (sim.getUaveResourceDescriptor index).base = 0 ∨
    sim.globalStore.Contains (sim.getUaveResourceDescriptor index).base

/-- No descriptor is set. -/
def AllNull (sim : VpuSim) : Prop := ∀ index, (sim.getUaveResourceDescriptor index).base = 0

/-- The context points at the store exactly while the store has an allocation. -/
inductive Lifecycle (sim : VpuSim) : Prop
  | unloaded (store : sim.globalStore = .new kVpuSegmentGlobal)
      (detached : sim.context.globalStore = none)
  | loaded (store : sim.globalStore.LoadedAt sim.globalStore.base.toNat)
      (attached : sim.context.globalStore = some sim.globalStore)

/-- The mebibyte from `block` on shares no byte with the store. -/
def ApartFrom (sim : VpuSim) (block : Nat) : Prop :=
  sim.globalStore.base.toNat + sim.globalStore.size.toNat ≤ block ∨
    block + 2 ^ 20 ≤ sim.globalStore.base.toNat

end VpuSim

namespace SimCall

def step (state : SimState) : SimCall → Option SimState
  | load block => do
    let sim ← state.sim.load block
    return { state with sim }
  | unload => some { state with sim := state.sim.unload }
  | setUav index address elementSize => do
    let sim ← state.sim.setUav index address elementSize
    return { state with sim }
  | copy call => call.step state

/-- The allocations that the calls make. -/
def blocks (calls : List SimCall) : List Nat :=
  calls.filterMap fun
    | load block => some block.toNat
    | _ => none

/-- `malloc` returns a fresh mebibyte for each `Load`. -/
structure Fresh (calls : List SimCall) : Prop where
  apart : (blocks calls).Pairwise fun block other =>
    block + 2 ^ 20 ≤ other ∨ other + 2 ^ 20 ≤ block
  inAddressSpace : ∀ block ∈ blocks calls, block + 2 ^ 20 < 2 ^ 64

/-- In every state of the run every descriptor is null or points into the store. -/
def AlwaysOwned : SimState → List SimCall → Prop := Always step fun state => state.sim.Owned

/-- The store is replaced or released only while no descriptor is set, and a UAV is set
only inside the store (or to the null pointer, where the sum wraps to it). A copy is taken to
stay inside the store: one that escapes may overwrite anything. -/
def Keeps (state : SimState) : SimCall → Prop
  | load _ | unload => state.sim.AllNull
  | setUav _ address _ => address.offset < state.sim.globalStore.size ∨
      state.sim.globalStore.base + address.offset = 0
  | copy _ => True

/-- Every call of the run that passes its assertions meets its condition. -/
def AllKeep : SimState → List SimCall → Prop :=
  Along step fun state call => (call.step state).isSome → call.Keeps state

end SimCall

namespace VpuSim

variable {sim next : VpuSim}

theorem load_eq {block : UInt64} (loaded : sim.load block = some next) :
    next.globalStore = { sim.globalStore with base := block, size := kGlobalSegmentSize } ∧
      next.context = { sim.context with globalStore := some next.globalStore } := by
  unfold load VpuStore.load at loaded
  split at loaded
  · cases loaded
  · cases loaded
    exact ⟨rfl, rfl⟩

theorem setUav_cases {index : Nat} {address : VpuAddress} {elementSize : Int32}
    (set : sim.setUav index address elementSize = some next) :
    ∃ globalStore, sim.context.globalStore = some globalStore ∧
      next.globalStore = sim.globalStore ∧ next.context.globalStore = some globalStore ∧
      ∃ bound : index < 4, next.context.uavResources = sim.context.uavResources.set index
        ⟨globalStore.base + address.offset, elementSize⟩ := by
  unfold setUav VpuContext.setUav at set
  split at set
  · split at set
    · cases attached : sim.context.globalStore with
      | none => rw [attached] at set; cases set
      | some globalStore =>
        rw [attached] at set
        cases set
        exact ⟨globalStore, rfl, rfl, rfl, ‹_›, rfl⟩
    · cases set
  · cases set

namespace Lifecycle

theorem segment (lifecycle : sim.Lifecycle) : sim.globalStore.segment = kVpuSegmentGlobal := by
  cases lifecycle with
  | unloaded store _ => rw [store]; rfl
  | loaded store _ => exact store.segment

theorem load (lifecycle : sim.Lifecycle) {block : UInt64} (loaded : sim.load block = some next)
    (space : block.toNat + 2 ^ 20 < 2 ^ 64) : next.Lifecycle := by
  obtain ⟨store, context⟩ := load_eq loaded
  apply Lifecycle.loaded
  · have loadedAt := loadedAt_of_load lifecycle.segment loaded space
    rwa [← loadedAt.base] at loadedAt
  · rw [context]

theorem unload (lifecycle : sim.Lifecycle) : sim.unload.Lifecycle := by
  apply Lifecycle.unloaded
  · rw [VpuSim.unload, VpuStore.unload, lifecycle.segment]
    rfl
  · rfl

theorem setUav (lifecycle : sim.Lifecycle) {index : Nat} {address : VpuAddress}
    {elementSize : Int32} (set : sim.setUav index address elementSize = some next) :
    next.Lifecycle ∧ next.globalStore = sim.globalStore ∧
      sim.globalStore.LoadedAt sim.globalStore.base.toNat ∧
      ∃ bound : index < 4, next.context.uavResources = sim.context.uavResources.set index
        ⟨sim.globalStore.base + address.offset, elementSize⟩ := by
  obtain ⟨globalStore, attached, store, nextAttached, bound, resources⟩ := setUav_cases set
  cases lifecycle with
  | unloaded _ detached =>
    rw [detached] at attached
    cases attached
  | loaded loadedAt same =>
    rw [same] at attached
    cases attached
    exact ⟨.loaded (store ▸ loadedAt) (store ▸ nextAttached), store, loadedAt, bound, resources⟩

end Lifecycle

/-- An allocation that shares nothing with the old one holds none of its pointers. -/
theorem Owned.load_iff (owned : sim.Owned) {block : UInt64} (apart : sim.ApartFrom block.toNat)
    (loaded : sim.load block = some next) : next.Owned ↔ sim.AllNull := by
  obtain ⟨store, context⟩ := load_eq loaded
  have same : ∀ index, next.getUaveResourceDescriptor index = sim.getUaveResourceDescriptor index := by
    intro index
    rw [getUaveResourceDescriptor, context]
    rfl
  constructor
  · intro nextOwned index
    rcases owned index with null | inOld
    · exact null
    rcases nextOwned index with null | inNew
    · rwa [same] at null
    rw [same, store] at inNew
    have oldStart := inOld.1
    have oldFinish := inOld.2
    have newStart : block.toNat ≤ (sim.getUaveResourceDescriptor index).base.toNat := inNew.1
    have newFinish : (sim.getUaveResourceDescriptor index).base.toNat < block.toNat + 2 ^ 20 :=
      inNew.2
    unfold ApartFrom at apart
    omega
  · intro null index
    rw [same]
    exact .inl (null index)

theorem Owned.unload_iff (sim : VpuSim) : sim.unload.Owned ↔ sim.AllNull := by
  constructor
  · intro owned index
    rcases owned index with null | ⟨_, finish⟩
    · exact null
    · exact absurd finish (Nat.not_lt_zero _)
  · intro null index
    exact .inl (null index)

end VpuSim

/-- The pointer that `SetUav` makes is in the store exactly if the offset is. -/
theorem VpuStore.LoadedAt.contains_iff {store : VpuStore} {block : Nat}
    (loaded : store.LoadedAt block) (offset : UInt64) :
    store.Contains (store.base + offset) ↔ offset < store.size := by
  have space := loaded.inAddressSpace
  have bound := offset.toNat_lt
  unfold Contains
  rw [UInt64.lt_iff_toNat_lt, UInt64.toNat_add, loaded.base, loaded.size]
  omega

namespace VpuSim

variable {sim next : VpuSim}

theorem Owned.setUav_iff (owned : sim.Owned) (lifecycle : sim.Lifecycle) {index : Nat}
    {address : VpuAddress} {elementSize : Int32}
    (set : sim.setUav index address elementSize = some next) :
    next.Owned ↔ address.offset < sim.globalStore.size ∨
      sim.globalStore.base + address.offset = 0 := by
  obtain ⟨-, store, loadedAt, bound, resources⟩ := lifecycle.setUav set
  have descriptor : ∀ uav, (next.getUaveResourceDescriptor uav).base =
      if index = uav.val then sim.globalStore.base + address.offset
        else (sim.getUaveResourceDescriptor uav).base := by
    intro uav
    rw [getUaveResourceDescriptor, VpuContext.getUavResourceDescriptor, resources,
      VpuContext.get_set _ bound]
    split <;> rfl
  constructor
  · intro nextOwned
    have made := nextOwned ⟨index, bound⟩
    rw [descriptor, if_pos rfl, store, loadedAt.contains_iff] at made
    exact made.symm
  · intro inside uav
    rw [descriptor, store]
    by_cases same : index = uav.val
    · rw [if_pos same, loadedAt.contains_iff]
      exact inside.symm
    · rw [if_neg same]
      exact owned uav

end VpuSim

namespace SimCall

variable {state next : SimState} {call : SimCall}

theorem sim_of_load {block : UInt64} (stepped : (load block).step state = some next) :
    state.sim.load block = some next.sim := by
  simp only [step, Option.bind_eq_bind, Option.bind_eq_some_iff] at stepped
  obtain ⟨sim, loaded, same⟩ := stepped
  cases same
  exact loaded

theorem sim_of_setUav {index : Nat} {address : VpuAddress} {elementSize : Int32}
    (stepped : (setUav index address elementSize).step state = some next) :
    state.sim.setUav index address elementSize = some next.sim := by
  simp only [step, Option.bind_eq_bind, Option.bind_eq_some_iff] at stepped
  obtain ⟨sim, set, same⟩ := stepped
  cases same
  exact set

theorem sim_of_copy {copied : HostCall} (stepped : (copy copied).step state = some next) :
    next.sim = state.sim :=
  HostCall.sim_of_step stepped

/-- The allocation that the call makes, if it makes one, is fresh and in the address space. -/
def FreshIn (state : SimState) (call : SimCall) : Prop :=
  ∀ block ∈ blocks [call], state.sim.ApartFrom block ∧ block + 2 ^ 20 < 2 ^ 64

theorem step_lifecycle (lifecycle : state.sim.Lifecycle) (fresh : call.FreshIn state)
    (stepped : call.step state = some next) : next.sim.Lifecycle := by
  cases call with
  | load block =>
    have space := (fresh block.toNat (List.mem_singleton_self _)).2
    exact lifecycle.load (sim_of_load stepped) space
  | unload =>
    cases stepped
    exact lifecycle.unload
  | setUav index address elementSize => exact (lifecycle.setUav (sim_of_setUav stepped)).1
  | copy copied => exact (sim_of_copy stepped).symm ▸ lifecycle

/-- One call leaves every descriptor null or in the store exactly if it meets its condition. -/
theorem step_owned_iff (lifecycle : state.sim.Lifecycle) (owned : state.sim.Owned)
    (fresh : call.FreshIn state) (stepped : call.step state = some next) :
    next.sim.Owned ↔ call.Keeps state := by
  cases call with
  | load block =>
    have apart := (fresh block.toNat (List.mem_singleton_self _)).1
    exact owned.load_iff apart (sim_of_load stepped)
  | unload =>
    cases stepped
    exact VpuSim.Owned.unload_iff state.sim
  | setUav index address elementSize => exact owned.setUav_iff lifecycle (sim_of_setUav stepped)
  | copy copied => exact iff_of_true ((sim_of_copy stepped).symm ▸ owned) trivial

/-- What holds before the calls that are still to come: their allocations are fresh, and
apart from the store. -/
structure Pending (state : SimState) (calls : List SimCall) : Prop where
  lifecycle : state.sim.Lifecycle
  fresh : Fresh calls
  apart : ∀ block ∈ blocks calls, state.sim.ApartFrom block

theorem Pending.freshIn {rest : List SimCall} (pending : Pending state (call :: rest)) :
    call.FreshIn state := by
  intro block made
  have isBlock : block ∈ blocks (call :: rest) := by
    cases call with
    | load made' => exact List.mem_cons.mpr (.inl (List.mem_singleton.mp made))
    | unload => cases made
    | setUav index address elementSize => cases made
    | copy copied => cases made
  exact ⟨pending.apart block isBlock, pending.fresh.inAddressSpace block isBlock⟩

theorem Pending.step {rest : List SimCall} (pending : Pending state (call :: rest))
    (stepped : call.step state = some next) : Pending next rest := by
  have lifecycle := step_lifecycle pending.lifecycle pending.freshIn stepped
  obtain ⟨before, fresh, apart⟩ := pending
  cases call with
  | load block =>
    have pairwise := List.pairwise_cons.mp fresh.apart
    have space := List.forall_mem_cons.mp fresh.inAddressSpace
    refine ⟨lifecycle, ⟨pairwise.2, space.2⟩, ?_⟩
    intro later isLater
    have store := (VpuSim.load_eq (sim_of_load stepped)).1
    unfold VpuSim.ApartFrom
    rw [store]
    exact pairwise.1 later isLater
  | unload =>
    cases stepped
    exact ⟨lifecycle, ⟨fresh.apart, fresh.inAddressSpace⟩, fun _ _ => .inl (Nat.zero_le _)⟩
  | setUav index address elementSize =>
    refine ⟨lifecycle, ⟨fresh.apart, fresh.inAddressSpace⟩, ?_⟩
    have store := (before.setUav (sim_of_setUav stepped)).2.1
    unfold VpuSim.ApartFrom
    rw [store]
    exact apart
  | copy copied =>
    refine ⟨lifecycle, ⟨fresh.apart, fresh.inAddressSpace⟩, ?_⟩
    rw [sim_of_copy stepped]
    exact apart

/-- In a run from the start every descriptor stays null or in the store exactly if every
call meets its condition. -/
theorem alwaysOwned_iff {calls : List SimCall} (fresh : Fresh calls) (memory : Memory) :
    AlwaysOwned ⟨.new, memory⟩ calls ↔ AllKeep ⟨.new, memory⟩ calls := by
  have pending : Pending ⟨.new, memory⟩ calls :=
    ⟨.unloaded rfl rfl, fresh, fun _ _ => .inl (Nat.zero_le _)⟩
  apply always_iff_along _ _ pending
  · intro index
    left
    exact congrArg VpuResource.base (Vector.getElem_replicate ..)
  · intro state call rest next pending owned stepped
    exact step_owned_iff pending.lifecycle owned pending.freshIn stepped
  · intro state call rest next pending stepped
    exact pending.step stepped

/-- A UAV is set, the store replaced under it, and a second one set past the end. -/
def reuseCalls : List SimCall :=
  [load 4096, setUav 0 ⟨kVpuSegmentGlobal, 16⟩ 8,
    copy (.write ⟨kVpuSegmentGlobal, 16⟩ (fun _ => 7) 8), unload, load 2097152,
    setUav 1 ⟨kVpuSegmentGlobal, 1048576⟩ 8]

theorem alwaysOwned_iff_reuse :
    AlwaysOwned ⟨.new, .holding fun _ => 0⟩ reuseCalls ↔
      AllKeep ⟨.new, .holding fun _ => 0⟩ reuseCalls :=
  @alwaysOwned_iff reuseCalls ⟨by decide, by decide⟩ (.holding fun _ => 0)

/-- `Unload` leaves the descriptor of UAV 0 at 4096, and offset 2 ^ 20 is one past the end. -/
theorem not_alwaysOwned :
    (Fresh [load 4096, setUav 0 ⟨kVpuSegmentGlobal, 0⟩ 8, unload] ∧
      ¬ AlwaysOwned ⟨.new, .holding fun _ => 0⟩
        [load 4096, setUav 0 ⟨kVpuSegmentGlobal, 0⟩ 8, unload]) ∧
    Fresh [load 4096, setUav 0 ⟨kVpuSegmentGlobal, 1048576⟩ 8] ∧
      ¬ AlwaysOwned ⟨.new, .holding fun _ => 0⟩
        [load 4096, setUav 0 ⟨kVpuSegmentGlobal, 1048576⟩ 8] := by
  refine ⟨⟨⟨by decide, by decide⟩, ?_⟩, ⟨by decide, by decide⟩, ?_⟩
  · intro always
    have unloaded := ((always.2 _ rfl).2 _ rfl).2 _ rfl
    exact absurd (unloaded ⟨0, by decide⟩) (by decide)
  · intro always
    have set := (always.2 _ rfl).2 _ rfl
    exact absurd (set ⟨0, by decide⟩) (by decide)

end SimCall

end VpuSim
