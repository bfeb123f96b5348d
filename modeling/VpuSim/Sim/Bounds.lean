import VpuSim.Sim.SharedStore
import VpuSim.Transition.Run

/-!
# The bounds of the store

`Write` and `Read` assert that offset plus count is at most the store's size, and
the sum is taken modulo 2 ^ 64. The assertions keep a call inside the store as long
as that sum does not wrap; where it does, a passing call leaves the store.
-/

set_option linter.dupNamespace false

namespace VpuSim

open ByteMemory Transition

namespace VpuSim

def getGlobalStoreSize (self : VpuSim) : UInt64 := self.globalStore.size

/-- `Load` puts the store at the block that `malloc` returned. -/
theorem loadedAt_of_load {self sim : VpuSim} {block : UInt64}
    (constructed : self.globalStore.segment = kVpuSegmentGlobal)
    (loaded : self.load block = some sim) (space : block.toNat + 2 ^ 20 < 2 ^ 64) :
    sim.globalStore.LoadedAt block.toNat := by
  unfold VpuSim.load VpuStore.load at loaded
  split at loaded
  · cases loaded
  · cases loaded
    exact ⟨constructed, rfl, rfl, space⟩

end VpuSim

/-- A call of the host that copies from or to the store. -/
inductive HostCall where
  | write (address : VpuAddress) (buf : Nat → UInt8) (count : UInt64)
  | read (address : VpuAddress) (count : UInt64)

namespace HostCall

def address : HostCall → VpuAddress
  | write address .. | read address _ => address

def count : HostCall → UInt64
  | write _ _ count | read _ count => count

def event : HostCall → Event
  | write address buf count => .write address buf count
  | read address count => .read address count

/-- The state after the call, `none` where an assertion fails. -/
def step (state : SimState) (call : HostCall) : Option SimState :=
  (state.step call.event).map Prod.fst

/-- The assertions on the call's path hold. -/
def Passes (call : HostCall) : Prop :=
  call.address.segment = kVpuSegmentGlobal ∧
    call.address.offset + call.count ≤ VpuSim.kGlobalSegmentSize

instance (call : HostCall) : Decidable call.Passes := inferInstanceAs (Decidable (_ ∧ _))

/-- The sum of offset and count does not wrap. -/
def NoWrap (call : HostCall) : Prop := call.address.offset.toNat + call.count.toNat < 2 ^ 64

instance (call : HostCall) : Decidable call.NoWrap := inferInstanceAs (Decidable (_ < _))

/-- The call stores to the byte at the process address `byte`, or what it reads
depends on that byte. -/
def Touches (state : SimState) : HostCall → Nat → Prop
  | write address buf count, byte => ∃ after store,
      state.sim.write state.memory address buf count = some after ∧
        after.log = state.memory.log ++ [store] ∧ store.Covers byte
  | read address count, byte => ∃ other : Memory,
      (∀ elsewhere ≠ byte, other.byte elsewhere = state.memory.byte elsewhere) ∧
        state.sim.read other address count ≠ state.sim.read state.memory address count

/-- The call touches no byte outside the store, and fails if its range leaves it. -/
structure SafeIn (state : SimState) (call : HostCall) : Prop where
  inside : ∀ byte, call.Touches state byte → state.sim.globalStore.base.toNat ≤ byte ∧
    byte < state.sim.globalStore.base.toNat + state.sim.getGlobalStoreSize.toNat
  refused : state.sim.getGlobalStoreSize.toNat < call.address.offset.toNat + call.count.toNat →
    step state call = none

/-- Every call of the run is safe, up to the first that fails an assertion. -/
def AllSafe : SimState → List HostCall → Prop := Along step SafeIn

end HostCall

namespace VpuStore.LoadedAt

variable {store : VpuStore} {block : Nat} {offset count : UInt64}

theorem size_eq (loaded : store.LoadedAt block) : store.size = VpuSim.kGlobalSegmentSize :=
  UInt64.toNat_inj.mp loaded.size

/-- Where offset and count pass the comparison, their range stays in the store exactly
as far as their sum does not wrap. -/
theorem stays_iff (loaded : store.LoadedAt block)
    (passes : offset + count ≤ VpuSim.kGlobalSegmentSize) :
    (∀ byte, (store.base + offset).toNat ≤ byte →
        byte < (store.base + offset).toNat + count.toNat → block ≤ byte ∧ byte < block + 2 ^ 20) ↔
      offset.toNat + count.toNat < 2 ^ 64 := by
  have sum : (offset.toNat + count.toNat) % 2 ^ 64 ≤ 2 ^ 20 := by
    rw [← UInt64.toNat_add]
    exact passes
  have pointer : (store.base + offset).toNat = (block + offset.toNat) % 2 ^ 64 := by
    rw [UInt64.toNat_add, loaded.base]
  have space := loaded.inAddressSpace
  have offsetBound := offset.toNat_lt
  have countBound := count.toNat_lt
  rw [pointer]
  constructor
  · intro stays
    -- a range whose sum wraps leaves the store at its first byte or one past the end
    by_contra wraps
    have first := stays ((block + offset.toNat) % 2 ^ 64)
    have pastEnd := stays (block + 2 ^ 20)
    omega
  · intro noWrap byte start finish
    omega

end VpuStore.LoadedAt

namespace HostCall

variable {state : SimState} {block : Nat} {call : HostCall}

theorem sim_write_eq (loaded : state.sim.globalStore.LoadedAt block) (address : VpuAddress)
    (buf : Nat → UInt8) (count : UInt64) :
    state.sim.write state.memory address buf count =
      if (write address buf count).Passes then
        some (state.memory.copy (state.sim.globalStore.base + address.offset).toNat count.toNat buf)
      else none := by
  unfold VpuSim.write VpuStore.write Passes
  rw [loaded.segment, loaded.size_eq]
  split <;> simp_all [HostCall.address, HostCall.count]

theorem sim_read_eq (loaded : state.sim.globalStore.LoadedAt block) (memory : Memory)
    (address : VpuAddress) (count : UInt64) :
    state.sim.read memory address count =
      if (read address count).Passes then
        some ((List.range count.toNat).map fun k =>
          memory.byte ((state.sim.globalStore.base + address.offset).toNat + k))
      else none := by
  unfold VpuSim.read VpuStore.read Passes
  rw [loaded.size_eq]
  split <;> simp_all [HostCall.address, HostCall.count]

/-- The bytes that a copy reads are the ones its answer depends on. -/
theorem map_range_ne_iff (memory : Memory) (start length byte : Nat) :
    (∃ other : Memory, (∀ elsewhere ≠ byte, other.byte elsewhere = memory.byte elsewhere) ∧
        (List.range length).map (fun k => other.byte (start + k)) ≠
          (List.range length).map fun k => memory.byte (start + k)) ↔
      start ≤ byte ∧ byte < start + length := by
  constructor
  · rintro ⟨other, agrees, differs⟩
    by_contra outside
    apply differs
    apply List.map_congr_left
    intro k inRange
    have below := List.mem_range.mp inRange
    exact agrees _ (by omega)
  · rintro ⟨started, unfinished⟩
    let other := Memory.holding (Function.update memory.byte byte (memory.byte byte + 1))
    refine ⟨other, ?_, ?_⟩
    · intro elsewhere different
      exact Function.update_of_ne different _ _
    · intro same
      have atByte := List.map_inj_left.mp same (byte - start) (List.mem_range.mpr (by omega))
      rw [Nat.add_sub_cancel' started, Memory.byte_holding, Function.update_self] at atByte
      have increment := (UInt8.add_right_inj _).mp (atByte.trans (UInt8.add_zero _).symm)
      exact absurd increment (by decide)

theorem touches_iff (loaded : state.sim.globalStore.LoadedAt block) {byte : Nat} :
    call.Touches state byte ↔ call.Passes ∧
      (state.sim.globalStore.base + call.address.offset).toNat ≤ byte ∧
      byte < (state.sim.globalStore.base + call.address.offset).toNat + call.count.toNat := by
  cases call with
  | write address buf count =>
    simp only [Touches, sim_write_eq loaded]
    by_cases passes : (write address buf count).Passes
    · simp only [if_pos passes, Option.some.injEq, exists_and_left, exists_eq_left', Memory.log_copy,
        List.append_cancel_left_eq, List.singleton_inj, and_iff_right passes]
      rfl
    · simp [passes]
  | read address count =>
    simp only [Touches, sim_read_eq loaded]
    by_cases passes : (read address count).Passes
    · simp only [if_pos passes, and_iff_right passes, ne_eq, Option.some.injEq]
      exact map_range_ne_iff state.memory _ _ byte
    · simp [passes]

theorem isSome_step (loaded : state.sim.globalStore.LoadedAt block) :
    (step state call).isSome = decide call.Passes := by
  unfold step
  cases call with
  | write address buf count =>
    simp only [event, SimState.step, sim_write_eq loaded]
    split <;> simp_all
  | read address count =>
    simp only [event, SimState.step, sim_read_eq loaded]
    split <;> simp_all

/-- The calls leave the store where it is. -/
theorem sim_of_step {next : SimState} (stepped : step state call = some next) :
    next.sim = state.sim := by
  unfold step at stepped
  cases call with
  | write address buf count =>
    simp only [event, SimState.step] at stepped
    cases wrote : state.sim.write state.memory address buf count <;> rw [wrote] at stepped <;>
      cases stepped
    rfl
  | read address count =>
    simp only [event, SimState.step] at stepped
    cases got : state.sim.read state.memory address count <;> rw [got] at stepped <;>
      cases stepped
    rfl

theorem safeIn_iff (loaded : state.sim.globalStore.LoadedAt block) :
    call.SafeIn state ↔ (call.Passes → call.NoWrap) := by
  have size : state.sim.getGlobalStoreSize.toNat = 2 ^ 20 := loaded.size
  constructor
  · rintro ⟨inside, -⟩ passes
    apply (loaded.stays_iff passes.2).mp
    intro byte start finish
    have within := inside byte ((touches_iff loaded).mpr ⟨passes, start, finish⟩)
    rwa [loaded.base, size] at within
  · intro bounded
    constructor
    · intro byte touched
      obtain ⟨passes, start, finish⟩ := (touches_iff loaded).mp touched
      rw [loaded.base, size]
      exact (loaded.stays_iff passes.2).mpr (bounded passes) byte start finish
    · intro leaves
      apply Option.not_isSome_iff_eq_none.mp
      rw [isSome_step loaded, decide_eq_true_eq]
      intro passes
      have noWrap := bounded passes
      have sum := UInt64.le_iff_toNat_le.mp passes.2
      rw [UInt64.toNat_add, Nat.mod_eq_of_lt noWrap] at sum
      rw [size] at leaves
      exact absurd sum (Nat.not_le.mpr leaves)

/-- A run is safe exactly if, as long as the assertions hold, no sum wraps. -/
theorem allSafe_iff (loaded : state.sim.globalStore.LoadedAt block) (calls : List HostCall) :
    AllSafe state calls ↔ ∀ call ∈ calls.takeWhile (fun call => call.Passes), call.NoWrap := by
  have same : ∀ state call, state.sim.globalStore.LoadedAt block →
      (SafeIn state call ↔ (decide call.Passes = true → call.NoWrap)) := by
    intro state call loaded
    rw [safeIn_iff loaded, decide_eq_true_eq]
  apply along_iff_takeWhile same _ _ loaded
  · intro state call loaded
    exact isSome_step loaded
  · intro state call next loaded stepped
    exact sim_of_step stepped ▸ loaded

theorem allSafe_iff_small :
    AllSafe ⟨smallSim, .holding fun _ => 0⟩
        [.write ⟨kVpuSegmentGlobal, 1048572⟩ (fun _ => 7) 4, .read ⟨kVpuSegmentGlobal, 1048573⟩ 4] ↔
      ∀ call ∈ List.takeWhile (fun call => HostCall.Passes call)
          [.write ⟨kVpuSegmentGlobal, 1048572⟩ (fun _ => 7) 4,
            .read ⟨kVpuSegmentGlobal, 1048573⟩ 4], call.NoWrap :=
  @allSafe_iff ⟨smallSim, .holding fun _ => 0⟩ 4096
    (@VpuSim.loadedAt_of_load .new smallSim 4096 rfl rfl (by decide))
    [.write ⟨kVpuSegmentGlobal, 1048572⟩ (fun _ => 7) 4, .read ⟨kVpuSegmentGlobal, 1048573⟩ 4]

/-- Offset 2 ^ 64 - 1 and count 1 add up to 0, and the byte before the store is written. -/
theorem not_allSafe :
    ¬ AllSafe ⟨smallSim, .holding fun _ => 0⟩
      [.write ⟨kVpuSegmentGlobal, 0xFFFFFFFFFFFFFFFF⟩ (fun _ => 7) 1] := by
  rintro ⟨⟨inside, -⟩, -⟩
  have before := inside 4095 ⟨_, _, rfl, rfl, by decide⟩
  exact absurd before.1 (by decide)

end HostCall

end VpuSim
