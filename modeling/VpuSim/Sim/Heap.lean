import VpuSim.Sim.Lifetime

/-!
# The store's allocations

`Load` calls `malloc` and `Unload` calls `free`. Neither looks at what the other has done,
so a second `Load` drops the first allocation; but since `Unload` clears the pointer, no
run frees what it may not free.
-/

set_option linter.dupNamespace false

namespace VpuSim

open ByteMemory

/-- `free` on the blocks that are allocated, `none` where the pointer is neither null nor
one of them. -/
def free (live : List UInt64) (block : UInt64) : Option (List UInt64) :=
  if block = 0 then some live
  else if block ∈ live then some (live.erase block)
  else none

/-- A simulator with the blocks that are allocated for it. -/
structure HeapState where
  state : SimState
  live : List UInt64

namespace HeapState

/-- The call, with what it allocates and frees; `none` where an assertion or `free` fails. -/
def step (self : HeapState) (call : SimCall) : Option HeapState :=
  (call.step self.state).bind fun state =>
    match call with
    | .load block => some ⟨state, block :: self.live⟩
    | .unload => (free self.live self.state.sim.globalStore.base).map fun live => ⟨state, live⟩
    | .setUav .. | .copy _ => some ⟨state, self.live⟩

def new (memory : Memory) : HeapState := ⟨⟨.new, memory⟩, []⟩

/-- The store is null or one of the allocated blocks, and null is none of them. -/
structure Holds (heap : HeapState) : Prop where
  store : heap.state.sim.globalStore.base = 0 ∨
    heap.state.sim.globalStore.base ∈ heap.live
  notNull : 0 ∉ heap.live

end HeapState

namespace SimCall

def IsLifecycle : SimCall → Bool
  | load _ | unload => true
  | setUav .. | copy _ => false

/-- The first of the calls that loads or unloads is an `Unload`. -/
def releasedBy (calls : List SimCall) : Bool :=
  match calls.find? IsLifecycle with
  | some unload => true
  | _ => false

/-- The blocks of the `Load`s that are not directly followed by an `Unload`. -/
def unreleased : List SimCall → List UInt64
  | [] => []
  | load block :: rest =>
    if releasedBy rest then unreleased rest else block :: unreleased rest
  | unload :: rest | setUav .. :: rest | copy _ :: rest => unreleased rest

/-- The last call that loads or unloads is a `Load`. -/
def EndsLoaded (calls : List SimCall) : Prop :=
  ∃ block, (calls.filter IsLifecycle).getLast? = some (load block)

end SimCall

namespace HeapState

variable {self : HeapState} {next : SimState} {call : SimCall}

theorem free_of_holds (holds : self.Holds) :
    free self.live self.state.sim.globalStore.base =
      some (self.live.erase self.state.sim.globalStore.base) := by
  rw [free]
  split
  · rename_i null
    rw [null, List.erase_of_not_mem holds.notNull]
  · rename_i notNull
    exact if_pos (holds.store.resolve_left notNull)

/-- The blocks after a call. -/
def liveAfter (self : HeapState) : SimCall → List UInt64
  | .load block => block :: self.live
  | .unload => self.live.erase self.state.sim.globalStore.base
  | .setUav .. | .copy _ => self.live

/-- The pointer of the store after a call. -/
def baseAfter (self : HeapState) : SimCall → UInt64
  | .load block => block
  | .unload => 0
  | .setUav .. | .copy _ => self.state.sim.globalStore.base

theorem step_of_holds (holds : self.Holds) (stepped : call.step self.state = some next) :
    self.step call = some ⟨next, self.liveAfter call⟩ := by
  rw [step, stepped, Option.bind_some]
  cases call with
  | load block => rfl
  | unload => simp only [free_of_holds holds, Option.map_some, liveAfter]
  | setUav index address elementSize => rfl
  | copy copied => rfl

theorem base_of_step (stepped : call.step self.state = some next) :
    next.sim.globalStore.base = self.baseAfter call := by
  cases call with
  | load block =>
    have loaded := (VpuSim.load_eq (SimCall.sim_of_load stepped)).1
    rw [loaded]
    rfl
  | unload =>
    cases stepped
    rfl
  | setUav index address elementSize =>
    obtain ⟨_, _, store, _⟩ := VpuSim.setUav_cases (SimCall.sim_of_setUav stepped)
    rw [store]
    rfl
  | copy copied =>
    rw [SimCall.sim_of_copy stepped]
    rfl

/-- `malloc` has not returned null where its assertion passes. -/
theorem load_zero (state : SimState) : (SimCall.load 0).step state = none := rfl

theorem Holds.step (holds : self.Holds) (stepped : call.step self.state = some next) :
    HeapState.Holds ⟨next, self.liveAfter call⟩ := by
  have base := base_of_step stepped
  cases call with
  | load block =>
    refine ⟨.inr ?_, ?_⟩
    · rw [base]
      exact List.mem_cons_self
    · rintro (_ | ⟨_, earlier⟩)
      · rw [load_zero] at stepped
        cases stepped
      · exact holds.notNull earlier
  | unload => exact ⟨.inl base, fun member => holds.notNull (List.mem_of_mem_erase member)⟩
  | setUav index address elementSize => exact ⟨by rw [base]; exact holds.store, holds.notNull⟩
  | copy copied => exact ⟨by rw [base]; exact holds.store, holds.notNull⟩

/-- What is left of the blocks once the store is released, if the calls release it. -/
def keptBy (self : HeapState) (calls : List SimCall) : List UInt64 :=
  if SimCall.releasedBy calls then self.live.erase self.state.sim.globalStore.base else self.live

/-- A call leaves in total what it adds to the blocks that are never released. -/
theorem keptBy_step (holds : self.Holds) (stepped : call.step self.state = some next)
    (rest : List SimCall) :
    ((⟨next, self.liveAfter call⟩ : HeapState).keptBy rest ++ SimCall.unreleased rest).Perm
      (self.keptBy (call :: rest) ++ SimCall.unreleased (call :: rest)) := by
  have base := base_of_step stepped
  cases call with
  | load block =>
    have kept : self.keptBy (.load block :: rest) = self.live := rfl
    rw [kept, keptBy, SimCall.unreleased, base]
    cases SimCall.releasedBy rest with
    | true => simp [liveAfter, baseAfter]
    | false => exact List.perm_middle.symm
  | unload =>
    have kept : self.keptBy (.unload :: rest) =
        self.live.erase self.state.sim.globalStore.base := rfl
    have notNull : (0 : UInt64) ∉ self.live.erase self.state.sim.globalStore.base :=
      fun member => holds.notNull (List.mem_of_mem_erase member)
    rw [kept, keptBy, SimCall.unreleased, base]
    simp only [liveAfter, baseAfter, List.erase_of_not_mem notNull, ite_self]
    exact .refl _
  | setUav index address elementSize =>
    have same : SimCall.releasedBy (.setUav index address elementSize :: rest) =
        SimCall.releasedBy rest := rfl
    rw [keptBy, keptBy, same, base]
    exact .refl _
  | copy copied =>
    have same : SimCall.releasedBy (.copy copied :: rest) = SimCall.releasedBy rest := rfl
    rw [keptBy, keptBy, same, base]
    exact .refl _

/-- As long as the assertions pass, `free` does not fail, and what is allocated in the end
was allocated before and not released, or loaded and not released. -/
theorem run_of_holds {calls : List SimCall} {last : SimState} (holds : self.Holds)
    (ran : calls.foldlM SimCall.step self.state = some last) :
    ∃ live, calls.foldlM step self = some ⟨last, live⟩ ∧
      live.Perm (self.keptBy calls ++ SimCall.unreleased calls) := by
  induction calls generalizing self with
  | nil =>
    cases ran
    exact ⟨self.live, rfl, by rw [SimCall.unreleased, List.append_nil]; exact .refl _⟩
  | cons call rest ih =>
    rw [List.foldlM_cons] at ran
    obtain ⟨next, stepped, continued⟩ := Option.bind_eq_some_iff.mp ran
    obtain ⟨live, finished, left⟩ :=
      @ih ⟨next, self.liveAfter call⟩ (holds.step stepped) continued
    refine ⟨live, ?_, left.trans (keptBy_step holds stepped rest)⟩
    rw [List.foldlM_cons, step_of_holds holds stepped]
    exact finished

theorem endsLoaded_append (calls : List SimCall) (call : SimCall) :
    SimCall.EndsLoaded (calls ++ [call]) ↔
      if call.IsLifecycle then ∃ block, call = .load block else SimCall.EndsLoaded calls := by
  rw [SimCall.EndsLoaded, SimCall.EndsLoaded, List.filter_append]
  cases lifecycle : call.IsLifecycle with
  | true => simp [lifecycle]
  | false => simp [lifecycle]

/-- The destructor of the store passes its assertions exactly if the last `Load` was
followed by an `Unload`. -/
theorem destroy_of_run {calls : List SimCall} {memory : Memory} {last : SimState}
    (ran : calls.foldlM SimCall.step ⟨.new, memory⟩ = some last) :
    last.sim.globalStore.destroy = some () ↔ ¬ SimCall.EndsLoaded calls := by
  induction calls using List.reverseRecOn generalizing last with
  | nil =>
    cases ran
    exact iff_of_true rfl fun ⟨_, impossible⟩ => nomatch impossible
  | append_singleton earlier call ih =>
    rw [List.foldlM_append] at ran
    obtain ⟨before, ranEarlier, stepped⟩ := Option.bind_eq_some_iff.mp ran
    simp only [List.foldlM_cons, List.foldlM_nil, Option.pure_def, Option.bind_eq_bind,
      Option.bind_fun_some] at stepped
    rw [endsLoaded_append]
    cases call with
    | load block =>
      have loaded := (VpuSim.load_eq (SimCall.sim_of_load stepped)).1
      rw [loaded, VpuStore.destroy, if_neg]
      · exact iff_of_false (fun impossible => nomatch impossible) fun ended => ended ⟨block, rfl⟩
      · exact fun empty => absurd empty.2 (by decide : VpuSim.kGlobalSegmentSize ≠ 0)
    | unload =>
      cases stepped
      exact iff_of_true rfl fun ⟨_, impossible⟩ => nomatch impossible
    | setUav index address elementSize =>
      obtain ⟨_, _, store, _⟩ := VpuSim.setUav_cases (SimCall.sim_of_setUav stepped)
      rw [store]
      exact ih ranEarlier
    | copy copied =>
      rw [SimCall.sim_of_copy stepped]
      exact ih ranEarlier

/-- In every run whose assertions pass, `free` is called on nothing but null and allocated
blocks. In the end the blocks of the `Load`s that no `Unload` follows are still allocated,
and the destructor passes exactly if the last one is not among them. -/
theorem run_unreleased {calls : List SimCall} {memory : Memory} {last : SimState}
    (ran : calls.foldlM SimCall.step ⟨.new, memory⟩ = some last) :
    ∃ live, calls.foldlM step (new memory) = some ⟨last, live⟩ ∧
      live.Perm (SimCall.unreleased calls) ∧
      (last.sim.globalStore.destroy = some () ↔ ¬ SimCall.EndsLoaded calls) := by
  have start : (new memory).Holds := ⟨.inl rfl, List.not_mem_nil⟩
  obtain ⟨live, finished, left⟩ := run_of_holds start ran
  have empty : (new memory).keptBy calls = [] := ite_self []
  rw [empty, List.nil_append] at left
  exact ⟨live, finished, left, destroy_of_run ran⟩

/-- The second `Load` drops the first block; the last two calls free the other one and null. -/
def reloadCalls : List SimCall :=
  [.load 4096, .load 2097152, .setUav 0 ⟨kVpuSegmentGlobal, 16⟩ 8, .unload, .unload]

theorem run_unreleased_reload :
    ∃ last live, reloadCalls.foldlM step (new (.holding fun _ => 0)) = some ⟨last, live⟩ ∧
      live.Perm [4096] ∧
      (last.sim.globalStore.destroy = some () ↔ ¬ SimCall.EndsLoaded reloadCalls) := by
  have ran : ∃ last, reloadCalls.foldlM SimCall.step
      ⟨.new, .holding fun _ => 0⟩ = some last := ⟨_, rfl⟩
  obtain ⟨last, ran⟩ := ran
  obtain ⟨live, finished, left, exit⟩ := run_unreleased ran
  exact ⟨last, live, finished, left, exit⟩

end HeapState

end VpuSim
