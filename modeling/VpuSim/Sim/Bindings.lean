import VpuSim.Sim.Context
import Mathlib.Data.List.Basic

/-!
# The two records of a UAV

The context keeps each binding twice: `m_uavs` holds the store address and
`m_uavResources` the pointer made from it, both next to the element size. After any
run of `SetUav` both come from the last call for their index, but the first record
never receives the element size.
-/

set_option linter.dupNamespace false

namespace VpuSim

structure SetUavCall where
  index : Nat
  address : VpuAddress
  elementSize : Int32

/-- The assertions of `SetUav` on its arguments hold. -/
def SetUavCall.Valid (call : SetUavCall) : Prop :=
  call.index < 4 ∧ call.address.segment = kVpuSegmentGlobal

instance (call : SetUavCall) : Decidable call.Valid := inferInstanceAs (Decidable (_ ∧ _))

/-- The last call for an index. -/
def lastCall (calls : List SetUavCall) (uav : Fin 4) : Option SetUavCall :=
  calls.reverse.find? fun call => call.index = uav.val

theorem lastCall_append (calls : List SetUavCall) (call : SetUavCall) (uav : Fin 4) :
    lastCall (calls ++ [call]) uav =
      if call.index = uav.val then some call else lastCall calls uav := by
  rw [lastCall, List.reverse_append, List.reverse_singleton, List.singleton_append, List.find?_cons]
  by_cases same : call.index = uav.val
  · rw [if_pos same, decide_eq_true same]
  · rw [if_neg same, decide_eq_false same]
    rfl

/-- `GetElementSize()` can return `value`; an unassigned member can hold any. -/
def VpuUav.CanReturn (self : VpuUav) (value : Int32) : Prop :=
  match self.elementSize with
  | none => True
  | some elementSize => value = elementSize

namespace VpuContext

def setUavs (self : VpuContext) : List SetUavCall → Option VpuContext
  | [] => some self
  | call :: rest => do
    let next ← self.setUav call.index call.address call.elementSize
    next.setUavs rest

/-- What the context holds after `calls`. -/
structure Binds (context : VpuContext) (globalStore : VpuStore) (calls : List SetUavCall) :
    Prop where
  attached : context.globalStore = some globalStore
  uavs : ∀ uav call, lastCall calls uav = some call →
    context.uavs.get uav = .ofBase call.address call.elementSize
  uavResources : ∀ uav call, lastCall calls uav = some call →
    context.uavResources.get uav = ⟨globalStore.base + call.address.offset, call.elementSize⟩

/-- Both records of an index describe the binding of `call`. -/
structure Describes (context : VpuContext) (globalStore : VpuStore) (uav : Fin 4)
    (call : SetUavCall) : Prop where
  uavBase : (context.uavs.get uav).base = call.address
  uavResourceBase : (context.uavResources.get uav).base = globalStore.base + call.address.offset
  uavElementSize : ∀ value, (context.uavs.get uav).CanReturn value → value = call.elementSize
  uavResourceElementSize : (context.uavResources.get uav).elementSize = call.elementSize

theorem Binds.step {self : VpuContext} {globalStore : VpuStore} {calls : List SetUavCall}
    (binds : self.Binds globalStore calls) {call : SetUavCall} (valid : call.Valid) :
    ∃ next, self.setUav call.index call.address call.elementSize = some next ∧
      next.Binds globalStore (calls ++ [call]) := by
  refine ⟨_, setUav_eq binds.attached valid.1 valid.2 call.elementSize, ?_⟩
  constructor
  · exact binds.attached
  · intro uav last isLast
    rw [lastCall_append] at isLast
    rw [get_set]
    by_cases same : call.index = uav.val
    · rw [if_pos same] at isLast ⊢
      cases isLast
      rfl
    · rw [if_neg same] at isLast ⊢
      exact binds.uavs uav last isLast
  · intro uav last isLast
    rw [lastCall_append] at isLast
    rw [get_set]
    by_cases same : call.index = uav.val
    · rw [if_pos same] at isLast ⊢
      cases isLast
      rfl
    · rw [if_neg same] at isLast ⊢
      exact binds.uavResources uav last isLast

theorem Binds.run {self : VpuContext} {globalStore : VpuStore} {calls rest : List SetUavCall}
    (binds : self.Binds globalStore calls) (valid : ∀ call ∈ rest, call.Valid) :
    ∃ final, self.setUavs rest = some final ∧ final.Binds globalStore (calls ++ rest) := by
  induction rest generalizing self calls with
  | nil => exact ⟨self, rfl, (List.append_nil calls).symm ▸ binds⟩
  | cons call rest ih =>
    obtain ⟨callValid, restValid⟩ := List.forall_mem_cons.mp valid
    obtain ⟨next, set, afterCall⟩ := binds.step callValid
    obtain ⟨final, ran, afterRest⟩ := ih afterCall restValid
    refine ⟨final, ?_, ?_⟩
    · rw [setUavs, set]
      exact ran
    · rwa [List.append_assoc] at afterRest

/-- The element size of `m_uavs` is left open, whatever the call gave. -/
theorem Binds.not_describes {self : VpuContext} {globalStore : VpuStore}
    {calls : List SetUavCall} (binds : self.Binds globalStore calls) {uav : Fin 4}
    {call : SetUavCall} (isLast : lastCall calls uav = some call) :
    ¬ self.Describes globalStore uav call := by
  intro describes
  have anyValue := describes.uavElementSize
  rw [binds.uavs uav call isLast] at anyValue
  have increment := (anyValue (call.elementSize + 1) trivial).trans (Int32.add_zero _).symm
  exact absurd ((Int32.add_right_inj _).mp increment) (by decide)

/-- After any run of calls the records of every index that was set hold what its last
call gave, except for the element size of `m_uavs`, so the two do not agree. -/
theorem setUavs_not_describes {self : VpuContext} {globalStore : VpuStore}
    (attached : self.globalStore = some globalStore) {calls : List SetUavCall}
    (valid : ∀ call ∈ calls, call.Valid) :
    ∃ final, self.setUavs calls = some final ∧
      ∀ uav call, lastCall calls uav = some call →
        (final.uavs.get uav).base = call.address ∧
          final.uavResources.get uav =
            ⟨globalStore.base + call.address.offset, call.elementSize⟩ ∧
          ¬ final.Describes globalStore uav call := by
  have start : self.Binds globalStore [] :=
    ⟨attached, fun _ _ none => (nomatch none), fun _ _ none => (nomatch none)⟩
  obtain ⟨final, ran, binds⟩ := start.run valid
  refine ⟨final, ran, ?_⟩
  intro uav call isLast
  refine ⟨?_, binds.uavResources uav call isLast, binds.not_describes isLast⟩
  rw [binds.uavs uav call isLast]
  rfl

/-- Index 1 is rebound and index 3 set. -/
def rebindCalls : List SetUavCall :=
  [⟨1, ⟨kVpuSegmentGlobal, 32⟩, 8⟩, ⟨3, ⟨kVpuSegmentGlobal, 0⟩, 4⟩,
    ⟨1, ⟨kVpuSegmentGlobal, 64⟩, 12⟩]

theorem setUavs_not_describes_rebind :
    ∃ final, (VpuContext.new.load ⟨kVpuSegmentGlobal, 4096, 1048576⟩).setUavs rebindCalls =
        some final ∧
      ∀ uav call, lastCall rebindCalls uav = some call →
        (final.uavs.get uav).base = call.address ∧
          final.uavResources.get uav = ⟨4096 + call.address.offset, call.elementSize⟩ ∧
          ¬ final.Describes ⟨kVpuSegmentGlobal, 4096, 1048576⟩ uav call :=
  @setUavs_not_describes _ ⟨kVpuSegmentGlobal, 4096, 1048576⟩ rfl rebindCalls (by decide)

/-- A single call already leaves the two records of its index apart. -/
theorem setUavs_single_not_describes :
    ∃ final, (VpuContext.new.load ⟨kVpuSegmentGlobal, 4096, 1048576⟩).setUavs
        [⟨0, ⟨kVpuSegmentGlobal, 0⟩, 8⟩] = some final ∧
      ¬ ∀ uav call, lastCall [⟨0, ⟨kVpuSegmentGlobal, 0⟩, 8⟩] uav = some call →
        final.Describes ⟨kVpuSegmentGlobal, 4096, 1048576⟩ uav call := by
  refine ⟨_, rfl, ?_⟩
  intro agrees
  have anyValue := (agrees ⟨0, by decide⟩ ⟨0, ⟨kVpuSegmentGlobal, 0⟩, 8⟩ rfl).uavElementSize
  exact absurd (anyValue 0 trivial) (by decide)

end VpuContext

end VpuSim
