import Mathlib.Data.List.Basic

/-!
# Runs of a step function that can fail

A run makes one call after the other and ends at the first that fails. What holds of
its calls and of its states is derived from facts about single steps and from an
invariant, which may speak of the calls that are still to come.
-/

namespace Transition

universe u v

variable {State : Type u} {Call : Type v} (step : State → Call → Option State)

/-- Every call of the run has the property in the state it is made in. -/
def Along (property : State → Call → Prop) : State → List Call → Prop
  | _, [] => True
  | state, call :: rest =>
    property state call ∧ ∀ next, step state call = some next → Along property next rest

/-- Every state of the run has the property. -/
def Always (property : State → Prop) : State → List Call → Prop
  | state, [] => property state
  | state, call :: rest =>
    property state ∧ ∀ next, step state call = some next → Always property next rest

variable {step}

theorem Always.initially {property : State → Prop} {state : State} {calls : List Call}
    (always : Always step property state calls) : property state := by
  cases calls with
  | nil => exact always
  | cons call rest => exact always.1

/-- A run in two parts has the property along the first and, where it gets that far, along
the second. -/
theorem along_append {property : State → Call → Prop} {state : State} (first second : List Call) :
    Along step property state (first ++ second) ↔ Along step property state first ∧
      ∀ last, first.foldlM step state = some last → Along step property last second := by
  induction first generalizing state with
  | nil => simp [Along]
  | cons call rest ih =>
    simp only [List.cons_append, Along, ih, List.foldlM_cons, Option.bind_eq_bind,
      Option.bind_eq_some_iff, and_assoc]
    refine and_congr_right fun _ => ?_
    constructor
    · intro later
      refine ⟨fun next stepped => (later next stepped).1, ?_⟩
      rintro last ⟨next, stepped, ran⟩
      exact (later next stepped).2 last ran
    · rintro ⟨along, later⟩ next stepped
      exact ⟨along next stepped, fun last ran => later last ⟨next, stepped, ran⟩⟩

/-- Properties that agree under an invariant agree along every run, if the invariant is
kept by the steps that have them. -/
theorem along_congr {first second : State → Call → Prop} {invariant : State → Prop}
    (same : ∀ state call, invariant state → (first state call ↔ second state call))
    (kept : ∀ state call next, invariant state → first state call →
      step state call = some next → invariant next)
    {state : State} (start : invariant state) (calls : List Call) :
    Along step first state calls ↔ Along step second state calls := by
  induction calls generalizing state with
  | nil => exact Iff.rfl
  | cons call rest ih =>
    rw [Along, Along, same state call start]
    refine and_congr_right fun holds => ?_
    have before := (same state call start).mpr holds
    exact forall_congr' fun next => imp_congr_right fun stepped =>
      ih (kept state call next start before stepped)

/-- A property that a step keeps under a condition holds of every state of a run exactly
if every step of the run that succeeds meets the condition. -/
theorem always_iff_along {property : State → Prop} {keeps : State → Call → Prop}
    {invariant : State → List Call → Prop}
    (same : ∀ state call rest next, invariant state (call :: rest) → property state →
      step state call = some next → (property next ↔ keeps state call))
    (kept : ∀ state call rest next, invariant state (call :: rest) →
      step state call = some next → invariant next rest)
    {state : State} {calls : List Call} (start : invariant state calls)
    (initially : property state) :
    Always step property state calls ↔
      Along step (fun state call => (step state call).isSome → keeps state call) state calls := by
  induction calls generalizing state with
  | nil => exact iff_of_true initially trivial
  | cons call rest ih =>
    constructor
    · rintro ⟨_, later⟩
      constructor
      · intro succeeded
        obtain ⟨next, stepped⟩ := Option.isSome_iff_exists.mp succeeded
        exact (same state call rest next start initially stepped).mp (later next stepped).initially
      · intro next stepped
        have after := kept state call rest next start stepped
        exact (ih after (later next stepped).initially).mp (later next stepped)
    · rintro ⟨condition, later⟩
      refine ⟨initially, ?_⟩
      intro next stepped
      have after := kept state call rest next start stepped
      have holds := (same state call rest next start initially stepped).mpr
        (condition (Option.isSome_iff_exists.mpr ⟨next, stepped⟩))
      exact (ih after holds).mpr (later next stepped)

/-- Where the call alone decides whether a step fails and whether the property holds,
the calls in front of the first failure decide about the run. -/
theorem along_iff_takeWhile {property : State → Call → Prop} {passes : Call → Bool}
    {condition : Call → Prop} {invariant : State → Prop}
    (same : ∀ state call, invariant state →
      (property state call ↔ (passes call = true → condition call)))
    (succeeds : ∀ state call, invariant state → (step state call).isSome = passes call)
    (kept : ∀ state call next, invariant state → step state call = some next → invariant next)
    {state : State} (start : invariant state) (calls : List Call) :
    Along step property state calls ↔ ∀ call ∈ calls.takeWhile passes, condition call := by
  induction calls generalizing state with
  | nil => exact iff_of_true trivial fun _ member => nomatch member
  | cons call rest ih =>
    rw [Along, same state call start, List.takeWhile_cons]
    have outcome := succeeds state call start
    cases passed : passes call with
    | false =>
      rw [passed] at outcome
      have failed := Option.not_isSome_iff_eq_none.mp (Bool.eq_false_iff.mp outcome)
      refine iff_of_true ⟨fun impossible => (nomatch impossible), ?_⟩ fun _ member => nomatch member
      intro next stepped
      rw [failed] at stepped
      cases stepped
    | true =>
      rw [passed] at outcome
      obtain ⟨next, stepped⟩ := Option.isSome_iff_exists.mp outcome
      rw [if_pos rfl, List.forall_mem_cons, ← ih (kept state call next start stepped)]
      simp [stepped]

end Transition
