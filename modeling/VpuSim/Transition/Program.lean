import Mathlib.Data.List.Nodup
import Mathlib.Data.Set.Defs

/-!
# Programs that make calls

A program is the tree of the calls it makes, branching on their answers, and a handler
says how the calls are answered. A handler that simulates another one runs every program
alike. Programs that keep to cells of their own may be run one after the other in any
order, and each leaves in its cells what it leaves there when it is run alone.
-/

namespace Transition

universe u v

inductive Program (Op : Type u) (Answer : Op → Type v) (Result : Type v) where
  | done (result : Result)
  | call (op : Op) (next : Answer op → Program Op Answer Result)

/-- The answer to a call and the state after it, `none` where it is not allowed. -/
def Handler (Op : Type u) (Answer : Op → Type v) (State : Type v) :=
  (op : Op) → State → Option (Answer op × State)

variable {Op Lower : Type u} {Answer : Op → Type v} {LowerAnswer : Lower → Type v}
  {Result Final State Concrete Abstract : Type v}

namespace Program

/-- `none` where the program makes a call that is not allowed. -/
def run (handler : Handler Op Answer State) :
    Program Op Answer Result → State → Option (Result × State)
  | done result, state => some (result, state)
  | call op next, state =>
    (handler op state).bind fun outcome => (next outcome.1).run handler outcome.2

theorem run_call {handler : Handler Op Answer State} {op : Op}
    {next : Answer op → Program Op Answer Result} {state after : State} {answer : Answer op}
    (answered : handler op state = some (answer, after)) :
    (call op next).run handler state = (next answer).run handler after := by
  rw [run, answered, Option.bind_some]

def bind (first : Program Op Answer Result) (rest : Result → Program Op Answer Final) :
    Program Op Answer Final :=
  match first with
  | done result => rest result
  | call op next => call op fun answer => (next answer).bind rest

/-- The program with every call replaced by its body. -/
def translate (body : (op : Op) → Program Lower LowerAnswer (Answer op)) :
    Program Op Answer Result → Program Lower LowerAnswer Result
  | done result => done result
  | call op next => (body op).bind fun answer => (next answer).translate body

theorem run_bind (handler : Handler Op Answer State) (first : Program Op Answer Result)
    (rest : Result → Program Op Answer Final) (state : State) :
    (first.bind rest).run handler state =
      (first.run handler state).bind fun outcome => (rest outcome.1).run handler outcome.2 := by
  induction first generalizing state with
  | done result => rfl
  | call op next ih =>
    simp only [bind, run, Option.bind_assoc]
    congr 1
    funext outcome
    exact ih outcome.1 outcome.2

/-- A translated program runs as the program does on the bodies of its calls. -/
theorem run_translate (body : (op : Op) → Program Lower LowerAnswer (Answer op))
    (handler : Handler Lower LowerAnswer State) (program : Program Op Answer Result)
    (state : State) :
    (program.translate body).run handler state =
      program.run (fun op state => (body op).run handler state) state := by
  induction program generalizing state with
  | done result => rfl
  | call op next ih =>
    simp only [translate, run, run_bind]
    congr 1
    funext outcome
    exact ih outcome.1 outcome.2

end Program

/-- Where the abstract handler allows a call, the concrete one answers it alike. -/
def Handler.Simulates (concrete : Handler Op Answer Concrete)
    (abstract : Handler Op Answer Abstract) (represents : Concrete → Abstract → Prop) : Prop :=
  ∀ op state view answer after, represents state view → abstract op view = some (answer, after) →
    ∃ next, concrete op state = some (answer, next) ∧ represents next after

theorem Handler.Simulates.run {concrete : Handler Op Answer Concrete}
    {abstract : Handler Op Answer Abstract} {represents : Concrete → Abstract → Prop}
    (simulates : concrete.Simulates abstract represents) (program : Program Op Answer Result)
    {state : Concrete} {view after : Abstract} {result : Result}
    (start : represents state view) (ran : program.run abstract view = some (result, after)) :
    ∃ final, program.run concrete state = some (result, final) ∧ represents final after := by
  induction program generalizing state view with
  | done result =>
    cases ran
    exact ⟨state, rfl, start⟩
  | call op next ih =>
    obtain ⟨⟨answer, middle⟩, answered, continued⟩ := Option.bind_eq_some_iff.mp ran
    obtain ⟨stepped, same, represented⟩ := simulates op state view answer middle start answered
    obtain ⟨final, finished, shown⟩ := ih answer represented continued
    refine ⟨final, ?_, shown⟩
    rw [Program.run, same]
    exact finished

section Cells

variable {Cell Value Thread : Type v}

/-- What a call needs to see and what it may change. -/
structure Handler.Local (handler : Handler Op Answer (Cell → Value))
    (reads writes : Op → Set Cell) : Prop where
  answered : ∀ op first second answer after, handler op first = some (answer, after) →
    (∀ cell ∈ reads op, first cell = second cell) →
    ∃ other, handler op second = some (answer, other) ∧
      ∀ cell ∈ writes op, after cell = other cell
  kept : ∀ op state answer after, handler op state = some (answer, after) →
    ∀ cell ∉ writes op, after cell = state cell

namespace Program

/-- From this state on the program reads only cells that it `sees` and writes only
cells that it `owns`. -/
def Confined (handler : Handler Op Answer (Cell → Value)) (reads writes : Op → Set Cell)
    (sees owns : Set Cell) : Program Op Answer Result → (Cell → Value) → Prop
  | done _, _ => True
  | call op next, state => (∀ cell ∈ reads op, cell ∈ sees) ∧ (∀ cell ∈ writes op, cell ∈ owns) ∧
      ∀ answer after, handler op state = some (answer, after) →
        (next answer).Confined handler reads writes sees owns after

variable {handler : Handler Op Answer (Cell → Value)} {reads writes : Op → Set Cell}
  {sees owns : Set Cell} {program : Program Op Answer Result}

/-- On states that agree on what the program sees it runs alike. -/
theorem Confined.run_congr (isLocal : handler.Local reads writes)
    {first second after : Cell → Value} {result : Result}
    (confined : program.Confined handler reads writes sees owns first)
    (agree : ∀ cell ∈ sees, first cell = second cell)
    (ran : program.run handler first = some (result, after)) :
    ∃ other, program.run handler second = some (result, other) ∧
      (∀ cell ∈ sees, after cell = other cell) ∧ ∀ cell ∉ owns, other cell = second cell := by
  induction program generalizing first second with
  | done result =>
    cases ran
    exact ⟨second, rfl, agree, fun _ _ => rfl⟩
  | call op next ih =>
    obtain ⟨⟨answer, middle⟩, answered, continued⟩ := Option.bind_eq_some_iff.mp ran
    obtain ⟨read, written, later⟩ := confined
    obtain ⟨secondMiddle, secondAnswered, sameWritten⟩ := isLocal.answered op first second answer
      middle answered fun cell member => agree cell (read cell member)
    have agreeAfter : ∀ cell ∈ sees, middle cell = secondMiddle cell := by
      intro cell member
      by_cases changed : cell ∈ writes op
      · exact sameWritten cell changed
      · rw [isLocal.kept op first answer middle answered cell changed,
          isLocal.kept op second answer secondMiddle secondAnswered cell changed]
        exact agree cell member
    obtain ⟨other, finished, same, kept⟩ := ih answer (later answer middle answered) agreeAfter
      continued
    refine ⟨other, ?_, same, ?_⟩
    · rw [run, secondAnswered]
      exact finished
    · intro cell foreign
      rw [kept cell foreign]
      exact isLocal.kept op second answer secondMiddle secondAnswered cell fun member =>
        foreign (written cell member)

/-- The program keeps to its cells and ends with `result` in `after`. -/
structure RunsWithin (handler : Handler Op Answer (Cell → Value)) (reads writes : Op → Set Cell)
    (sees owns : Set Cell) (program : Program Op Answer Result) (state : Cell → Value)
    (result : Result) (after : Cell → Value) : Prop where
  confined : program.Confined handler reads writes sees owns state
  ran : program.run handler state = some (result, after)

theorem RunsWithin.done (state : Cell → Value) (result : Result) :
    RunsWithin handler reads writes sees owns (.done result) state result state :=
  ⟨trivial, rfl⟩

/-- A call that keeps to the cells, followed by a program that does. -/
theorem RunsWithin.call {op : Op} {next : Answer op → Program Op Answer Result}
    {state middle after : Cell → Value} {answer : Answer op} {result : Result}
    (answered : handler op state = some (answer, middle))
    (read : ∀ cell ∈ reads op, cell ∈ sees) (written : ∀ cell ∈ writes op, cell ∈ owns)
    (rest : RunsWithin handler reads writes sees owns (next answer) middle result after) :
    RunsWithin handler reads writes sees owns (.call op next) state result after := by
  constructor
  · refine ⟨read, written, ?_⟩
    intro other reached same
    rw [answered] at same
    cases same
    exact rest.confined
  · rw [run, answered]
    exact rest.ran

end Program

/-- One program for each thread, run to its end before the next one starts. -/
def runThreads (handler : Thread → Handler Op Answer State)
    (program : Thread → Program Op Answer Result) : List Thread → State → Option State
  | [], state => some state
  | thread :: rest, state =>
    ((program thread).run (handler thread) state).bind fun outcome =>
      runThreads handler program rest outcome.2

/-- Every thread, run alone from `state`, keeps to its cells and ends in `outcome`, and
no thread writes what another one sees. -/
structure RaceFree (handler : Thread → Handler Op Answer (Cell → Value))
    (reads writes : Op → Set Cell) (program : Thread → Program Op Answer Result)
    (sees owns : Thread → Set Cell) (threads : List Thread) (state : Cell → Value)
    (outcome : Thread → Cell → Value) : Prop where
  isLocal : ∀ thread ∈ threads, (handler thread).Local reads writes
  own : ∀ thread ∈ threads, ∀ cell ∈ owns thread, cell ∈ sees thread
  alone : ∀ thread ∈ threads, ∃ result, (program thread).RunsWithin (handler thread) reads writes
    (sees thread) (owns thread) state result (outcome thread)
  apart : threads.Pairwise fun first second =>
    (∀ cell ∈ owns first, cell ∉ sees second) ∧ ∀ cell ∈ owns second, cell ∉ sees first

namespace RaceFree

variable {handler : Thread → Handler Op Answer (Cell → Value)} {reads writes : Op → Set Cell}
  {program : Thread → Program Op Answer Result} {sees owns : Thread → Set Cell}
  {threads : List Thread} {state : Cell → Value} {outcome : Thread → Cell → Value}

/-- The threads may start anywhere that they cannot tell from `state`. -/
theorem run_of_agree
    (free : RaceFree handler reads writes program sees owns threads state outcome)
    {current : Cell → Value}
    (agree : ∀ thread ∈ threads, ∀ cell ∈ sees thread, state cell = current cell) :
    ∃ final, runThreads handler program threads current = some final ∧
      (∀ thread ∈ threads, ∀ cell ∈ owns thread, final cell = outcome thread cell) ∧
      ∀ cell, (∀ thread ∈ threads, cell ∉ owns thread) → final cell = current cell := by
  induction threads generalizing current with
  | nil => exact ⟨current, rfl, fun _ member => (nomatch member), fun _ _ => rfl⟩
  | cons thread rest ih =>
    have member := List.mem_cons_self (a := thread) (l := rest)
    obtain ⟨apartFirst, apartRest⟩ := List.pairwise_cons.mp free.apart
    obtain ⟨result, alone⟩ := free.alone thread member
    obtain ⟨next, ran, same, kept⟩ := alone.confined.run_congr (free.isLocal thread member)
      (agree thread member) alone.ran
    have freeRest : RaceFree handler reads writes program sees owns rest state outcome :=
      ⟨fun other later => free.isLocal other (List.mem_cons_of_mem _ later),
        fun other later => free.own other (List.mem_cons_of_mem _ later),
        fun other later => free.alone other (List.mem_cons_of_mem _ later), apartRest⟩
    have agreeRest : ∀ other ∈ rest, ∀ cell ∈ sees other, state cell = next cell := by
      intro other later cell seen
      have foreign : cell ∉ owns thread := fun owned => (apartFirst other later).1 cell owned seen
      rw [kept cell foreign]
      exact agree other (List.mem_cons_of_mem _ later) cell seen
    obtain ⟨final, finished, owned, untouched⟩ := ih freeRest agreeRest
    refine ⟨final, ?_, ?_, ?_⟩
    · rw [runThreads, ran]
      exact finished
    · intro other isThread cell isOwned
      rcases List.mem_cons.mp isThread with rfl | later
      · have own := free.own other member cell isOwned
        rw [untouched cell fun another later owned =>
          (apartFirst another later).2 cell owned own, same cell own]
      · exact owned other later cell isOwned
    · intro cell foreign
      rw [untouched cell fun other later => foreign other (List.mem_cons_of_mem _ later)]
      exact kept cell (foreign thread member)

theorem perm (free : RaceFree handler reads writes program sees owns threads state outcome)
    {order : List Thread} (permuted : order.Perm threads) :
    RaceFree handler reads writes program sees owns order state outcome := by
  constructor
  · exact fun thread member => free.isLocal thread (permuted.mem_iff.mp member)
  · exact fun thread member => free.own thread (permuted.mem_iff.mp member)
  · exact fun thread member => free.alone thread (permuted.mem_iff.mp member)
  · exact permuted.symm.pairwise free.apart fun apart => apart.symm

/-- In whichever order the threads run, their cells end up alike. -/
theorem run_perm (free : RaceFree handler reads writes program sees owns threads state outcome)
    {order : List Thread} (permuted : order.Perm threads) :
    ∃ final, runThreads handler program threads state = some final ∧
      runThreads handler program order state = some final ∧
      (∀ thread ∈ threads, ∀ cell ∈ owns thread, final cell = outcome thread cell) ∧
      ∀ cell, (∀ thread ∈ threads, cell ∉ owns thread) → final cell = state cell := by
  obtain ⟨final, ran, owned, kept⟩ := free.run_of_agree fun _ _ _ _ => rfl
  obtain ⟨other, otherRan, otherOwned, otherKept⟩ :=
    (free.perm permuted).run_of_agree fun _ _ _ _ => rfl
  have same : other = final := by
    funext cell
    by_cases isOwned : ∃ thread ∈ threads, cell ∈ owns thread
    · obtain ⟨thread, member, inThread⟩ := isOwned
      rw [owned thread member cell inThread,
        otherOwned thread (permuted.mem_iff.mpr member) cell inThread]
    · have foreign : ∀ thread ∈ threads, cell ∉ owns thread := fun thread member inThread =>
        isOwned ⟨thread, member, inThread⟩
      rw [kept cell foreign, otherKept cell fun thread member =>
        foreign thread (permuted.mem_iff.mp member)]
  exact ⟨final, ran, same ▸ otherRan, owned, kept⟩

end RaceFree

end Cells

end Transition
