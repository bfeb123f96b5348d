import VpuSim.Object.SymbolTable

/-!
# The records that the walk visits

A table is a sequence of groups: a primary record and the auxiliary records behind
it, of which the last group may lack some. `LoadSymbolTable` visits the primary
records in their order and stops at the first that it cannot enter.
-/

namespace VpuSim

/-- The positions of the primary records from record `i` on, where the first `skip`
records are auxiliary. Nothing can be located behind an unreadable record. -/
def primaryIndices : (i skip : Nat) → List (Option CoffSymbol) → List Nat
  | _, _, [] => []
  | i, skip + 1, _ :: rest => primaryIndices (i + 1) skip rest
  | i, 0, none :: _ => [i]
  | i, 0, some symbol :: rest => i :: primaryIndices (i + 1) symbol.numberOfAuxSymbols.toNat rest

theorem primaryIndices_eq_drop (i skip : Nat) (records : List (Option CoffSymbol)) :
    primaryIndices i skip records = primaryIndices (i + skip) 0 (records.drop skip) := by
  induction skip generalizing i records with
  | zero => rfl
  | succ skip ih =>
    cases records with
    | nil => rfl
    | cons record rest =>
      rw [primaryIndices, ih, Nat.add_right_comm]
      rfl

theorem length_primaryIndices_le (i skip : Nat) (records : List (Option CoffSymbol)) :
    (primaryIndices i skip records).length ≤ records.length := by
  induction records generalizing i skip with
  | nil => exact Nat.le_refl 0
  | cons record rest ih =>
    cases skip with
    | succ skip => exact Nat.le_trans (ih _ _) (Nat.le_succ _)
    | zero =>
      cases record with
      | none => exact Nat.le_add_left 1 rest.length
      | some symbol => exact Nat.succ_le_succ (ih _ _)

/-- The name and the value that can be read at a position. -/
def entryOf (symbols : List (Option CoffSymbol)) (i : Nat) : Option (String × UInt64) := do
  let record ← symbols[i]?
  let symbol ← record
  let name ← symbol.name
  return (name, symbol.value.toUInt64)

theorem entryOf_eq {symbols : List (Option CoffSymbol)} {i : Nat} {symbol : CoffSymbol}
    {name : String} (record : symbols[i]? = some (some symbol))
    (named : symbol.name = some name) :
    entryOf symbols i = some (name, symbol.value.toUInt64) := by
  simp [entryOf, record, named]

/-- The loop from record `i` on: the positions it visits, what it returns and the table
it leaves. -/
inductive Walk (symbols : List (Option CoffSymbol)) :
    Nat → SymbolTable → List Nat → Bool × SymbolTable → Prop
  | past {i table} : symbols[i]? = none → Walk symbols i table [] (true, table)
  | unreadable {i table} : symbols[i]? = some none → Walk symbols i table [i] (false, table)
  | unnamed {i table symbol} : symbols[i]? = some (some symbol) → symbol.name = none →
      Walk symbols i table [i] (false, table)
  | duplicate {i table symbol name} : symbols[i]? = some (some symbol) →
      symbol.name = some name → (table.lookup name).isSome → Walk symbols i table [i] (false, table)
  | entered {i table symbol name visited outcome} : symbols[i]? = some (some symbol) →
      symbol.name = some name → table.lookup name = none →
      Walk symbols (nextIndex i symbol) ((name, symbol.value.toUInt64) :: table) visited outcome →
      Walk symbols i table (i :: visited) outcome

theorem walk_of_loadSymbolTableFrom {symbols : List (Option CoffSymbol)} {fuel i : Nat}
    {table : SymbolTable} {outcome : Bool × SymbolTable}
    (ran : loadSymbolTableFrom symbols fuel i table = some outcome) :
    ∃ visited, Walk symbols i table visited outcome := by
  induction fuel generalizing i table with
  | zero => cases ran
  | succ fuel ih =>
    rw [loadSymbolTableFrom] at ran
    cases record : symbols[i]? with
    | none =>
      rw [record] at ran
      cases ran
      exact ⟨_, .past record⟩
    | some read =>
      cases read with
      | none =>
        rw [record] at ran
        cases ran
        exact ⟨_, .unreadable record⟩
      | some symbol =>
        cases named : symbol.name with
        | none =>
          simp only [record, named] at ran
          cases ran
          exact ⟨_, .unnamed record named⟩
        | some name =>
          simp only [record, named] at ran
          by_cases known : (table.lookup name).isSome
          · rw [if_pos known] at ran
            cases ran
            exact ⟨_, .duplicate record named known⟩
          · rw [if_neg known] at ran
            obtain ⟨visited, rest⟩ := ih ran
            exact ⟨_, .entered record named (Option.not_isSome_iff_eq_none.mp known) rest⟩

theorem loadSymbolTableFrom_of_walk {symbols : List (Option CoffSymbol)} {i : Nat}
    {table : SymbolTable} {visited : List Nat} {outcome : Bool × SymbolTable}
    (walk : Walk symbols i table visited outcome) {fuel : Nat} (enough : visited.length < fuel) :
    loadSymbolTableFrom symbols fuel i table = some outcome := by
  induction walk generalizing fuel with
  | past record =>
    obtain ⟨passes, rfl⟩ := Nat.exists_eq_succ_of_ne_zero (Nat.ne_zero_of_lt enough)
    simp [loadSymbolTableFrom, record]
  | unreadable record =>
    obtain ⟨passes, rfl⟩ := Nat.exists_eq_succ_of_ne_zero (Nat.ne_zero_of_lt enough)
    simp [loadSymbolTableFrom, record]
  | unnamed record unnamed =>
    obtain ⟨passes, rfl⟩ := Nat.exists_eq_succ_of_ne_zero (Nat.ne_zero_of_lt enough)
    simp [loadSymbolTableFrom, record, unnamed]
  | duplicate record named known =>
    obtain ⟨passes, rfl⟩ := Nat.exists_eq_succ_of_ne_zero (Nat.ne_zero_of_lt enough)
    simp [loadSymbolTableFrom, record, named, known]
  | entered record named fresh rest ih =>
    obtain ⟨passes, rfl⟩ := Nat.exists_eq_succ_of_ne_zero (Nat.ne_zero_of_lt enough)
    rw [loadSymbolTableFrom]
    simp only [record, named, fresh, Option.isSome_none, Bool.false_eq_true, if_false]
    exact ih (Nat.lt_of_succ_lt_succ enough)

/-- The walk from the first record is the one that `LoadSymbolTable` makes. -/
theorem loadSymbolTable_of_walk {symbols : List (Option CoffSymbol)} {table : SymbolTable}
    {visited : List Nat} {outcome : Bool × SymbolTable}
    (walk : Walk symbols 0 table visited outcome) : loadSymbolTable symbols table = outcome := by
  have ran := (loadSymbolTable_eq_iff symbols table _).mp rfl
  obtain ⟨others, other⟩ := walk_of_loadSymbolTableFrom ran
  have enough : visited.length < visited.length + others.length + 1 :=
    Nat.lt_succ_of_le (Nat.le_add_right _ _)
  have otherEnough : others.length < visited.length + others.length + 1 :=
    Nat.lt_succ_of_le (Nat.le_add_left _ _)
  have same := (loadSymbolTableFrom_of_walk other otherEnough).symm.trans
    (loadSymbolTableFrom_of_walk walk enough)
  exact Option.some.inj same

theorem lookup_cons_eq_none_iff {table : SymbolTable} {name key : String} {value : UInt64} :
    List.lookup key ((name, value) :: table) = none ↔ key ≠ name ∧ table.lookup key = none := by
  rw [List.lookup_cons]
  by_cases same : key = name
  · simp [same]
  · rw [beq_eq_false_iff_ne.mpr same]
    exact (and_iff_right same).symm

namespace Walk

variable {symbols : List (Option CoffSymbol)} {i : Nat} {table : SymbolTable}
  {visited : List Nat} {outcome : Bool × SymbolTable}

/-- The walk visits primary records only, in their order and without a gap, and all of
them if it returns true. -/
theorem visited_prefix (few : symbols.length < 2 ^ 32 - 256)
    (walk : Walk symbols i table visited outcome) :
    visited <+: primaryIndices i 0 (symbols.drop i) ∧
      (outcome.1 = true → visited = primaryIndices i 0 (symbols.drop i)) := by
  induction walk with
  | past outside =>
    rw [List.drop_eq_nil_of_le (List.getElem?_eq_none_iff.mp outside)]
    exact ⟨List.nil_prefix, fun _ => rfl⟩
  | unreadable record =>
    obtain ⟨inside, atIndex⟩ := List.getElem?_eq_some_iff.mp record
    rw [List.drop_eq_getElem_cons inside, atIndex]
    exact ⟨List.prefix_refl _, fun impossible => nomatch impossible⟩
  | unnamed record =>
    obtain ⟨inside, atIndex⟩ := List.getElem?_eq_some_iff.mp record
    rw [List.drop_eq_getElem_cons inside, atIndex]
    exact ⟨List.prefix_append [_] _, fun impossible => nomatch impossible⟩
  | duplicate record =>
    obtain ⟨inside, atIndex⟩ := List.getElem?_eq_some_iff.mp record
    rw [List.drop_eq_getElem_cons inside, atIndex]
    exact ⟨List.prefix_append [_] _, fun impossible => nomatch impossible⟩
  | @entered i table symbol name visited outcome record named fresh rest ih =>
    obtain ⟨inside, atIndex⟩ := List.getElem?_eq_some_iff.mp record
    -- with so few records the index cannot wrap behind the last group
    have next : nextIndex i symbol = i + 1 + symbol.numberOfAuxSymbols.toNat := by
      have auxBound := symbol.numberOfAuxSymbols.toNat_lt
      rw [nextIndex]
      omega
    rw [List.drop_eq_getElem_cons inside, atIndex, primaryIndices, primaryIndices_eq_drop,
      List.drop_drop, ← next]
    exact ⟨List.cons_prefix_cons.mpr ⟨rfl, ih.1⟩, fun accepted => by rw [← ih.2 accepted]⟩

/-- The positions can be read, under names that are distinct and not in the table. -/
structure Enters (symbols : List (Option CoffSymbol)) (table : SymbolTable)
    (visited : List Nat) : Prop where
  readable : ∀ j ∈ visited, (entryOf symbols j).isSome
  distinct : ((visited.filterMap (entryOf symbols)).map Prod.fst).Nodup
  fresh : ∀ entry ∈ visited.filterMap (entryOf symbols), table.lookup entry.1 = none

theorem enters_cons_iff {symbol : CoffSymbol} {name : String}
    (record : symbols[i]? = some (some symbol)) (named : symbol.name = some name)
    (fresh : table.lookup name = none) :
    Enters symbols table (i :: visited) ↔
      Enters symbols ((name, symbol.value.toUInt64) :: table) visited := by
  have entry := entryOf_eq record named
  constructor
  · rintro ⟨readable, distinct, unknown⟩
    rw [List.filterMap_cons_some entry] at distinct unknown
    obtain ⟨other, distinctRest⟩ := List.nodup_cons.mp distinct
    refine ⟨(List.forall_mem_cons.mp readable).2, distinctRest, ?_⟩
    intro later member
    apply lookup_cons_eq_none_iff.mpr
    refine ⟨?_, (List.forall_mem_cons.mp unknown).2 later member⟩
    intro same
    exact other (List.mem_map.mpr ⟨later, member, same⟩)
  · rintro ⟨readable, distinct, unknown⟩
    constructor
    · exact List.forall_mem_cons.mpr ⟨by rw [entry]; rfl, readable⟩
    · rw [List.filterMap_cons_some entry]
      refine List.nodup_cons.mpr ⟨?_, distinct⟩
      intro again
      obtain ⟨later, member, same⟩ := List.mem_map.mp again
      exact (lookup_cons_eq_none_iff.mp (unknown later member)).1 same
    · rw [List.filterMap_cons_some entry]
      refine List.forall_mem_cons.mpr ⟨fresh, ?_⟩
      intro later member
      exact (lookup_cons_eq_none_iff.mp (unknown later member)).2

theorem accepts_iff (walk : Walk symbols i table visited outcome) :
    outcome.1 = true ↔ Enters symbols table visited := by
  induction walk with
  | past outside =>
    exact iff_of_true rfl ⟨fun _ none => (nomatch none), List.nodup_nil, fun _ none => (nomatch none)⟩
  | unreadable record =>
    refine iff_of_false Bool.false_ne_true fun enters => ?_
    have readable := enters.readable _ (List.mem_singleton_self _)
    simp [entryOf, record] at readable
  | unnamed record unnamed =>
    refine iff_of_false Bool.false_ne_true fun enters => ?_
    have readable := enters.readable _ (List.mem_singleton_self _)
    simp [entryOf, record, unnamed] at readable
  | duplicate record named known =>
    refine iff_of_false Bool.false_ne_true fun enters => ?_
    have unknown := enters.fresh
    rw [List.filterMap_cons_some (entryOf_eq record named)] at unknown
    rw [(List.forall_mem_cons.mp unknown).1] at known
    cases known
  | entered record named fresh rest ih =>
    rw [ih]
    exact (enters_cons_iff record named fresh).symm

/-- A walk that returns true has put the entries in front of the table, the last first. -/
theorem table_eq (walk : Walk symbols i table visited outcome) (accepted : outcome.1 = true) :
    outcome.2 = (visited.filterMap (entryOf symbols)).reverse ++ table := by
  induction walk with
  | past outside => rfl
  | unreadable record => cases accepted
  | unnamed record unnamed => cases accepted
  | duplicate record named known => cases accepted
  | entered record named fresh rest ih =>
    rw [ih accepted, List.filterMap_cons_some (entryOf_eq record named), List.reverse_cons,
      List.append_assoc]
    rfl

end Walk

/-- A walk that returns true over a table returns true over a part of it, too, and adds
the same. -/
theorem Walk.split {symbols : List (Option CoffSymbol)} {i : Nat} {table stale : SymbolTable}
    {visited : List Nat} {outcome : Bool × SymbolTable}
    (walk : Walk symbols i table visited outcome) (accepted : outcome.1 = true)
    {first : SymbolTable} (split : table = first ++ stale) :
    ∃ own, outcome.2 = own ++ stale ∧ Walk symbols i first visited (true, own) := by
  induction walk generalizing first with
  | past outside => exact ⟨first, split, .past outside⟩
  | unreadable record => cases accepted
  | unnamed record unnamed => cases accepted
  | duplicate record named known => cases accepted
  | @entered i table symbol name visited outcome record named fresh rest ih =>
    have extended : (name, symbol.value.toUInt64) :: table =
        ((name, symbol.value.toUInt64) :: first) ++ stale := by
      rw [split]
      rfl
    obtain ⟨own, result, walked⟩ := ih accepted extended
    have freshFirst : first.lookup name = none := by
      rw [split, List.lookup_append, Option.or_eq_none_iff] at fresh
      exact fresh.1
    exact ⟨own, result, .entered record named freshFirst walked⟩

/-- Symbols that load over a table load into an empty one, and come before it. -/
theorem loadSymbolTable_over {symbols : List (Option CoffSymbol)} {stale : SymbolTable}
    (loaded : (loadSymbolTable symbols stale).1 = true) :
    ∃ own, loadSymbolTable symbols [] = (true, own) ∧
      loadSymbolTable symbols stale = (true, own ++ stale) := by
  have ran := (loadSymbolTable_eq_iff symbols stale _).mp rfl
  obtain ⟨visited, walk⟩ := walk_of_loadSymbolTableFrom ran
  obtain ⟨own, result, walked⟩ := @Walk.split _ _ _ stale _ _ walk loaded [] rfl
  exact ⟨own, loadSymbolTable_of_walk walked, Prod.ext loaded result⟩

/-- With distinct names a lookup finds exactly the entries. -/
theorem lookup_eq_some_iff_mem {entries : SymbolTable} (distinct : (entries.map Prod.fst).Nodup)
    {name : String} {value : UInt64} :
    entries.lookup name = some value ↔ (name, value) ∈ entries := by
  induction entries with
  | nil => simp
  | cons entry rest ih =>
    obtain ⟨key, other⟩ := entry
    obtain ⟨unlike, distinctRest⟩ := List.nodup_cons.mp distinct
    rw [List.lookup_cons, List.mem_cons]
    by_cases same : name = key
    · subst same
      have elsewhere : (name, value) ∉ rest := by
        intro member
        exact unlike (List.mem_map.mpr ⟨_, member, rfl⟩)
      simp [elsewhere, eq_comm]
    · have different : (name == key) = false := beq_eq_false_iff_ne.mpr same
      rw [different, ih distinctRest]
      simp [same]

end VpuSim
