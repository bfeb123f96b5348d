import Mathlib.Data.List.Perm.Subperm
import VpuSim.Object.Coff

/-!
# The symbol table of an opened object

`LoadSymbolTable` walks the records of the file, skips auxiliary ones and enters
each name once. A name that is already there ends the walk, and that is also why
the walk ends on every table: no record can be visited twice.
-/

namespace VpuSim

/-- `std::map<std::string, uint64_t>` -/
abbrev SymbolTable := List (String × UInt64)

/-- `i += symbol.getNumberOfAuxSymbols()` and `i++`, on a `uint32_t` -/
def nextIndex (i : Nat) (symbol : CoffSymbol) : Nat :=
  (i + symbol.numberOfAuxSymbols.toNat + 1) % 2 ^ 32

def loadSymbolTableFrom (symbols : List (Option CoffSymbol)) :
    (fuel i : Nat) → SymbolTable → Option (Bool × SymbolTable)
  | 0, _, _ => none
  | fuel + 1, i, table =>
    match symbols[i]? with
    -- the loop condition: `i` is past the last record
    | none => some (true, table)
    -- `getSymbol` failed
    | some none => some (false, table)
    | some (some symbol) =>
      match symbol.name with
      | none => some (false, table)
      | some testName =>
        if (table.lookup testName).isSome then some (false, table)
        else loadSymbolTableFrom symbols fuel (nextIndex i symbol)
          ((testName, symbol.value.toUInt64) :: table)

/-- The records visited so far: distinct, and each with its name in the table. -/
structure Visited (symbols : List (Option CoffSymbol)) (table : SymbolTable)
    (seen : List Nat) : Prop where
  nodup : seen.Nodup
  entered : ∀ j ∈ seen, ∃ symbol name, symbols[j]? = some (some symbol) ∧
    symbol.name = some name ∧ (table.lookup name).isSome

theorem visited_nil (symbols : List (Option CoffSymbol)) (table : SymbolTable) :
    Visited symbols table [] :=
  ⟨List.nodup_nil, fun _ member => nomatch member⟩

theorem Visited.length_le {symbols : List (Option CoffSymbol)} {table : SymbolTable}
    {seen : List Nat} (visited : Visited symbols table seen) :
    seen.length ≤ symbols.length := by
  have subset : seen ⊆ List.range symbols.length := by
    intro j member
    obtain ⟨symbol, _, found, _⟩ := visited.entered j member
    exact List.mem_range.mpr (List.getElem?_eq_some_iff.mp found).1
  simpa using (List.subperm_of_subset visited.nodup subset).length_le

theorem lookup_cons_isSome {table : SymbolTable} {name : String}
    (present : (table.lookup name).isSome) (entry : String × UInt64) :
    (List.lookup name (entry :: table)).isSome := by
  obtain ⟨key, value⟩ := entry
  rw [List.lookup_cons]
  cases name == key with
  | false => exact present
  | true => rfl

theorem Visited.enter {symbols : List (Option CoffSymbol)} {table : SymbolTable}
    {seen : List Nat} (visited : Visited symbols table seen) {i : Nat} {symbol : CoffSymbol}
    {name : String} (found : symbols[i]? = some (some symbol)) (named : symbol.name = some name)
    (fresh : ¬ (table.lookup name).isSome) :
    Visited symbols ((name, symbol.value.toUInt64) :: table) (i :: seen) := by
  constructor
  · refine List.nodup_cons.mpr ⟨?_, visited.nodup⟩
    intro again
    obtain ⟨other, otherName, otherFound, otherNamed, present⟩ := visited.entered i again
    rw [found] at otherFound
    cases otherFound
    rw [named] at otherNamed
    cases otherNamed
    exact fresh present
  · intro j member
    rcases List.mem_cons.mp member with rfl | earlier
    · exact ⟨symbol, name, found, named, by simp⟩
    · obtain ⟨other, otherName, otherFound, otherNamed, present⟩ := visited.entered j earlier
      exact ⟨other, otherName, otherFound, otherNamed, lookup_cons_isSome present _⟩

theorem loadSymbolTableFrom_isSome (symbols : List (Option CoffSymbol)) (fuel i : Nat)
    (table : SymbolTable) {seen : List Nat} (visited : Visited symbols table seen)
    (enough : symbols.length < seen.length + fuel) :
    (loadSymbolTableFrom symbols fuel i table).isSome := by
  induction fuel generalizing i table seen with
  | zero => exact absurd visited.length_le (Nat.not_le.mpr enough)
  | succ fuel ih =>
    rw [loadSymbolTableFrom]
    cases found : symbols[i]? with
    | none => rfl
    | some record =>
      cases record with
      | none => rfl
      | some symbol =>
        cases named : symbol.name with
        | none => simp [named]
        | some name =>
          simp only [named]
          split
          · rfl
          · rename_i fresh
            refine ih _ _ (visited.enter found named fresh) ?_
            rw [List.length_cons]
            omega

/-- `LoadSymbolTable`, which adds to the table the object already holds. One pass
more than there are records is enough. -/
def loadSymbolTable (symbols : List (Option CoffSymbol)) (table : SymbolTable) :
    Bool × SymbolTable :=
  (loadSymbolTableFrom symbols (symbols.length + 1) 0 table).get
    (loadSymbolTableFrom_isSome symbols (symbols.length + 1) 0 table
      (visited_nil symbols table) (by simp))

theorem loadSymbolTable_eq_iff (symbols : List (Option CoffSymbol)) (table : SymbolTable)
    (result : Bool × SymbolTable) :
    loadSymbolTable symbols table = result ↔
      loadSymbolTableFrom symbols (symbols.length + 1) 0 table = some result := by
  rw [loadSymbolTable, Option.eq_some_iff_get_eq]
  exact ⟨fun equal => ⟨_, equal⟩, fun ⟨_, equal⟩ => equal⟩

/-- One pass of a walk that succeeds in the end: either the table is exhausted, or a
fresh name is entered and the walk goes on behind its auxiliary records. -/
theorem loadSymbolTableFrom_true_cases {symbols : List (Option CoffSymbol)} {fuel i : Nat}
    {table result : SymbolTable}
    (loaded : loadSymbolTableFrom symbols (fuel + 1) i table = some (true, result)) :
    (symbols[i]? = none ∧ result = table) ∨
      ∃ symbol name, symbols[i]? = some (some symbol) ∧ symbol.name = some name ∧
        table.lookup name = none ∧
        loadSymbolTableFrom symbols fuel (nextIndex i symbol)
          ((name, symbol.value.toUInt64) :: table) = some (true, result) := by
  rw [loadSymbolTableFrom] at loaded
  cases found : symbols[i]? with
  | none =>
    simp only [found, Option.some.injEq, Prod.mk.injEq, true_and] at loaded
    exact .inl ⟨rfl, loaded.symm⟩
  | some record =>
    cases record with
    | none => simp [found] at loaded
    | some symbol =>
      cases named : symbol.name with
      | none => simp [found, named] at loaded
      | some name =>
        simp only [found, named] at loaded
        split at loaded
        · cases loaded
        · rename_i fresh
          exact .inr ⟨symbol, name, rfl, named, Option.not_isSome_iff_eq_none.mp fresh, loaded⟩

theorem lookup_of_loadSymbolTableFrom {symbols : List (Option CoffSymbol)} {fuel i : Nat}
    {table result : SymbolTable} {name : String} {value : UInt64}
    (loaded : loadSymbolTableFrom symbols fuel i table = some (true, result))
    (present : table.lookup name = some value) : result.lookup name = some value := by
  induction fuel generalizing i table with
  | zero => cases loaded
  | succ fuel ih =>
    rcases loadSymbolTableFrom_true_cases loaded with
      ⟨_, rfl⟩ | ⟨symbol, other, _, _, fresh, rest⟩
    · exact present
    · refine ih rest ?_
      have different : (name == other) = false := by
        rw [beq_eq_false_iff_ne]
        rintro rfl
        rw [present] at fresh
        cases fresh
      rw [List.lookup_cons, different]
      exact present

/-- What a walk that succeeds enters comes from some record of the file. -/
theorem symbol_of_lookup_loadSymbolTableFrom {symbols : List (Option CoffSymbol)} {fuel i : Nat}
    {table result : SymbolTable} {name : String} {value : UInt64}
    (loaded : loadSymbolTableFrom symbols fuel i table = some (true, result))
    (present : result.lookup name = some value) :
    table.lookup name = some value ∨
      ∃ symbol, some symbol ∈ symbols ∧ symbol.name = some name ∧
        value = symbol.value.toUInt64 := by
  induction fuel generalizing i table with
  | zero => cases loaded
  | succ fuel ih =>
    rcases loadSymbolTableFrom_true_cases loaded with
      ⟨_, rfl⟩ | ⟨symbol, other, found, named, _, rest⟩
    · exact .inl present
    · rcases ih rest with entered | later
      · rw [List.lookup_cons] at entered
        cases same : name == other with
        | false =>
          rw [same] at entered
          exact .inl entered
        | true =>
          rw [same] at entered
          cases entered
          cases beq_iff_eq.mp same
          exact .inr ⟨symbol, List.mem_of_getElem? found, named, rfl⟩
      · exact .inr later

/-- A walk that succeeds enters every symbol of the file under its name. -/
theorem lookup_primary_of_loadSymbolTableFrom {symbols : List (Option CoffSymbol)}
    (bounded : symbols.length < 2 ^ 32) {fuel i : Nat} {table result : SymbolTable}
    (loaded : loadSymbolTableFrom symbols fuel i table = some (true, result))
    {symbol : CoffSymbol} (member : symbol ∈ primaryAfter 0 (symbols.drop i)) :
    ∃ name, symbol.name = some name ∧ result.lookup name = some symbol.value.toUInt64 := by
  induction fuel generalizing i table with
  | zero => cases loaded
  | succ fuel ih =>
    rcases loadSymbolTableFrom_true_cases loaded with
      ⟨past, _⟩ | ⟨head, name, found, named, _, rest⟩
    · rw [List.drop_eq_nil_of_le (List.getElem?_eq_none_iff.mp past)] at member
      cases member
    · obtain ⟨inside, at_i⟩ := List.getElem?_eq_some_iff.mp found
      rw [List.drop_eq_getElem_cons inside, at_i, primaryAfter, primaryAfter_eq_drop,
        List.drop_drop] at member
      rcases List.mem_cons.mp member with rfl | later
      · exact ⟨name, named, lookup_of_loadSymbolTableFrom rest (by simp)⟩
      · by_cases wraps : i + head.numberOfAuxSymbols.toNat + 1 < 2 ^ 32
        · refine ih rest ?_
          rw [nextIndex, Nat.mod_eq_of_lt wraps]
          rwa [Nat.add_right_comm] at later
        -- an index that wraps has left the table, so no symbol follows
        · rw [List.drop_eq_nil_of_le (by omega)] at later
          cases later

theorem symbol_of_lookup_loadSymbolTable {symbols : List (Option CoffSymbol)}
    {result : SymbolTable} (loaded : loadSymbolTable symbols [] = (true, result))
    {name : String} {value : UInt64} (present : result.lookup name = some value) :
    ∃ symbol, some symbol ∈ symbols ∧ symbol.name = some name ∧
      value = symbol.value.toUInt64 := by
  rcases symbol_of_lookup_loadSymbolTableFrom ((loadSymbolTable_eq_iff _ _ _).mp loaded) present
    with impossible | found
  · cases impossible
  · exact found

theorem lookup_primary_of_loadSymbolTable {symbols : List (Option CoffSymbol)}
    (bounded : symbols.length < 2 ^ 32) {result : SymbolTable}
    (loaded : loadSymbolTable symbols [] = (true, result))
    {symbol : CoffSymbol} (member : symbol ∈ primaryAfter 0 symbols) :
    ∃ name, symbol.name = some name ∧ result.lookup name = some symbol.value.toUInt64 :=
  lookup_primary_of_loadSymbolTableFrom bounded ((loadSymbolTable_eq_iff _ _ _).mp loaded) member

end VpuSim
