import VpuSim.Object.Records
import VpuSim.Shader.Binary

/-!
# The scan for an export and the symbol map

`FindExport` takes the first record of a name, `LoadSymbolTable` refuses a second
one. On a table that loads, the two find the same symbol under every name.
-/

namespace VpuSim

namespace Walk

/-- On a walk that returns true a scan for a name that was not in the table ends with
the symbol that the map holds afterwards. -/
theorem findExportFrom_eq {symbols : List (Option CoffSymbol)} {i : Nat} {table : SymbolTable}
    {visited : List Nat} {outcome : Bool × SymbolTable}
    (walk : Walk symbols i table visited outcome) (accepted : outcome.1 = true) {name : String}
    (unknown : table.lookup name = none) {fuel : Nat} (enough : visited.length < fuel) :
    ∃ found, findExportFrom symbols name fuel i = some found ∧
      found.map UInt32.toUInt64 = outcome.2.lookup name := by
  induction walk generalizing fuel with
  | past outside =>
    obtain ⟨passes, rfl⟩ := Nat.exists_eq_succ_of_ne_zero (Nat.ne_zero_of_lt enough)
    exact ⟨none, by simp [findExportFrom, outside], unknown.symm⟩
  | unreadable record => cases accepted
  | unnamed record unnamed => cases accepted
  | duplicate record named known => cases accepted
  | @entered i table symbol testName visited outcome record named fresh rest ih =>
    obtain ⟨passes, rfl⟩ := Nat.exists_eq_succ_of_ne_zero (Nat.ne_zero_of_lt enough)
    rw [findExportFrom]
    simp only [record, named]
    by_cases same : testName = name
    · have continued := loadSymbolTableFrom_of_walk rest (Nat.lt_succ_self _)
      rw [show outcome = (true, outcome.2) from Prod.ext accepted rfl] at continued
      have kept := lookup_of_loadSymbolTableFrom continued (List.lookup_cons_self ..)
      exact ⟨some symbol.value, if_pos same, by rw [← same, kept]; rfl⟩
    · rw [if_neg same]
      apply ih accepted
      · exact lookup_cons_eq_none_iff.mpr ⟨Ne.symm same, unknown⟩
      · exact Nat.lt_of_succ_lt_succ enough

end Walk

/-- What the walk of a file's symbol table from an empty map is to do. -/
structure LoadsPrimary (file : CoffObject) (visited : List Nat) (outcome : Bool × SymbolTable) :
    Prop where
  walk : Walk file.symbols 0 [] visited outcome
  /-- It visits primary records only, in their order and without a gap. -/
  inOrder : visited <+: primaryIndices 0 0 file.symbols
  accepts_iff : outcome.1 = true ↔ (∀ i ∈ visited, (entryOf file.symbols i).isSome) ∧
    ((visited.filterMap (entryOf file.symbols)).map Prod.fst).Nodup
  complete : outcome.1 = true → visited = primaryIndices 0 0 file.symbols
  lookup_iff : outcome.1 = true → ∀ name value, outcome.2.lookup name = some value ↔
    (name, value) ∈ visited.filterMap (entryOf file.symbols)
  /-- A scan for an export ends with what the map holds. -/
  scans : outcome.1 = true → ∀ obj : VpuObject, obj.symbolTable = outcome.2 →
    ∀ name fuel, file.symbols.length < fuel →
      ∃ found, VpuShaderBinary.findExport file fuel name = some found ∧
        found.map UInt32.toUInt64 = obj.getSymbolValue name

/-- The walk visits every primary record or stops at the first that cannot be entered,
and after a walk to the end scan and map agree. -/
theorem loadSymbolTable_loadsPrimary (file : CoffObject)
    (few : file.symbols.length < 2 ^ 32 - 256) :
    ∃ visited, LoadsPrimary file visited (loadSymbolTable file.symbols []) := by
  have ran := (loadSymbolTable_eq_iff file.symbols [] _).mp rfl
  obtain ⟨visited, walk⟩ := walk_of_loadSymbolTableFrom ran
  obtain ⟨inOrder, complete⟩ := walk.visited_prefix few
  rw [List.drop_zero] at inOrder complete
  refine ⟨visited, ?_⟩
  constructor
  · exact walk
  · exact inOrder
  · rw [walk.accepts_iff]
    exact ⟨fun enters => ⟨enters.readable, enters.distinct⟩,
      fun ⟨readable, distinct⟩ => ⟨readable, distinct, fun _ _ => rfl⟩⟩
  · exact complete
  · intro accepted name value
    have distinct := List.nodup_reverse.mpr (walk.accepts_iff.mp accepted).distinct
    rw [← List.map_reverse] at distinct
    rw [walk.table_eq accepted, List.append_nil, lookup_eq_some_iff_mem distinct,
      List.mem_reverse]
  · intro accepted obj holds name fuel enough
    have short := inOrder.length_le.trans (length_primaryIndices_le 0 0 file.symbols)
    rw [VpuObject.getSymbolValue, holds]
    exact walk.findExportFrom_eq accepted rfl (Nat.lt_of_le_of_lt short enough)

/-- Two groups, of which the second lacks two of its three auxiliary records. -/
def groupedFile : CoffObject where
  symbols := [some ⟨some "main", 16, 1, 1, some .function, 16, noNul_main⟩, none,
    some ⟨some "g_tls", 72, 3, 0, some .data, 72, noNul_gTls⟩,
    some ⟨some "main", 0, 0, 0, none, 0, noNul_main⟩]
  sections := []

theorem loadSymbolTable_loadsPrimary_grouped :
    ∃ visited, LoadsPrimary groupedFile visited (loadSymbolTable groupedFile.symbols []) :=
  loadSymbolTable_loadsPrimary groupedFile (by decide)

example : primaryIndices 0 0 groupedFile.symbols = [0, 2] := rfl

end VpuSim
