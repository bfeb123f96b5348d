import VpuSim.Object.Records
import VpuSim.Shader.Binary

/-!
# What a scan for an export finds

On a table whose positions do not wrap the index, `FindExport` comes to an end: at the first
primary record of the name, at a record that cannot be read, or behind the last one. So
`Open` comes to an end, too.
-/

namespace VpuSim

/-- The first of the positions with the name has the value, and every position in front of
it can be read. -/
def FirstNamed (symbols : List (Option CoffSymbol)) (name : String) (positions : List Nat)
    (value : UInt32) : Prop :=
  ∃ before i after, positions = before ++ i :: after ∧
    (∀ j ∈ before, ∃ entry, entryOf symbols j = some entry ∧ entry.1 ≠ name) ∧
    entryOf symbols i = some (name, value.toUInt64)

theorem not_firstNamed_nil (symbols : List (Option CoffSymbol)) (name : String) (value : UInt32) :
    ¬ FirstNamed symbols name [] value := by
  rintro ⟨before, i, after, split, _⟩
  exact List.append_ne_nil_of_right_ne_nil before (List.cons_ne_nil i after) split.symm

/-- The first position has the name, or it has another one and the rest decides. -/
theorem firstNamed_cons_iff {symbols : List (Option CoffSymbol)} {name : String} {i : Nat}
    {rest : List Nat} {value : UInt32} :
    FirstNamed symbols name (i :: rest) value ↔
      entryOf symbols i = some (name, value.toUInt64) ∨
        (∃ entry, entryOf symbols i = some entry ∧ entry.1 ≠ name) ∧
          FirstNamed symbols name rest value := by
  constructor
  · rintro ⟨before, j, after, split, others, found⟩
    cases before with
    | nil =>
      obtain ⟨rfl, rfl⟩ := List.cons.inj split
      exact .inl found
    | cons first before =>
      obtain ⟨rfl, rfl⟩ := List.cons.inj split
      obtain ⟨other, othersRest⟩ := List.forall_mem_cons.mp others
      exact .inr ⟨other, before, j, after, rfl, othersRest, found⟩
  · rintro (found | ⟨other, before, j, after, rfl, others, found⟩)
    · exact ⟨[], i, rest, rfl, fun _ impossible => (nomatch impossible), found⟩
    · exact ⟨i :: before, j, after, rfl, List.forall_mem_cons.mpr ⟨other, others⟩, found⟩

theorem not_firstNamed_of_unreadable {symbols : List (Option CoffSymbol)} {i : Nat}
    (unreadable : entryOf symbols i = none) (name : String) (rest : List Nat) (value : UInt32) :
    ¬ FirstNamed symbols name (i :: rest) value := by
  rw [firstNamed_cons_iff, unreadable]
  rintro (impossible | ⟨⟨_, impossible, _⟩, _⟩)
  · cases impossible
  · cases impossible

section Scan

variable {symbols : List (Option CoffSymbol)} {name : String} {fuel i : Nat}

/-- A scan over the rest of the table ends, and finds the first of its primary records that
has the name. -/
theorem findExportFrom_spec (few : symbols.length < 2 ^ 32 - 256)
    (enough : symbols.length - i < fuel) :
    ∃ found, findExportFrom symbols name fuel i = some found ∧ ∀ value,
      found = some value ↔
        FirstNamed symbols name (primaryIndices i 0 (symbols.drop i)) value := by
  induction fuel generalizing i with
  | zero => exact absurd enough (Nat.not_lt_zero _)
  | succ fuel ih =>
    rw [findExportFrom]
    cases record : symbols[i]? with
    | none =>
      rw [List.drop_eq_nil_of_le (List.getElem?_eq_none_iff.mp record)]
      refine ⟨none, rfl, ?_⟩
      intro value
      exact iff_of_false (Option.some_ne_none value).symm (not_firstNamed_nil symbols name value)
    | some read =>
      obtain ⟨inside, atIndex⟩ := List.getElem?_eq_some_iff.mp record
      rw [List.drop_eq_getElem_cons inside, atIndex]
      cases read with
      | none =>
        have unreadable : entryOf symbols i = none := by simp [entryOf, record]
        refine ⟨none, rfl, ?_⟩
        intro value
        exact iff_of_false (Option.some_ne_none value).symm
          (not_firstNamed_of_unreadable unreadable name _ value)
      | some symbol =>
        -- with so few records the index cannot wrap behind the last group
        have next : nextIndex i symbol = i + 1 + symbol.numberOfAuxSymbols.toNat := by
          have auxBound := symbol.numberOfAuxSymbols.toNat_lt
          rw [nextIndex]
          omega
        rw [primaryIndices, primaryIndices_eq_drop, List.drop_drop, ← next]
        cases named : symbol.name with
        | none =>
          have unreadable : entryOf symbols i = none := by simp [entryOf, record, named]
          refine ⟨none, by simp only [named], ?_⟩
          intro value
          exact iff_of_false (Option.some_ne_none value).symm
            (not_firstNamed_of_unreadable unreadable name _ value)
        | some testName =>
          have entry := entryOf_eq record named
          simp only [named, firstNamed_cons_iff, entry]
          by_cases same : testName = name
          · subst same
            refine ⟨some symbol.value, if_pos rfl, ?_⟩
            intro value
            simp [UInt32.toUInt64_inj]
          · obtain ⟨found, scanned, spec⟩ := @ih (nextIndex i symbol) (by omega)
            refine ⟨found, (if_neg same).trans scanned, ?_⟩
            intro value
            rw [spec value]
            simp [same]

end Scan

namespace VpuShaderBinary

variable {file : CoffObject} {fuel : Nat}

/-- `FindExport` finds the value of the first primary record of a name. -/
theorem findExport_spec (few : file.symbols.length < 2 ^ 32 - 256)
    (enough : file.symbols.length < fuel) (name : String) :
    ∃ found, findExport file fuel name = some found ∧ ∀ value,
      found = some value ↔ FirstNamed file.symbols name (primaryIndices 0 0 file.symbols) value :=
  findExportFrom_spec few enough

/-- How many passes the scan is given beyond that does not matter. -/
theorem findExport_fuel (few : file.symbols.length < 2 ^ 32 - 256)
    (enough : file.symbols.length < fuel) (name : String) :
    findExport file fuel name = findExport file (file.symbols.length + 1) name := by
  obtain ⟨found, scanned, spec⟩ := findExport_spec few enough name
  obtain ⟨other, otherScanned, otherSpec⟩ :=
    findExport_spec few (Nat.lt_succ_self file.symbols.length) name
  rw [scanned, otherScanned]
  congr 1
  apply Option.ext
  intro value
  rw [spec value, otherSpec value]

theorem symbolOffset_fuel (few : file.symbols.length < 2 ^ 32 - 256)
    (enough : file.symbols.length < fuel) (tlsOffset : UInt32) (symbol : CoffSymbol)
    (name : String) (type : SymbolType) :
    symbolOffset file fuel tlsOffset symbol name type =
      symbolOffset file (file.symbols.length + 1) tlsOffset symbol name type := by
  cases type with
  | unknown => simp only [symbolOffset, findExport_fuel few enough]
  | data | function | debug | file | other => rfl

theorem symbolOffset_isSome (few : file.symbols.length < 2 ^ 32 - 256)
    (tlsOffset : UInt32) (symbol : CoffSymbol) (name : String) (type : SymbolType) :
    (symbolOffset file (file.symbols.length + 1) tlsOffset symbol name type).isSome := by
  cases type with
  | unknown =>
    rw [symbolOffset]
    split
    · obtain ⟨found, scanned, _⟩ := findExport_spec few (Nat.lt_succ_self file.symbols.length)
        (String.ofList (name.toList.map fun c => if c = '.' then '_' else c))
      rw [scanned]
      rfl
    · rfl
  | data =>
    rw [symbolOffset]
    split
    · rfl
    · rfl
  | function | debug | file | other => rfl

theorem buildRelocations_fuel (few : file.symbols.length < 2 ^ 32 - 256)
    (enough : file.symbols.length < fuel) (tlsOffset : UInt32)
    (relocations : List CoffRelocation) (recorded : List VpuRelocation) :
    buildRelocations file fuel tlsOffset relocations recorded =
      buildRelocations file (file.symbols.length + 1) tlsOffset relocations recorded := by
  induction relocations generalizing recorded with
  | nil => rfl
  | cons relocation rest ih =>
    simp only [buildRelocations, symbolOffset_fuel few enough, ih]

theorem buildRelocations_isSome (few : file.symbols.length < 2 ^ 32 - 256) (tlsOffset : UInt32)
    (relocations : List CoffRelocation) (recorded : List VpuRelocation) :
    (buildRelocations file (file.symbols.length + 1) tlsOffset relocations recorded).isSome := by
  induction relocations generalizing recorded with
  | nil => rfl
  | cons relocation rest ih =>
    rw [buildRelocations]
    cases relocation.symbol.type with
    | none => rfl
    | some type =>
      cases relocation.symbol.name with
      | none => rfl
      | some name =>
        obtain ⟨found, resolved⟩ := Option.isSome_iff_exists.mp
          (symbolOffset_isSome few tlsOffset relocation.symbol name type)
        simp only [resolved]
        cases found with
        | none => rfl
        | some offset =>
          dsimp only
          split
          · exact ih _
          · rfl

/-- One pass more than there are records is enough for each of the scans of `Open`. -/
theorem openFile_fuel (few : file.symbols.length < 2 ^ 32 - 256)
    (enough : file.symbols.length < fuel) (self : VpuShaderBinary) :
    self.openFile fuel (.coff file) = self.openFile (file.symbols.length + 1) (.coff file) := by
  simp only [openFile, findExport_fuel few enough, buildRelocations_fuel few enough]

theorem openFile_isSome (few : file.symbols.length < 2 ^ 32 - 256) {self : VpuShaderBinary}
    (readsOwn : ¬ self.ReadsDeadSection (file.symbols.length + 1) (.coff file)) :
    (self.openFile (file.symbols.length + 1) (.coff file)).isSome := by
  obtain ⟨tls, tlsScanned, _⟩ := findExport_spec few (Nat.lt_succ_self _) tlsSymbol
  obtain ⟨main, mainScanned, _⟩ := findExport_spec few (Nat.lt_succ_self _) mainSymbol
  rw [openFile, findCode_eq, tlsScanned, mainScanned]
  rcases tls with _ | tlsSize
  · rfl
  rcases main with _ | mainOffset
  · rfl
  rcases found : findText file.sections none with ⟨_ | _, _ | text⟩
  · rfl
  · rfl
  · have noCode : self.code = none := by
      rw [← Option.not_isSome_iff_eq_none]
      exact fun dead => readsOwn ⟨⟨_, tlsScanned⟩, ⟨_, mainScanned⟩, found, dead⟩
    rw [noCode]
    rfl
  · obtain ⟨built, resolved⟩ := Option.isSome_iff_exists.mp (buildRelocations_isSome few
      (alignSectionSize text.size.toUInt32) text.relocations self.relocations)
    simp only [Option.some_or, Option.map_some, Option.getD_some, Option.isNone_some,
      Bool.false_eq_true, if_false]
    rw [resolved]
    rcases built with ⟨_ | _, relocations⟩
    · rfl
    · rfl

theorem firstNamed_of_findExport (few : file.symbols.length < 2 ^ 32 - 256) {name : String}
    {value : UInt32}
    (exported : findExport file (file.symbols.length + 1) name = some (some value)) :
    FirstNamed file.symbols name (primaryIndices 0 0 file.symbols) value := by
  obtain ⟨found, scanned, spec⟩ := findExport_spec few (Nat.lt_succ_self _) name
  rw [exported] at scanned
  exact (spec value).mp (Option.some.inj scanned).symm

/-- On every object whose positions do not wrap, `Open` comes to an end, also where a name is
not unique, unless it goes on with a section that is gone. The entry and the size of the
thread's memory that it accepts are then those of the first primary record of their names. -/
theorem openFile_terminates (few : file.symbols.length < 2 ^ 32 - 256) {self : VpuShaderBinary}
    (readsOwn : ¬ self.ReadsDeadSection (file.symbols.length + 1) (.coff file)) :
    ∃ opened shader,
      (∀ fuel, file.symbols.length < fuel →
        self.openFile fuel (.coff file) = some (opened, shader)) ∧
      (opened = true →
        FirstNamed file.symbols mainSymbol (primaryIndices 0 0 file.symbols) shader.mainOffset ∧
        FirstNamed file.symbols tlsSymbol (primaryIndices 0 0 file.symbols) shader.tlsSize) := by
  obtain ⟨⟨opened, shader⟩, ends⟩ := Option.isSome_iff_exists.mp (openFile_isSome few readsOwn)
  refine ⟨opened, shader, ?_, ?_⟩
  · intro fuel enough
    rw [openFile_fuel few enough, ends]
  · rintro rfl
    obtain ⟨tlsSize, mainOffset, _, _, tls, main, _, _, rfl⟩ := openFile_true ends
    exact ⟨firstNamed_of_findExport few main, firstNamed_of_findExport few tls⟩

/-- `main` twice, the second time behind an auxiliary record. -/
def duplicateFile : CoffObject where
  symbols := [some ⟨some "main", 16, 1, 1, some .function, 16, noNul_main⟩, none,
    some ⟨some "main", 0, 0, 1, some .function, 0, noNul_main⟩,
    some ⟨some "g_tls", 72, 0, 0, some .data, 72, noNul_gTls⟩]
  sections := [⟨1, some ".text", 32, some (List.replicate 32 0xC3), []⟩]

theorem openFile_terminates_duplicate :
    ∃ opened shader,
      (∀ fuel, 4 < fuel →
        (new 0 0 0 0 0).openFile fuel (.coff duplicateFile) = some (opened, shader)) ∧
      (opened = true →
        FirstNamed duplicateFile.symbols mainSymbol [0, 2, 3] shader.mainOffset ∧
        FirstNamed duplicateFile.symbols tlsSymbol [0, 2, 3] shader.tlsSize) :=
  @openFile_terminates duplicateFile (by decide) (new 0 0 0 0 0) fun dead =>
    absurd dead.2.2.2 Bool.false_ne_true

end VpuShaderBinary

end VpuSim
