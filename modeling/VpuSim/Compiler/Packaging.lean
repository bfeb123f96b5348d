import VpuSim.Image.Load
import VpuSim.Object.Open

/-!
# Packaging an opened object

The part of `vpu_compiler` between the symbol lookups and `obj.Close()`: it sizes
a blob from the header, then writes the header, one record for each relocation
and the code, through pointers that nothing bounds.
-/

namespace VpuSim

open ByteMemory

def tlsSymbol : String := "g_tls"

/-- The reference offset recorded for a relocation, if its symbol is known. The name has no
NUL, so the lookup by `c_str()` is one by the whole of it. -/
def resolveReference (obj : VpuObject) (header : VpuImageHeader) (symbolName : String) :
    Option UInt64 :=
  if symbolName = tlsSymbol then some header.getTlsOffset else obj.getSymbolValue symbolName

/-- The relocation loop: whether every symbol was found, the final
`relocationCount` and the blob. -/
def packRelocations (obj : VpuObject) (header : VpuImageHeader) :
    List VpuObjRelocation → Nat → Memory → Bool × Nat × Memory
  | [], relocationCount, blob => (true, relocationCount, blob)
  | objr :: rest, relocationCount, blob =>
    let r := relocationOffset relocationCount
    let blob := blob.store64 (r + 8) objr.fixupOffset
    let blob := blob.store32 r objr.type
    match resolveReference obj header objr.symbolName with
    | none => (false, relocationCount + 1, blob)
    | some referenceOffset => packRelocations obj header rest (relocationCount + 1)
        (blob.store64 (r + 16) referenceOffset)

structure Packaging where
  header : VpuImageHeader
  success : Bool
  /-- `assert(relocationCount == header.m_relocationCount)` failed -/
  aborted : Bool
  blob : Memory

/-- The header as filled from the object; the count is cut to sixteen bits. -/
def packagedHeader (obj : VpuObject) (entryOffset tlsSize : UInt64) : VpuImageHeader where
  codeSize := obj.getCodeSize
  entryOffset := entryOffset
  tlsSize := tlsSize
  relocationCount := UInt16.ofNat obj.relocations.length

/-- What nothing in the program determines: the bytes that a blob is allocated with, and
the padding of the header that is assigned to it. -/
structure BlobAllocation where
  contents : Nat → UInt8
  padding : Nat → UInt8

/-- One value everywhere. -/
def BlobAllocation.filled (value : UInt8) : BlobAllocation := ⟨fun _ => value, fun _ => value⟩

/-- The blob from its allocation, which may hold anything, to the last store. -/
def fillBlob (obj : VpuObject) (header : VpuImageHeader) (allocation : BlobAllocation) :
    Packaging :=
  let image := VpuImageHeader.write (.holding allocation.contents) 0 header allocation.padding
  match packRelocations obj header obj.relocations 0 image with
  | (false, _, blob) => { header, success := false, aborted := false, blob }
  | (true, relocationCount, blob) =>
    if relocationCount = header.relocationCount.toNat then
      let code := codeOffset header.relocationCount
      let (_, blob) := obj.getCode blob code header.codeSize
      { header, success := true, aborted := false, blob }
    else { header, success := true, aborted := true, blob }

/-- Nothing is packaged unless `main` and `g_tls` are found. -/
def packageImage (obj : VpuObject) (allocation : BlobAllocation) : Option Packaging :=
  match obj.getSymbolValue "main" with
  | none => none
  | some entryOffset =>
    match obj.getSymbolValue tlsSymbol with
    | none => none
    | some tlsSize => some (fillBlob obj (packagedHeader obj entryOffset tlsSize) allocation)

/-- The record that the loop leaves for a relocation whose symbol it finds. -/
def packagedRelocation (obj : VpuObject) (header : VpuImageHeader) (objr : VpuObjRelocation) :
    VpuRelocation where
  type := objr.type
  fixupOffset := objr.fixupOffset
  referenceOffset := (resolveReference obj header objr.symbolName).getD 0

section Loop

variable {obj : VpuObject} {header : VpuImageHeader}

theorem packRelocations_cons_of_some {objr : VpuObjRelocation} {referenceOffset : UInt64}
    (resolved : resolveReference obj header objr.symbolName = some referenceOffset)
    (rest : List VpuObjRelocation) (count : Nat) (blob : Memory) :
    packRelocations obj header (objr :: rest) count blob =
      packRelocations obj header rest (count + 1)
        ((packagedRelocation obj header objr).write blob (relocationOffset count)) := by
  simp only [packRelocations, resolved, packagedRelocation, VpuRelocation.write,
    Option.getD_some]

theorem packRelocations_cons_of_none {objr : VpuObjRelocation}
    (unresolved : resolveReference obj header objr.symbolName = none)
    (rest : List VpuObjRelocation) (count : Nat) (blob : Memory) :
    packRelocations obj header (objr :: rest) count blob =
      (false, count + 1, (blob.store64 (relocationOffset count + 8) objr.fixupOffset).store32
        (relocationOffset count) objr.type) := by
  simp only [packRelocations, unresolved]

theorem packRelocations_success_iff (relocations : List VpuObjRelocation) (count : Nat)
    (blob : Memory) :
    (packRelocations obj header relocations count blob).1 = true ↔
      ∀ objr ∈ relocations, (resolveReference obj header objr.symbolName).isSome := by
  induction relocations generalizing count blob with
  | nil => simp [packRelocations]
  | cons objr rest ih =>
    cases resolved : resolveReference obj header objr.symbolName with
    | none => simp [packRelocations_cons_of_none resolved, resolved]
    | some referenceOffset =>
      simp [packRelocations_cons_of_some resolved, ih, resolved]

theorem packRelocations_count {relocations : List VpuObjRelocation} {count : Nat}
    {blob : Memory} (success : (packRelocations obj header relocations count blob).1 = true) :
    (packRelocations obj header relocations count blob).2.1 = count + relocations.length := by
  induction relocations generalizing count blob with
  | nil => rfl
  | cons objr rest ih =>
    cases resolved : resolveReference obj header objr.symbolName with
    | none =>
      rw [packRelocations_cons_of_none resolved] at success
      cases success
    | some referenceOffset =>
      rw [packRelocations_cons_of_some resolved] at success ⊢
      rw [ih success, List.length_cons]
      omega

/-- The loop leaves everything in front of its first record alone. -/
theorem byte_packRelocations_before (relocations : List VpuObjRelocation) (count : Nat)
    (blob : Memory) {address : Nat} (before : address < relocationOffset count) :
    (packRelocations obj header relocations count blob).2.2.byte address = blob.byte address := by
  induction relocations generalizing count blob with
  | nil => rfl
  | cons objr rest ih =>
    cases resolved : resolveReference obj header objr.symbolName with
    | none =>
      rw [packRelocations_cons_of_none resolved, Memory.byte_store32_outside _ _ _ (.inl before),
        Memory.byte_store64_outside _ _ _ (.inl (by omega))]
    | some referenceOffset =>
      have later := relocationOffset_succ count
      rw [packRelocations_cons_of_some resolved, ih _ _ (by omega),
        VpuRelocation.byte_write_outside _ _ _ (.inl before)]

/-- After a loop that finds every symbol, record `count + k` reads back as the one
made for relocation `k`. -/
theorem read_packRelocations {relocations : List VpuObjRelocation} {count : Nat}
    {blob : Memory} (success : (packRelocations obj header relocations count blob).1 = true)
    (k : Nat) (bound : k < relocations.length) :
    VpuRelocation.read (packRelocations obj header relocations count blob).2.2.byte
        (relocationOffset (count + k)) =
      packagedRelocation obj header relocations[k] := by
  induction relocations generalizing count blob k with
  | nil => cases bound
  | cons objr rest ih =>
    cases resolved : resolveReference obj header objr.symbolName with
    | none =>
      rw [packRelocations_cons_of_none resolved] at success
      cases success
    | some referenceOffset =>
      rw [packRelocations_cons_of_some resolved] at success ⊢
      cases k with
      | zero =>
        simp only [Nat.add_zero, List.getElem_cons_zero]
        refine (VpuRelocation.read_congr ?_).trans (VpuRelocation.read_write blob _ _)
        intro j inRecord
        have later := relocationOffset_succ count
        exact byte_packRelocations_before rest (count + 1) _ (by omega)
      | succ k =>
        rw [List.getElem_cons_succ, show count + (k + 1) = count + 1 + k by omega]
        exact ih success k (Nat.lt_of_succ_lt_succ bound)

/-- Every store of the loop lies in the record of some relocation. -/
theorem mem_log_packRelocations {relocations : List VpuObjRelocation} {count : Nat}
    {blob : Memory} {store : Store}
    (member : store ∈ (packRelocations obj header relocations count blob).2.2.log) :
    store ∈ blob.log ∨
      ∃ k < relocations.length, store.LiesIn (relocationOffset (count + k)) 24 := by
  induction relocations generalizing count blob with
  | nil => exact .inl member
  | cons objr rest ih =>
    have inFirst : store.LiesIn (relocationOffset count) 24 →
        ∃ k < (objr :: rest).length, store.LiesIn (relocationOffset (count + k)) 24 :=
      fun lies => ⟨0, Nat.zero_lt_succ _, lies⟩
    cases resolved : resolveReference obj header objr.symbolName with
    | none =>
      simp only [packRelocations_cons_of_none resolved, Memory.log_store32, Memory.log_store64,
        List.mem_append, List.mem_singleton] at member
      rcases member with (inBlob | rfl) | rfl
      · exact .inl inBlob
      all_goals
        refine .inr (inFirst ?_)
        simp only [Store.LiesIn, Store.ofNat_offset, Store.ofNat_length]
        omega
    | some referenceOffset =>
      rw [packRelocations_cons_of_some resolved] at member
      rcases ih member with inWritten | ⟨k, bound, lies⟩
      · rcases VpuRelocation.mem_log_write inWritten with inBlob | lies
        · exact .inl inBlob
        · exact .inr (inFirst lies)
      · refine .inr ⟨k + 1, Nat.succ_lt_succ bound, ?_⟩
        rwa [Nat.add_right_comm, Nat.add_assoc] at lies

end Loop

end VpuSim
