import VpuSim.Compiler.Packaging

/-!
# What the blob holds

The header, the table and the code of a packaged object read back from the blob,
and every store of the packager falls into one of these three parts.
-/

namespace VpuSim

open ByteMemory

section FillBlob

variable (obj : VpuObject) (header : VpuImageHeader) (allocation : BlobAllocation)

/-- The loop of `fillBlob`, run on the blob that holds the header only. -/
def packingLoop : Bool × Nat × Memory :=
  packRelocations obj header obj.relocations 0
    (VpuImageHeader.write (.holding allocation.contents) 0 header allocation.padding)

/-- The three ways in which filling the blob ends. -/
theorem fillBlob_cases :
    ((packingLoop obj header allocation).1 = false ∧
      fillBlob obj header allocation =
        ⟨header, false, false, (packingLoop obj header allocation).2.2⟩) ∨
    ((packingLoop obj header allocation).1 = true ∧
      obj.relocations.length = header.relocationCount.toNat ∧
      fillBlob obj header allocation = ⟨header, true, false,
        (obj.getCode (packingLoop obj header allocation).2.2 (codeOffset header.relocationCount)
          header.codeSize).2⟩) ∨
    ((packingLoop obj header allocation).1 = true ∧
      obj.relocations.length ≠ header.relocationCount.toNat ∧
      fillBlob obj header allocation =
        ⟨header, true, true, (packingLoop obj header allocation).2.2⟩) := by
  have count := fun success => @packRelocations_count obj header obj.relocations 0
    (VpuImageHeader.write (.holding allocation.contents) 0 header allocation.padding) success
  dsimp only [fillBlob, packingLoop]
  generalize packRelocations obj header obj.relocations 0
    (VpuImageHeader.write (.holding allocation.contents) 0 header allocation.padding) = loop
    at count ⊢
  obtain ⟨success, relocationCount, blob⟩ := loop
  cases success with
  | false => exact .inl ⟨rfl, rfl⟩
  | true =>
    have counted : relocationCount = obj.relocations.length := by simpa using count rfl
    subst counted
    dsimp only
    split
    · rename_i same
      exact .inr (.inl ⟨rfl, same, rfl⟩)
    · rename_i different
      exact .inr (.inr ⟨rfl, different, rfl⟩)

theorem fillBlob_header : (fillBlob obj header allocation).header = header := by
  rcases fillBlob_cases obj header allocation with ⟨_, equal⟩ | ⟨_, _, equal⟩ | ⟨_, _, equal⟩ <;>
    rw [equal]

theorem fillBlob_success_iff :
    (fillBlob obj header allocation).success = true ↔
      ∀ objr ∈ obj.relocations, (resolveReference obj header objr.symbolName).isSome := by
  rw [← packRelocations_success_iff obj.relocations 0
    (VpuImageHeader.write (.holding allocation.contents) 0 header allocation.padding)]
  change _ ↔ (packingLoop obj header allocation).1 = true
  rcases fillBlob_cases obj header allocation with
    ⟨failed, equal⟩ | ⟨success, _, equal⟩ | ⟨success, _, equal⟩
  · simp [equal, failed]
  · simp [equal, success]
  · simp [equal, success]

theorem fillBlob_aborted_iff (success : (fillBlob obj header allocation).success = true) :
    (fillBlob obj header allocation).aborted = true ↔
      obj.relocations.length ≠ header.relocationCount.toNat := by
  rcases fillBlob_cases obj header allocation with
    ⟨_, equal⟩ | ⟨_, same, equal⟩ | ⟨_, different, equal⟩
  · rw [equal] at success
    cases success
  · simp [equal, same]
  · simp [equal, different]

/-- Past the loop only the code part of the blob changes. -/
theorem byte_fillBlob_before {address : Nat}
    (before : obj.relocations.length = header.relocationCount.toNat →
      address < codeOffset header.relocationCount) :
    (fillBlob obj header allocation).blob.byte address =
      (packingLoop obj header allocation).2.2.byte address := by
  rcases fillBlob_cases obj header allocation with
    ⟨_, equal⟩ | ⟨_, same, equal⟩ | ⟨_, _, equal⟩
  · rw [equal]
  · rw [equal]
    exact VpuObject.byte_getCode_before (before same)
  · rw [equal]

theorem read_header_fillBlob :
    VpuImageHeader.read (fillBlob obj header allocation).blob.byte 0 = header := by
  refine (VpuImageHeader.read_congr ?_).trans
    (VpuImageHeader.read_write (.holding allocation.contents) 0 header allocation.padding)
  intro k bound
  have inHeader : 0 + k < relocationOffset 0 := by
    simp only [relocationOffset, sizeofVpuImageHeader]
    omega
  rw [byte_fillBlob_before obj header allocation
    (fun _ => Nat.lt_of_lt_of_le inHeader (relocationOffset_mono (Nat.zero_le _)))]
  exact byte_packRelocations_before obj.relocations 0 _ inHeader

theorem read_relocation_fillBlob (success : (fillBlob obj header allocation).success = true)
    (k : Nat) (bound : k < obj.relocations.length) :
    VpuRelocation.read (fillBlob obj header allocation).blob.byte (relocationOffset k) =
      packagedRelocation obj header obj.relocations[k] := by
  have looped : (packingLoop obj header allocation).1 = true :=
    (packRelocations_success_iff _ _ _).mpr ((fillBlob_success_iff _ _ _).mp success)
  refine (VpuRelocation.read_congr ?_).trans
    ((congrArg (VpuRelocation.read _) (by rw [Nat.zero_add])).trans
      (read_packRelocations looped k bound))
  intro j inRecord
  refine byte_fillBlob_before obj header allocation fun same => ?_
  have next := relocationOffset_mono (Nat.succ_le_of_lt (same ▸ bound))
  rw [relocationOffset_succ] at next
  exact Nat.lt_of_lt_of_le (Nat.add_lt_add_left inRecord _) next

theorem relocationTable_fillBlob (success : (fillBlob obj header allocation).success = true)
    (same : obj.relocations.length = header.relocationCount.toNat) :
    relocationTable (fillBlob obj header allocation).blob.byte header.relocationCount =
      obj.relocations.map (packagedRelocation obj header) := by
  refine relocationTable_eq (by simpa using same) ?_
  intro k bound
  rw [List.getElem_map]
  exact read_relocation_fillBlob obj header allocation success k (by simpa using bound)

theorem byte_code_fillBlob (success : (fillBlob obj header allocation).success = true)
    (same : obj.relocations.length = header.relocationCount.toNat) {contents : List UInt8}
    (found : obj.code.bind CoffSection.contents = some contents)
    (fits : contents.length ≤ header.codeSize.toNat) {k : Nat}
    (bound : k < header.codeSize.toNat) :
    (fillBlob obj header allocation).blob.byte (codeOffset header.relocationCount + k) =
      contents.getD k 0 := by
  rcases fillBlob_cases obj header allocation with
    ⟨_, equal⟩ | ⟨_, _, equal⟩ | ⟨_, different, _⟩
  · rw [equal] at success
    cases success
  · rw [equal]
    exact VpuObject.byte_getCode found fits bound
  · exact absurd same different

/-- Every store of the packager is in the header, in a record or in the code. -/
theorem mem_log_fillBlob {store : Store}
    (member : store ∈ (fillBlob obj header allocation).blob.log) :
    store.LiesIn 0 sizeofVpuImageHeader ∨
      (∃ k < obj.relocations.length, store.LiesIn (relocationOffset k) sizeofVpuRelocation) ∨
      store.LiesIn (codeOffset header.relocationCount) header.codeSize.toNat := by
  have inLoop : store ∈ (packingLoop obj header allocation).2.2.log →
      store.LiesIn 0 sizeofVpuImageHeader ∨
        ∃ k < obj.relocations.length, store.LiesIn (relocationOffset k) sizeofVpuRelocation := by
    intro performed
    rcases mem_log_packRelocations performed with inHeader | ⟨k, bound, lies⟩
    · rcases VpuImageHeader.mem_log_write inHeader with impossible | lies
      · cases impossible
      · exact .inl lies
    · rw [Nat.zero_add] at lies
      exact .inr ⟨k, bound, lies⟩
  rcases fillBlob_cases obj header allocation with
    ⟨_, equal⟩ | ⟨_, _, equal⟩ | ⟨_, _, equal⟩
  · rw [equal] at member
    exact (inLoop member).imp_right .inl
  · rw [equal] at member
    rcases VpuObject.mem_log_getCode member with performed | lies
    · exact (inLoop performed).imp_right .inl
    · exact .inr (.inr lies)
  · rw [equal] at member
    exact (inLoop member).imp_right .inl

end FillBlob

theorem packageImage_of_lookups {obj : VpuObject} {entryOffset tlsSize : UInt64}
    (mainFound : obj.getSymbolValue "main" = some entryOffset)
    (tlsFound : obj.getSymbolValue tlsSymbol = some tlsSize) (allocation : BlobAllocation) :
    packageImage obj allocation =
      some (fillBlob obj (packagedHeader obj entryOffset tlsSize) allocation) := by
  simp only [packageImage, mainFound, tlsFound]

/-- What a packaged object passed on the way to its blob. -/
theorem packageImage_some {obj : VpuObject} {allocation : BlobAllocation} {package : Packaging}
    (packaged : packageImage obj allocation = some package) :
    ∃ entryOffset tlsSize, obj.getSymbolValue "main" = some entryOffset ∧
      obj.getSymbolValue tlsSymbol = some tlsSize ∧
      package = fillBlob obj (packagedHeader obj entryOffset tlsSize) allocation := by
  unfold packageImage at packaged
  cases mainFound : obj.getSymbolValue "main" with
  | none => simp [mainFound] at packaged
  | some entryOffset =>
    cases tlsFound : obj.getSymbolValue tlsSymbol with
    | none => simp [mainFound, tlsFound] at packaged
    | some tlsSize =>
      simp only [mainFound, tlsFound, Option.some.injEq] at packaged
      exact ⟨entryOffset, tlsSize, rfl, rfl, packaged.symm⟩

end VpuSim
