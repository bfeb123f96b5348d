import VpuSim.Compiler.Run
import VpuSim.Image.Placement

/-!
# What the blob's allocation held

The packager writes into memory that nobody cleared, and nothing says what it leaves in
the padding of the header and of the records. None of this reaches a loaded image.
-/

namespace VpuSim

open ByteMemory

/-- Two complete images of an object load alike. -/
theorem FilledFrom.load_eq {blob otherBlob : Memory} {obj : VpuObject} {header : VpuImageHeader}
    (filled : FilledFrom blob obj header) (other : FilledFrom otherBlob obj header)
    (base : Memory) (size : UInt64) :
    (VpuImageHeader.load otherBlob.byte base size).1 =
        (VpuImageHeader.load blob.byte base size).1 ∧
      ∀ address, (VpuImageHeader.load otherBlob.byte base size).2.byte address =
        (VpuImageHeader.load blob.byte base size).2.byte address := by
  apply VpuImageHeader.load_congr
  · rw [other.recorded, filled.recorded]
  · rw [VpuImageHeader.table, VpuImageHeader.table, other.recorded, filled.recorded, other.table,
      filled.table]
  · intro k bound
    obtain ⟨contents, found, code⟩ := filled.code
    obtain ⟨otherContents, otherFound, otherCode⟩ := other.code
    cases Option.some.inj (found.symm.trans otherFound)
    rw [filled.recorded] at bound ⊢
    rw [code k bound, otherCode k bound]

variable {Source Bitcode : Type} {tools : Toolchain Source Bitcode} {disassembly : Source}
  {obj : VpuObject}

/-- A run whose stages succeed hands out a complete image. -/
theorem vpuCompiler_of_produces (produced : Produces tools disassembly obj)
    (few : obj.relocations.length ≤ 65535) :
    ∃ header after, ∀ workDir allocation, ∃ image,
      vpuCompiler tools workDir disassembly allocation = some ⟨true, some image, after⟩ ∧
        FilledFrom image obj header := by
  obtain ⟨bitcode, file, linked, compiled, opened⟩ := produced.opened
  obtain ⟨entryOffset, mainFound⟩ := Option.isSome_iff_exists.mp produced.main
  obtain ⟨tlsSize, tlsFound⟩ := Option.isSome_iff_exists.mp produced.tls
  refine ⟨packagedHeader obj entryOffset tlsSize, ⟨some bitcode, file⟩, ?_⟩
  intro workDir allocation
  obtain ⟨finished, filled⟩ :=
    filledFrom_fillBlob mainFound tlsFound produced.resolved produced.code few allocation
  have run := vpuCompiler_of_opened linked compiled opened
    (packageImage_of_lookups mainFound tlsFound allocation) workDir
  rw [finished] at run
  exact ⟨_, run, filled⟩

/-- Whatever the allocation of its blob held, and whatever an earlier run left in the
directory, a run whose stages succeed hands out an image that loads the same. -/
theorem vpuCompiler_allocation (produced : Produces tools disassembly obj)
    (few : obj.relocations.length ≤ 65535) (workDir otherDir : WorkDir Bitcode)
    (allocation otherAllocation : BlobAllocation) :
    ∃ image other after,
      vpuCompiler tools workDir disassembly allocation = some ⟨true, some image, after⟩ ∧
      vpuCompiler tools otherDir disassembly otherAllocation = some ⟨true, some other, after⟩ ∧
      ∀ base size, (VpuImageHeader.load other.byte base size).1 =
          (VpuImageHeader.load image.byte base size).1 ∧
        ∀ address, (VpuImageHeader.load other.byte base size).2.byte address =
          (VpuImageHeader.load image.byte base size).2.byte address := by
  obtain ⟨header, after, runs⟩ := vpuCompiler_of_produces produced few
  obtain ⟨image, run, filled⟩ := runs workDir allocation
  obtain ⟨other, rerun, refilled⟩ := runs otherDir otherAllocation
  exact ⟨image, other, after, run, rerun, filled.load_eq refilled⟩

theorem produces_small : Produces (toolsOf (.coff (smallFile 0))) () (smallObject 0) where
  opened := ⟨(), .coff (smallFile 0), rfl, rfl, by rfl⟩
  main := by decide
  tls := by decide
  resolved := by decide
  code := fun _ _ => rfl

theorem vpuCompiler_allocation_small :
    ∃ image other after,
      vpuCompiler (toolsOf (.coff (smallFile 0))) staleDir () (.filled 0) =
        some ⟨true, some image, after⟩ ∧
      vpuCompiler (toolsOf (.coff (smallFile 0))) ⟨none, .unreadable⟩ () (.filled 0xCD) =
        some ⟨true, some other, after⟩ ∧
      ∀ base size, (VpuImageHeader.load other.byte base size).1 =
          (VpuImageHeader.load image.byte base size).1 ∧
        ∀ address, (VpuImageHeader.load other.byte base size).2.byte address =
          (VpuImageHeader.load image.byte base size).2.byte address :=
  vpuCompiler_allocation produces_small (by decide) _ _ _ _

end VpuSim
