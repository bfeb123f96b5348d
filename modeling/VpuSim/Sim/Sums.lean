import VpuSim.Compiler.Loadable
import VpuSim.Sim.Results

/-!
# From the object file to the sums

An object whose relocations the loader implements and whose fixups lie in its code is
packaged to an image that runs. Compiled from `Test.hlsl`, it prints the sums of the host's
data, wherever the allocations lie and whatever they held.
-/

set_option linter.dupNamespace false

namespace VpuSim

open ByteMemory

/-- The loader implements every relocation of the section and keeps to its bytes. -/
def CoffSection.Relocatable (text : CoffSection) : Prop :=
  ∀ relocation ∈ text.relocations, relocation.Implemented ∧ relocation.InsideOf text

instance (text : CoffSection) : Decidable text.Relocatable :=
  inferInstanceAs (Decidable (∀ relocation ∈ text.relocations, _ ∧ _))

theorem Packaging.Holds.runnable {package : Packaging} {text : CoffSection}
    (holds : package.Holds text) (relocatable : text.Relocatable)
    (tls : sizeofVpuThreadLocalStorage ≤ package.header.tlsSize.toNat) :
    VpuImageHeader.Runnable package.blob.byte := by
  have entries : VpuImageHeader.table package.blob.byte =
      text.relocations.map (CoffRelocation.record text) := by
    rw [VpuImageHeader.table, holds.header, holds.table]
  have size := VpuImageHeader.codeSize_le_of_fits holds.fits (UInt64.le_refl _)
  rw [UInt64.le_iff_toNat_le, holds.codeSize] at size
  refine ⟨⟨?_, ?_⟩, ?_, ?_⟩
  · rw [holds.header]
    exact holds.fits
  · rw [entries, holds.header]
    intro record member
    obtain ⟨relocation, inText, rfl⟩ := List.mem_map.mp member
    exact (relocatable relocation inText).2.trans size
  · rw [entries]
    intro record member
    obtain ⟨relocation, inText, rfl⟩ := List.mem_map.mp member
    exact (relocation.supported_record_iff text).mpr (relocatable relocation inText).1
  · rw [holds.header]
    exact tls

section Run

variable {Source Bitcode : Type} {tools : Toolchain Source Bitcode} {disassembly : Source}
  {bitcode : Bitcode} {file : CoffObject} {obj : VpuObject} {text : CoffSection}
  {allocation : BlobAllocation} {package : Packaging} {machine : Machine}

/-- Compiled to a well-formed object, the shader of `Test.hlsl` makes `main` print the sums
of the first two buffers. -/
theorem main_prints_sums (wellFormed : file.WellFormed)
    (linked : tools.link disassembly = .ok bitcode)
    (compiled : tools.compile (some bitcode) = .ok (.coff file))
    (opened : VpuObject.new.openFile (.coff file) = (true, obj)) (code : obj.code = some text)
    (few : text.relocations.length ≤ 65535) (relocatable : text.Relocatable)
    (packaged : packageImage obj allocation = some package)
    (tls : sizeofVpuThreadLocalStorage ≤ package.header.tlsSize.toNat)
    (allocates : machine.Allocates package.blob.byte) {windll : Bool} {opcodes : DxilOpcodes}
    {fadd : UInt32 → UInt32 → UInt32}
    (runs : machine.Runs package.blob.byte windll (testMain opcodes fadd))
    (workDir : WorkDir Bitcode) (data : Fin 3 → Fin 4 → UavElement) :
    ∃ after final, main tools workDir disassembly allocation machine data =
        some (.results (fun index => (data 0 index).add fadd (data 1 index)) final) ∧
      hostRun machine package.blob.byte windll (testMain opcodes fadd) data = some after ∧
      Finished machine package.blob.byte after final := by
  have openedFrom := VpuObject.openedFrom_of_code opened code
  have holds := holds_of_packageImage wellFormed openedFrom packaged few
  have runnable := holds.runnable relocatable tls
  have compiles := vpuCompiler_of_opened linked compiled opened packaged workDir
  rw [not_aborted_of_packageImage wellFormed openedFrom packaged few] at compiles
  obtain ⟨state, represents, executed⟩ := main_eq_execute compiles rfl allocates.block
    allocates.blockInAddressSpace data
  obtain ⟨after, ran, sums⟩ := runThreads_hostDevice
    (machine.lib package.blob.byte windll).gTls opcodes fadd data
    fun k => machine.memory.byte (machine.block.toNat + k)
  obtain ⟨final, finished, holdsAfter⟩ := execute_finished runnable allocates runs represents ran
  rw [sums] at finished
  exact ⟨after, final, executed.trans finished, ran, holdsAfter⟩

end Run

theorem main_prints_sums_test :
    ∃ after final, main (toolsOf (.coff testFile)) ⟨none, .unreadable⟩ () (.filled 0xCD) testMachine
        uavInitData =
        some (.results (fun index => (uavInitData 0 index).add addFloat (uavInitData 1 index))
          final) ∧
      hostRun testMachine testPackage.blob.byte false smallShader uavInitData = some after ∧
      Finished testMachine testPackage.blob.byte after final :=
  @main_prints_sums _ _ (toolsOf (.coff testFile)) () () testFile testObject testText (.filled 0xCD)
    testPackage testMachine (by decide) rfl rfl (by rfl) rfl (by decide) (by decide) (by rfl)
    (by decide) (allocates_testMachine (by decide)) false ⟨93, 57, 68, 69⟩ addFloat runs_test
    ⟨none, .unreadable⟩ uavInitData

end VpuSim
