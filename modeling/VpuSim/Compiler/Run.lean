import VpuSim.Compiler.Resolution

/-!
# A run of the compiler

`vpu_compiler` links, compiles and packages. LLVM decides how its two stages end;
the files they write stay in the working directory, and a failed stage leaves the
file of an earlier run where it is.
-/

namespace VpuSim

open ByteMemory

/-- What LLVM makes of its inputs: an output, or a nonzero exit code. -/
structure Toolchain (Source Bitcode : Type) where
  link : Source → Except Int Bitcode
  compile : Option Bitcode → Except Int BinaryFile

structure WorkDir (Bitcode : Type) where
  /-- `VpuShader.bc` -/
  bitcode : Option Bitcode
  /-- `VpuShader.obj` -/
  object : BinaryFile

structure CompilerResult (Bitcode : Type) where
  returned : Bool
  /-- the blob behind `outVpuImage`, if one was created -/
  outVpuImage : Option Memory
  workDir : WorkDir Bitcode

variable {Source Bitcode : Type}

def llvmLinker (tools : Toolchain Source Bitcode) (workDir : WorkDir Bitcode)
    (disassembly : Source) : Int × WorkDir Bitcode :=
  match tools.link disassembly with
  | .error code => (code, workDir)
  | .ok bitcode => (0, { workDir with bitcode := some bitcode })

def llvmCompile (tools : Toolchain Source Bitcode) (workDir : WorkDir Bitcode) :
    Int × WorkDir Bitcode :=
  match tools.compile workDir.bitcode with
  | .error code => (code, workDir)
  | .ok object => (0, { workDir with object := object })

/-- The destructor asserts that the object was closed. -/
def VpuObject.destroy (self : VpuObject) : Option Unit :=
  if self.loaded then none else some ()

/-- What packaging leaves behind `outVpuImage`, `none` where its assertion fails. -/
def imageOf (opened : Bool) (obj : VpuObject) (allocation : BlobAllocation) :
    Option (Option Memory) :=
  if opened then
    match packageImage obj allocation with
    | none => some none
    | some package => if package.aborted then none else some (some package.blob)
  else some none

/-- A run on a disassembly, `none` where an assertion on the object fails. -/
def vpuCompiler (tools : Toolchain Source Bitcode) (workDir : WorkDir Bitcode)
    (disassembly : Source) (allocation : BlobAllocation) : Option (CompilerResult Bitcode) := do
  let (_, workDir) := llvmLinker tools workDir disassembly
  let (_, workDir) := llvmCompile tools workDir
  let (opened, obj) := VpuObject.new.openFile workDir.object
  let outVpuImage ← imageOf opened obj allocation
  obj.close.destroy
  return { returned := true, outVpuImage, workDir }

/-- Every stage succeeds on `disassembly` and the object that comes out is `obj`. -/
structure Produces (tools : Toolchain Source Bitcode) (disassembly : Source)
    (obj : VpuObject) : Prop where
  opened : ∃ bitcode file, tools.link disassembly = .ok bitcode ∧
    tools.compile (some bitcode) = .ok file ∧ VpuObject.new.openFile file = (true, obj)
  main : (obj.getSymbolValue "main").isSome
  tls : (obj.getSymbolValue tlsSymbol).isSome
  resolved : ∀ objr ∈ obj.relocations,
    objr.symbolName = tlsSymbol ∨ (obj.getSymbolValue objr.symbolName).isSome
  code : ∀ memory buffer, (obj.getCode memory buffer obj.getCodeSize).1 = true

/-- The blob is the complete image of `obj` under `header`. -/
structure FilledFrom (blob : Memory) (obj : VpuObject) (header : VpuImageHeader) : Prop where
  entry : obj.getSymbolValue "main" = some header.entryOffset
  tls : obj.getSymbolValue tlsSymbol = some header.tlsSize
  codeSize : header.codeSize = obj.getCodeSize
  recorded : VpuImageHeader.read blob.byte 0 = header
  table : relocationTable blob.byte header.relocationCount =
    obj.relocations.map (packagedRelocation obj header)
  code : ∃ contents, obj.code.bind CoffSection.contents = some contents ∧
    ∀ k < header.codeSize.toNat,
      blob.byte (codeOffset header.relocationCount + k) = contents.getD k 0

/-- A run returns, says whether every stage succeeded, and hands out the image of
this disassembly or none. -/
def ReportsFaithfully (tools : Toolchain Source Bitcode) (workDir : WorkDir Bitcode)
    (disassembly : Source) (allocation : BlobAllocation) : Prop :=
  ∃ result, vpuCompiler tools workDir disassembly allocation = some result ∧
    (result.returned = true ↔ ∃ obj, Produces tools disassembly obj) ∧
    (result.returned = true → ∃ obj header blob, Produces tools disassembly obj ∧
      result.outVpuImage = some blob ∧ FilledFrom blob obj header) ∧
    (result.returned = false → result.outVpuImage = none)

theorem VpuObject.destroy_close (self : VpuObject) : self.close.destroy = some () := rfl

/-- The code of a run never reaches another `return`. -/
theorem returned_of_vpuCompiler {tools : Toolchain Source Bitcode} {workDir : WorkDir Bitcode}
    {disassembly : Source} {allocation : BlobAllocation} {result : CompilerResult Bitcode}
    (run : vpuCompiler tools workDir disassembly allocation = some result) :
    result.returned = true := by
  simp only [vpuCompiler, VpuObject.destroy_close, Option.bind_eq_bind,
    Option.bind_eq_some_iff] at run
  obtain ⟨_, _, _, _, equal⟩ := run
  cases equal
  rfl

/-- After two successful stages the object is the one of this run. -/
theorem vpuCompiler_of_opened {tools : Toolchain Source Bitcode} {disassembly : Source}
    {bitcode : Bitcode} (linked : tools.link disassembly = .ok bitcode) {file : BinaryFile}
    (compiled : tools.compile (some bitcode) = .ok file) {obj : VpuObject}
    (opened : VpuObject.new.openFile file = (true, obj)) {allocation : BlobAllocation}
    {package : Packaging} (packaged : packageImage obj allocation = some package)
    (workDir : WorkDir Bitcode) :
    vpuCompiler tools workDir disassembly allocation =
      if package.aborted then none else some ⟨true, some package.blob, ⟨some bitcode, file⟩⟩ := by
  simp only [vpuCompiler, llvmLinker, linked, llvmCompile, compiled, opened, imageOf, packaged,
    if_true]
  cases package.aborted <;> rfl

theorem resolveReference_isSome_iff {obj : VpuObject} {header : VpuImageHeader} {name : String} :
    (resolveReference obj header name).isSome ↔
      name = tlsSymbol ∨ (obj.getSymbolValue name).isSome := by
  rw [resolveReference]
  split
  · rename_i tls
    simp [tls]
  · rename_i notTls
    simp [notTls]

theorem length_relocationTable (image : Nat → UInt8) (count : UInt16) :
    (relocationTable image count).length = count.toNat := by
  simp [relocationTable]

theorem FilledFrom.few {blob : Memory} {obj : VpuObject} {header : VpuImageHeader}
    (filled : FilledFrom blob obj header) : obj.relocations.length ≤ 65535 := by
  have length := congrArg List.length filled.table
  rw [length_relocationTable, List.length_map] at length
  exact length ▸ Nat.le_of_lt_succ (UInt16.toNat_lt _)

theorem filledFrom_fillBlob {obj : VpuObject} {entryOffset tlsSize : UInt64}
    (mainFound : obj.getSymbolValue "main" = some entryOffset)
    (tlsFound : obj.getSymbolValue tlsSymbol = some tlsSize)
    (resolved : ∀ objr ∈ obj.relocations,
      objr.symbolName = tlsSymbol ∨ (obj.getSymbolValue objr.symbolName).isSome)
    (code : ∀ memory buffer, (obj.getCode memory buffer obj.getCodeSize).1 = true)
    (few : obj.relocations.length ≤ 65535) (allocation : BlobAllocation) :
    (fillBlob obj (packagedHeader obj entryOffset tlsSize) allocation).aborted = false ∧
      FilledFrom (fillBlob obj (packagedHeader obj entryOffset tlsSize) allocation).blob obj
        (packagedHeader obj entryOffset tlsSize) := by
  have same := (@toNat_relocationCount obj entryOffset tlsSize few).symm
  have success := (fillBlob_success_iff obj (packagedHeader obj entryOffset tlsSize)
    allocation).mpr fun objr member => resolveReference_isSome_iff.mpr (resolved objr member)
  obtain ⟨contents, found, fits⟩ := VpuObject.getCode_true_iff.mp (code (.holding fun _ => 0) 0)
  refine ⟨?_, ?_⟩
  · rw [Bool.eq_false_iff]
    intro aborted
    exact (fillBlob_aborted_iff _ _ _ success).mp aborted same
  · constructor
    · exact mainFound
    · exact tlsFound
    · rfl
    · exact read_header_fillBlob _ _ _
    · exact relocationTable_fillBlob _ _ _ success same
    · exact ⟨contents, found, fun k bound =>
        byte_code_fillBlob _ _ _ success same found fits bound⟩

/-- The return value is right exactly when every stage succeeds on an object that
has at most 65535 relocations. -/
theorem reportsFaithfully_iff (tools : Toolchain Source Bitcode) (workDir : WorkDir Bitcode)
    (disassembly : Source) (allocation : BlobAllocation) :
    ReportsFaithfully tools workDir disassembly allocation ↔
      ∃ obj, Produces tools disassembly obj ∧ obj.relocations.length ≤ 65535 := by
  constructor
  · rintro ⟨result, run, _, image, _⟩
    obtain ⟨obj, header, blob, produced, _, filled⟩ := image (returned_of_vpuCompiler run)
    exact ⟨obj, produced, filled.few⟩
  · rintro ⟨obj, produced, few⟩
    obtain ⟨bitcode, file, linked, compiled, opened⟩ := produced.opened
    obtain ⟨entryOffset, mainFound⟩ := Option.isSome_iff_exists.mp produced.main
    obtain ⟨tlsSize, tlsFound⟩ := Option.isSome_iff_exists.mp produced.tls
    rcases filledFrom_fillBlob mainFound tlsFound produced.resolved produced.code few allocation
      with ⟨notAborted, filled⟩
    have packaged := packageImage_of_lookups mainFound tlsFound allocation
    have run := vpuCompiler_of_opened linked compiled opened packaged workDir
    rw [notAborted] at run
    refine ⟨_, run, ?_, ?_, ?_⟩
    · exact ⟨fun _ => ⟨obj, produced⟩, fun _ => rfl⟩
    · exact fun _ => ⟨obj, _, _, produced, rfl, filled⟩
    · exact fun impossible => nomatch impossible

/-- Tools that make an object of the given file. -/
def toolsOf (file : BinaryFile) : Toolchain Unit Unit where
  link _ := .ok ()
  compile
    | some _ => .ok file
    | none => .error 1

/-- Tools that fail on everything. -/
def failingTools : Toolchain Unit Unit where
  link _ := .error 1
  compile _ := .error 1

/-- The directory after an earlier run. -/
def staleDir : WorkDir Unit := ⟨some (), .coff (smallFile 0)⟩

/-- A run whose linker and compiler fail reports success and hands out the image of
an earlier run. -/
theorem vpuCompiler_stale :
    vpuCompiler failingTools staleDir () (.filled 0) =
        some ⟨true, some (smallPackage 0).blob, staleDir⟩ ∧
      ¬ ReportsFaithfully failingTools staleDir () (.filled 0) := by
  refine ⟨by rfl, ?_⟩
  rintro ⟨result, run, succeeded, _⟩
  obtain ⟨obj, produced⟩ := succeeded.mp (returned_of_vpuCompiler run)
  obtain ⟨_, _, linked, _⟩ := produced.opened
  cases linked

end VpuSim
