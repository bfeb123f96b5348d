import VpuSim.Compiler.Loadable
import VpuSim.Shader.Loading

/-!
# What one path accepts and the other does not

An object that can be opened and loaded as a shader binary can also be compiled to an image
that loads, unless `LoadSymbolTable` does not get through its symbols.
-/

namespace VpuSim

open ByteMemory

/-- The image path takes the object: it is opened and packaged, and the image loads. -/
def CoffObject.TakenAsImage (file : CoffObject) : Prop :=
  ∃ obj, VpuObject.new.openFile (.coff file) = (true, obj) ∧ ∀ allocation, ∃ package,
    packageImage obj allocation = some package ∧ package.success = true ∧
      package.aborted = false ∧ ∀ base size, package.header.getImageSize ≤ size →
        (VpuImageHeader.load package.blob.byte base size).1 = true

namespace VpuShaderBinary

/-- The relocations that were recorded have symbols with a type and a name. -/
theorem readable_of_records {file : CoffObject} {fuel : Nat} {tlsOffset : UInt32}
    {relocations : List CoffRelocation} {records : List VpuRelocation}
    (recorded : List.Forall₂ (Records file fuel tlsOffset) relocations records) :
    ∀ relocation ∈ relocations,
      relocation.symbol.type.isSome ∧ relocation.symbol.name.isSome := by
  induction recorded with
  | nil => exact fun _ impossible => nomatch impossible
  | cons first _ ih =>
    obtain ⟨name, type, offset, resolved, _⟩ := first
    refine List.forall_mem_cons.mpr ⟨⟨?_, ?_⟩, ih⟩
    · rw [resolved.typed]
      rfl
    · rw [resolved.named]
      rfl

/-- A record that the loader implements comes from a relocation that it implements. -/
theorem implemented_of_records {file : CoffObject} {fuel : Nat} {tlsOffset : UInt32}
    {relocations : List CoffRelocation} {records : List VpuRelocation}
    (recorded : List.Forall₂ (Records file fuel tlsOffset) relocations records)
    (supported : ∀ record ∈ records, record.Supported) :
    ∀ relocation ∈ relocations, relocation.Implemented := by
  induction recorded with
  | nil => exact fun _ impossible => nomatch impossible
  | cons first _ ih =>
    obtain ⟨name, type, offset, _, rfl⟩ := first
    obtain ⟨head, rest⟩ := List.forall_mem_cons.mp supported
    exact List.forall_mem_cons.mpr ⟨head, ih rest⟩

end VpuShaderBinary

section Paths

variable {file : CoffObject} {fuel : Nat} {shader : VpuShaderBinary}
  {codeSize dataSize imageSize tlsSize mainOffset : UInt32}

/-- An export of a file whose symbols load is in the table of the opened object. -/
theorem VpuObject.OpenedFrom.lookup_export {obj : VpuObject} {text : CoffSection}
    (opened : obj.OpenedFrom file text) {name : String} {value : UInt32}
    (found : VpuShaderBinary.findExport file fuel name = some (some value)) :
    obj.getSymbolValue name = some value.toUInt64 :=
  lookup_of_findExportFrom found ((loadSymbolTable_eq_iff _ _ _).mp opened.symbolTable)

/-- What the direct path opens and loads is taken as an image exactly if its symbols load. -/
theorem takenAsImage_iff (wellFormed : file.WellFormed)
    (direct : (VpuShaderBinary.new codeSize dataSize imageSize tlsSize mainOffset).openFile fuel
      (.coff file) = some (true, shader))
    {base : Memory} {size : UInt32} (loaded : (shader.load base size).1 = true)
    (few : shader.relocations.length ≤ 65535) :
    file.TakenAsImage ↔ (loadSymbolTable file.symbols []).1 = true := by
  obtain ⟨text, directFrom⟩ := VpuShaderBinary.openedFrom_of_openFile rfl direct
  obtain ⟨contents, found, fits⟩ := VpuShaderBinary.contents_of_load loaded
  constructor
  · rintro ⟨obj, opened, _⟩
    obtain ⟨symbolTable, _, _, symbols, _⟩ := VpuObject.openFile_true_iff.mp opened
    exact congrArg Prod.fst symbols
  · intro symbols
    have readable := VpuShaderBinary.readable_of_records directFrom.relocations
    have supported := (VpuShaderBinary.load_accepts_iff found fits base size).mp loaded
    have implemented := VpuShaderBinary.implemented_of_records directFrom.relocations supported
    have opened : VpuObject.new.openFile (.coff file) = (true, _) :=
      VpuObject.openFile_true_iff.mpr ⟨_, text, _, Prod.ext symbols rfl, directFrom.textFound,
        Prod.ext (loadRelocations_accepts_iff.mpr readable) rfl, rfl⟩
    have openedFrom := VpuObject.openedFrom_of_code opened rfl
    have fewInText : text.relocations.length ≤ 65535 := directFrom.relocations.length_eq ▸ few
    refine ⟨_, opened, ?_⟩
    intro allocation
    have packaged := packageImage_of_lookups (openedFrom.lookup_export directFrom.main)
      (openedFrom.lookup_export directFrom.tls) allocation
    have holds := holds_of_packageImage wellFormed openedFrom packaged fewInText
    refine ⟨_, packaged, success_of_packageImage wellFormed openedFrom packaged,
      not_aborted_of_packageImage wellFormed openedFrom packaged fewInText, ?_⟩
    intro base size room
    exact (holds.load_accepts_iff base room).mpr implemented

end Paths

theorem takenAsImage_iff_small :
    (VpuShaderBinary.referenceFile 4).TakenAsImage ↔
      (loadSymbolTable (VpuShaderBinary.referenceFile 4).symbols []).1 = true :=
  @takenAsImage_iff (VpuShaderBinary.referenceFile 4) 3 (VpuShaderBinary.referenceShader 4)
    0 0 0 0 0 (by decide) (by rfl) (.holding fun _ => 0) 8192 (by decide) (by decide)

end VpuSim
