import VpuSim.Compiler.Acceptance

/-!
# Whether the loader takes what the packager made

The packager copies the type of a relocation into its record without looking at it.
The loader implements two types and stops at the first record of another one, when
the code has been copied and everything in front of that record is patched.
-/

namespace VpuSim

open ByteMemory

/-- The relocation types that the loader implements. -/
def CoffRelocation.Implemented (relocation : CoffRelocation) : Prop :=
  relocation.type.toUInt32 = imageRelI386Rel32 ∨ relocation.type.toUInt32 = imageRelAmd64Rel32

instance (relocation : CoffRelocation) : Decidable relocation.Implemented :=
  inferInstanceAs (Decidable (_ ∨ _))

theorem CoffRelocation.supported_record_iff (text : CoffSection) (relocation : CoffRelocation) :
    (relocation.record text).Supported ↔ relocation.Implemented :=
  Iff.rfl

/-- With room for the image, the types of the relocations decide. -/
theorem Packaging.Holds.load_accepts_iff {package : Packaging} {text : CoffSection}
    (holds : package.Holds text) (base : Memory) {size : UInt64}
    (fits : package.header.getImageSize ≤ size) :
    (VpuImageHeader.load package.blob.byte base size).1 = true ↔
      ∀ relocation ∈ text.relocations, relocation.Implemented := by
  rw [holds.load_eq, VpuImageHeader.loadParts_of_le _ _ _ _ fits, List.all_eq_true]
  constructor
  · intro accepted relocation member
    apply (relocation.supported_record_iff text).mp
    exact of_decide_eq_true (accepted _ (List.mem_map_of_mem member))
  · intro implemented record member
    obtain ⟨relocation, inText, rfl⟩ := List.mem_map.mp member
    apply decide_eq_true
    exact (relocation.supported_record_iff text).mpr (implemented relocation inText)

/-- A package that counts as a success loads into every buffer with room for it, and
an object that the loader cannot relocate is refused. -/
structure Packaging.Loadable (package : Packaging) (text : CoffSection) : Prop where
  loads : package.success = true → ∀ base size, package.header.getImageSize ≤ size →
    (VpuImageHeader.load package.blob.byte base size).1 = true
  refused : (∃ relocation ∈ text.relocations, ¬ relocation.Implemented) →
    package.success = false

/-- The packager is right about exactly the objects whose relocation types the loader
implements. -/
theorem packageImage_loadable_iff {file : CoffObject} (wellFormed : file.WellFormed)
    {obj : VpuObject} (opened : VpuObject.new.openFile (.coff file) = (true, obj))
    {text : CoffSection} (code : obj.code = some text)
    (few : text.relocations.length ≤ 65535) {allocation : BlobAllocation} {package : Packaging}
    (packaged : packageImage obj allocation = some package) :
    package.Loadable text ↔ ∀ relocation ∈ text.relocations, relocation.Implemented := by
  have openedFrom := VpuObject.openedFrom_of_code opened code
  have holds := holds_of_packageImage wellFormed openedFrom packaged few
  have success := success_of_packageImage wellFormed openedFrom packaged
  constructor
  · intro loadable
    have large := UInt64.le_refl package.header.getImageSize
    apply (holds.load_accepts_iff (.holding fun _ => 0) large).mp
    exact loadable.loads success _ _ large
  · intro implemented
    constructor
    · intro _ base size fits
      exact (holds.load_accepts_iff base fits).mpr implemented
    · rintro ⟨relocation, member, unimplemented⟩
      exact absurd (implemented relocation member) unimplemented

theorem packageImage_loadable_iff_small :
    (smallPackage 0).Loadable (smallText 0) ↔
      ∀ relocation ∈ (smallText 0).relocations, relocation.Implemented :=
  @packageImage_loadable_iff (smallFile 0) (by decide) (smallObject 0) (by rfl) (smallText 0) rfl
    (by decide) (.filled 0) (smallPackage 0) (by rfl)

/-- A relative reference to `g_tls`, then an absolute one of eight bytes. -/
def absoluteText : CoffSection :=
  { smallText 0 with
    relocations := (smallText 0).relocations ++
      [⟨0, 1, ⟨some "g_tls", 72, 0, 0, some .data, 72, noNul_gTls⟩⟩] }

def absoluteFile : CoffObject := { smallFile 0 with sections := [absoluteText] }

def absoluteObject : VpuObject :=
  { smallObject 0 with
    code := some absoluteText
    relocations := [⟨4, 0, "g_tls"⟩, ⟨1, 0, "g_tls"⟩] }

/-- An absolute reference is packaged as a success that no buffer can load. -/
theorem packageImage_not_loadable :
    absoluteFile.WellFormed ∧
      VpuObject.new.openFile (.coff absoluteFile) = (true, absoluteObject) ∧
      absoluteText.relocations.length ≤ 65535 ∧
      ¬ ∀ package, packageImage absoluteObject (.filled 0) = some package →
        package.Loadable absoluteText := by
  refine ⟨by decide, by rfl, by decide, ?_⟩
  intro loadable
  have package := loadable _ (by rfl)
  have loaded := package.loads (by decide) (.holding fun _ => 0) 8192 (by decide)
  exact absurd loaded (by decide)

end VpuSim
