import Mathlib.Data.List.Forall2
import VpuSim.Compiler.Blob
import VpuSim.Image.Format

/-!
# The packager writes the format

What the image of an object is can be said without a blob. The blob that the packager
fills holds this image, with anything in the padding of the header and the records.
-/

namespace VpuSim

open ByteMemory

/-- The record that a relocation of the object is resolved to. -/
structure VpuObjRelocation.ResolvesTo (obj : VpuObject) (header : VpuImageHeader)
    (objr : VpuObjRelocation) (relocation : VpuRelocation) : Prop where
  type : relocation.type = objr.type
  fixupOffset : relocation.fixupOffset = objr.fixupOffset
  referenceOffset :
    resolveReference obj header objr.symbolName = some relocation.referenceOffset

/-- The image says what the object does, with every reference resolved. -/
structure VpuImage.Of (image : VpuImage) (obj : VpuObject) : Prop where
  entry : obj.getSymbolValue "main" = some image.entryOffset
  tls : obj.getSymbolValue tlsSymbol = some image.tlsSize
  relocations : obj.relocations.Forall₂ (VpuObjRelocation.ResolvesTo obj image.header)
    image.relocations
  code : ∃ contents, obj.code.bind CoffSection.contents = some contents ∧
    contents.length ≤ obj.getCodeSize.toNat ∧
    image.code = contents ++ List.replicate (obj.getCodeSize.toNat - contents.length) 0

theorem VpuObjRelocation.resolvesTo_iff {obj : VpuObject} {header : VpuImageHeader}
    {objr : VpuObjRelocation} {relocation : VpuRelocation} :
    objr.ResolvesTo obj header relocation ↔
      (resolveReference obj header objr.symbolName).isSome ∧
        packagedRelocation obj header objr = relocation := by
  constructor
  · rintro ⟨type, fixup, reference⟩
    refine ⟨by rw [reference]; rfl, ?_⟩
    rw [packagedRelocation, reference, ← type, ← fixup, Option.getD_some]
  · rintro ⟨resolved, rfl⟩
    obtain ⟨referenceOffset, found⟩ := Option.isSome_iff_exists.mp resolved
    refine ⟨rfl, rfl, ?_⟩
    rw [packagedRelocation, found, Option.getD_some]

/-- The records that a list of relocations resolves to are those that the loop makes. -/
theorem forall₂_resolvesTo_iff {obj : VpuObject} {header : VpuImageHeader}
    {relocations : List VpuObjRelocation} {records : List VpuRelocation} :
    relocations.Forall₂ (VpuObjRelocation.ResolvesTo obj header) records ↔
      (∀ objr ∈ relocations, (resolveReference obj header objr.symbolName).isSome) ∧
        relocations.map (packagedRelocation obj header) = records := by
  have split : VpuObjRelocation.ResolvesTo obj header = fun objr relocation =>
      (resolveReference obj header objr.symbolName).isSome ∧
        packagedRelocation obj header objr = relocation := by
    funext objr relocation
    exact propext VpuObjRelocation.resolvesTo_iff
  rw [split, List.forall₂_and_left, ← @List.forall₂_map_left_iff _ _ _ Eq, List.forall₂_eq_eq_eq]

namespace VpuImage.Of

variable {image other : VpuImage} {obj : VpuObject}

theorem length_code (is : image.Of obj) : image.code.length = obj.getCodeSize.toNat := by
  obtain ⟨contents, _, fits, equal⟩ := is.code
  rw [equal, List.length_append, List.length_replicate, Nat.add_sub_cancel' fits]

theorem header_eq (is : image.Of obj) :
    image.header = packagedHeader obj image.entryOffset image.tlsSize := by
  rw [header, packagedHeader, is.length_code, UInt64.ofNat_toNat, is.relocations.length_eq]

/-- An object has one image at most. -/
theorem unique (is : image.Of obj) (too : other.Of obj) : image = other := by
  have entry := Option.some.inj (is.entry.symm.trans too.entry)
  have tls := Option.some.inj (is.tls.symm.trans too.tls)
  apply VpuImage.ext entry tls
  · rw [← (forall₂_resolvesTo_iff.mp is.relocations).2,
      ← (forall₂_resolvesTo_iff.mp too.relocations).2, is.header_eq, too.header_eq, entry, tls]
  · obtain ⟨contents, found, _, equal⟩ := is.code
    obtain ⟨otherContents, otherFound, _, otherEqual⟩ := too.code
    cases Option.some.inj (found.symm.trans otherFound)
    rw [equal, otherEqual]

end VpuImage.Of

/-- On relocations that all resolve the loop writes the table of their records. -/
theorem packRelocations_eq_writeTable {obj : VpuObject} {header : VpuImageHeader}
    {relocations : List VpuObjRelocation}
    (resolved : ∀ objr ∈ relocations, (resolveReference obj header objr.symbolName).isSome)
    (count : Nat) (blob : Memory) :
    (packRelocations obj header relocations count blob).2.2 =
      VpuImage.writeTable (relocations.map (packagedRelocation obj header)) count blob := by
  induction relocations generalizing count blob with
  | nil => rfl
  | cons objr rest ih =>
    obtain ⟨first, later⟩ := List.forall_mem_cons.mp resolved
    obtain ⟨referenceOffset, found⟩ := Option.isSome_iff_exists.mp first
    rw [packRelocations_cons_of_some found, ih later, List.map_cons, VpuImage.writeTable]

/-- A section and the zeros behind it, read at one place. -/
theorem getD_append_zeros (contents : List UInt8) (zeros k : Nat) :
    (contents ++ List.replicate zeros 0).getD k 0 = contents.getD k 0 := by
  rcases Nat.lt_or_ge k contents.length with inside | behind
  · rw [List.getD_append _ _ _ _ inside]
  · rw [List.getD_append_right _ _ _ _ behind, List.getD_eq_default _ _ behind]
    simp

/-- `GetCode` into one byte of memory. -/
theorem VpuObject.byte_getCode_eq {obj : VpuObject} {contents : List UInt8} {size : UInt64}
    (found : obj.code.bind CoffSection.contents = some contents)
    (fits : contents.length ≤ size.toNat) (memory : Memory) (buffer address : Nat) :
    (obj.getCode memory buffer size).2.byte address =
      if buffer ≤ address ∧ address < buffer + size.toNat then contents.getD (address - buffer) 0
      else memory.byte address := by
  split
  · rename_i inside
    have byte := @byte_getCode obj memory buffer size _ found fits (address - buffer) (by omega)
    rwa [Nat.add_sub_cancel' inside.1] at byte
  · rename_i outside
    simp only [getCode, found, if_neg (Nat.not_lt.mpr fits)]
    rw [Memory.byte_copy, if_neg (by omega), Memory.byte_fill, if_neg outside]

theorem VpuImage.Of.success {image : VpuImage} {obj : VpuObject} (is : image.Of obj)
    (allocation : BlobAllocation) : (fillBlob obj image.header allocation).success = true :=
  (fillBlob_success_iff obj image.header allocation).mpr
    (forall₂_resolvesTo_iff.mp is.relocations).1

theorem VpuImage.Of.same {image : VpuImage} {obj : VpuObject} (is : image.Of obj) :
    obj.relocations.length = image.header.relocationCount.toNat := by
  rw [image.toNat_count, is.relocations.length_eq]

/-- The filled blob is the image in memory. -/
theorem VpuImage.Of.byte_fillBlob {image : VpuImage} {obj : VpuObject} (is : image.Of obj)
    (allocation : BlobAllocation) (address : Nat) :
    (fillBlob obj image.header allocation).blob.byte address =
      (image.write allocation.padding (.holding allocation.contents)).byte address := by
  obtain ⟨resolved, records⟩ := forall₂_resolvesTo_iff.mp is.relocations
  obtain ⟨contents, found, fits, code⟩ := is.code
  have loop := packRelocations_eq_writeTable resolved 0
    (VpuImageHeader.write (.holding allocation.contents) 0 image.header allocation.padding)
  rw [records] at loop
  rcases fillBlob_cases obj image.header allocation with
    ⟨failed, _⟩ | ⟨_, _, equal⟩ | ⟨_, different, _⟩
  · rw [packingLoop, (packRelocations_success_iff _ _ _).mpr resolved] at failed
    cases failed
  · have size := congrArg UInt64.toNat (congrArg VpuImageHeader.codeSize is.header_eq)
    change image.header.codeSize.toNat = obj.getCodeSize.toNat at size
    rw [equal, VpuObject.byte_getCode_eq found (size ▸ fits), VpuImage.write, Memory.byte_copy,
      ← image.toNat_codeSize, code, getD_append_zeros, packingLoop, loop]
  · exact absurd is.same different

/-- An object that can be packaged has an image. -/
theorem VpuImage.exists_of {obj : VpuObject} {entryOffset tlsSize : UInt64}
    (mainFound : obj.getSymbolValue "main" = some entryOffset)
    (tlsFound : obj.getSymbolValue tlsSymbol = some tlsSize)
    (resolved : ∀ objr ∈ obj.relocations,
      (resolveReference obj (packagedHeader obj entryOffset tlsSize) objr.symbolName).isSome)
    (few : obj.relocations.length < 2 ^ 16) {contents : List UInt8}
    (found : obj.code.bind CoffSection.contents = some contents)
    (fits : contents.length ≤ obj.getCodeSize.toNat) :
    ∃ image : VpuImage, image.Of obj ∧ image.entryOffset = entryOffset ∧
      image.tlsSize = tlsSize := by
  have size : (contents ++ List.replicate (obj.getCodeSize.toNat - contents.length)
      (0 : UInt8)).length = obj.getCodeSize.toNat := by
    rw [List.length_append, List.length_replicate, Nat.add_sub_cancel' fits]
  refine ⟨⟨entryOffset, tlsSize,
    obj.relocations.map (packagedRelocation obj (packagedHeader obj entryOffset tlsSize)),
    contents ++ List.replicate (obj.getCodeSize.toNat - contents.length) 0,
    by rwa [List.length_map], size ▸ UInt64.toNat_lt _⟩, ?_, rfl, rfl⟩
  refine ⟨mainFound, tlsFound, ?_, contents, found, fits, rfl⟩
  simp only [VpuImage.header, size, List.length_map, UInt64.ofNat_toNat]
  exact forall₂_resolvesTo_iff.mpr ⟨resolved, rfl⟩

/-- The filled blob is a file of the image. -/
theorem VpuImage.Of.parse_fillBlob {image : VpuImage} {obj : VpuObject} (is : image.Of obj)
    (allocation : BlobAllocation) :
    VpuImage.parse (fillBlob obj image.header allocation).blob.byte = image :=
  (image.parse_eq_image_iff allocation.padding (.holding allocation.contents)).mpr
    fun address _ => is.byte_fillBlob allocation address

/-- An image is the one of an object exactly when packaging the object leaves a blob that
holds it, whatever the blob was allocated with. -/
theorem packageImage_writes_iff (obj : VpuObject) (allocation : BlobAllocation)
    (image : VpuImage) :
    image.Of obj ↔
      (∀ memory buffer, (obj.getCode memory buffer obj.getCodeSize).1 = true) ∧
      ∃ package, packageImage obj allocation = some package ∧ package.success = true ∧
        package.aborted = false ∧
        ∀ padding memory address, image.header.Meaningful address →
          package.blob.byte address = (image.write padding memory).byte address := by
  constructor
  · intro is
    obtain ⟨contents, found, fits, _⟩ := is.code
    refine ⟨fun _ _ => VpuObject.getCode_true_iff.mpr ⟨contents, found, fits⟩, _,
      packageImage_of_lookups is.entry is.tls allocation, ?_⟩
    rw [← is.header_eq]
    refine ⟨is.success allocation, ?_, ?_⟩
    · rw [Bool.eq_false_iff]
      intro aborted
      exact (fillBlob_aborted_iff _ _ _ (is.success allocation)).mp aborted is.same
    · intro padding memory
      exact (image.parse_eq_image_iff padding memory).mp (is.parse_fillBlob allocation)
  · rintro ⟨readable, package, packaged, success, finished, written⟩
    obtain ⟨entryOffset, tlsSize, mainFound, tlsFound, rfl⟩ := packageImage_some packaged
    obtain ⟨contents, found, fits⟩ :=
      VpuObject.getCode_true_iff.mp (readable (.holding fun _ => 0) 0)
    have same : obj.relocations.length =
        (packagedHeader obj entryOffset tlsSize).relocationCount.toNat := by
      by_contra different
      rw [(fillBlob_aborted_iff _ _ _ success).mpr different] at finished
      cases finished
    obtain ⟨built, is, rfl, rfl⟩ := VpuImage.exists_of mainFound tlsFound
      ((fillBlob_success_iff _ _ _).mp success) (same ▸ UInt16.toNat_lt _) found fits
    -- one blob holds both images, and it reads back as either
    have readsBack := (image.parse_eq_image_iff (fun _ => 0) (.holding fun _ => 0)).mpr
      (written _ _)
    rw [← is.header_eq, is.parse_fillBlob] at readsBack
    rwa [← readsBack]

end VpuSim
