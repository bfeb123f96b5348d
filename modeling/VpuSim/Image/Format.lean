import Mathlib.Data.List.GetD
import VpuSim.Image.Placement

/-!
# The image format

An image says where it is entered, what memory of its own a thread gets, which
relocations there are and what the code is. Its header and its records leave padding
between their fields, in which an image says nothing.
-/

namespace VpuSim

open ByteMemory

namespace VpuRelocation

/-- The bytes of a record that belong to one of its fields. -/
def IsField (k : Nat) : Prop := k < 4 ∨ 8 ≤ k

instance (k : Nat) : Decidable (IsField k) := inferInstanceAs (Decidable (_ ∨ _))

theorem read_eq_iff {first second : Nat → UInt8} {offset : Nat} :
    read first offset = read second offset ↔
      ∀ k < 24, IsField k → first (offset + k) = second (offset + k) := by
  simp only [read, mk.injEq, load32_eq_iff, load64_eq_iff]
  constructor
  · rintro ⟨type, fixup, reference⟩ k bound field
    rcases field with inType | behind
    · exact type k inType
    · rcases Nat.lt_or_ge k 16 with inFixup | inReference
      · have same := fixup (k - 8) (by omega)
        rwa [Nat.add_assoc, Nat.add_sub_cancel' behind] at same
      · have same := reference (k - 16) (by omega)
        rwa [Nat.add_assoc, Nat.add_sub_cancel' inReference] at same
  · intro agree
    refine ⟨?_, ?_, ?_⟩
    · intro k bound
      exact agree k (by omega) (.inl bound)
    · intro k bound
      rw [Nat.add_assoc]
      exact agree (8 + k) (by omega) (.inr (Nat.le_add_right _ _))
    · intro k bound
      rw [Nat.add_assoc]
      exact agree (16 + k) (by omega) (.inr (by omega))

end VpuRelocation

theorem VpuImageHeader.read_eq_iff {first second : Nat → UInt8} :
    read first 0 = read second 0 ↔ ∀ k < 26, first k = second k := by
  simp only [read, mk.injEq, load64_eq_iff, load16_eq_iff, Nat.zero_add]
  constructor
  · rintro ⟨code, entry, tls, count⟩ k bound
    rcases Nat.lt_or_ge k 8 with inCode | k8
    · exact code k inCode
    rcases Nat.lt_or_ge k 16 with inEntry | k16
    · have same := entry (k - 8) (by omega)
      rwa [Nat.add_sub_cancel' k8] at same
    rcases Nat.lt_or_ge k 24 with inTls | k24
    · have same := tls (k - 16) (by omega)
      rwa [Nat.add_sub_cancel' k16] at same
    · have same := count (k - 24) (by omega)
      rwa [Nat.add_sub_cancel' k24] at same
  · intro agree
    refine ⟨?_, ?_, ?_, ?_⟩
    all_goals
      intro k bound
      exact agree _ (by omega)

/-- The bytes in which an image with this header says something. -/
def VpuImageHeader.Meaningful (header : VpuImageHeader) (address : Nat) : Prop :=
  address < 26 ∨
    (∃ index < header.relocationCount.toNat, ∃ k < 24,
      VpuRelocation.IsField k ∧ address = relocationOffset index + k) ∨
    ∃ k < header.codeSize.toNat, address = codeOffset header.relocationCount + k

instance (header : VpuImageHeader) (address : Nat) : Decidable (header.Meaningful address) := by
  unfold VpuImageHeader.Meaningful
  infer_instance

/-- What an image says. -/
@[ext]
structure VpuImage where
  entryOffset : UInt64
  tlsSize : UInt64
  relocations : List VpuRelocation
  code : List UInt8
  few : relocations.length < 2 ^ 16
  addressable : code.length < 2 ^ 64

namespace VpuImage

def header (image : VpuImage) : VpuImageHeader where
  codeSize := UInt64.ofNat image.code.length
  entryOffset := image.entryOffset
  tlsSize := image.tlsSize
  relocationCount := UInt16.ofNat image.relocations.length

theorem toNat_codeSize (image : VpuImage) : image.header.codeSize.toNat = image.code.length :=
  UInt64.toNat_ofNat_of_lt' image.addressable

theorem toNat_count (image : VpuImage) :
    image.header.relocationCount.toNat = image.relocations.length :=
  UInt16.toNat_ofNat_of_lt' image.few

/-- What the image in these bytes says. -/
def parse (contents : Nat → UInt8) : VpuImage where
  entryOffset := (VpuImageHeader.read contents 0).entryOffset
  tlsSize := (VpuImageHeader.read contents 0).tlsSize
  relocations := VpuImageHeader.table contents
  code := (List.range (VpuImageHeader.read contents 0).codeSize.toNat).map fun k =>
    contents (codeOffset (VpuImageHeader.read contents 0).relocationCount + k)
  few := by
    rw [VpuImageHeader.table, relocationTable, List.length_map, List.length_range]
    exact UInt16.toNat_lt _
  addressable := by
    rw [List.length_map, List.length_range]
    exact UInt64.toNat_lt _

/-- The records one behind the other, the first of them as entry `index`. -/
def writeTable : List VpuRelocation → Nat → Memory → Memory
  | [], _, memory => memory
  | relocation :: rest, index, memory =>
    writeTable rest (index + 1) (relocation.write memory (relocationOffset index))

/-- The image in memory from address 0 on, its header assigned with this padding. -/
def write (image : VpuImage) (padding : Nat → UInt8) (memory : Memory) : Memory :=
  (writeTable image.relocations 0 (VpuImageHeader.write memory 0 image.header padding)).copy
    (codeOffset image.header.relocationCount) image.code.length fun k => image.code.getD k 0

variable {first second : Nat → UInt8}

theorem length_code_parse (contents : Nat → UInt8) :
    (parse contents).code.length = (VpuImageHeader.read contents 0).codeSize.toNat := by
  rw [parse, List.length_map, List.length_range]

theorem getElem_code_parse (contents : Nat → UInt8) {k : Nat}
    (bound : k < (parse contents).code.length) :
    (parse contents).code[k] =
      contents (codeOffset (VpuImageHeader.read contents 0).relocationCount + k) := by
  simp only [parse, List.getElem_map, List.getElem_range]

theorem header_parse (contents : Nat → UInt8) :
    (parse contents).header = VpuImageHeader.read contents 0 := by
  simp only [header, parse, VpuImageHeader.table, relocationTable, List.length_map,
    List.length_range, UInt64.ofNat_toNat, UInt16.ofNat_toNat]

/-- Two files are of the same image exactly when they differ in nothing but what an image
does not say. -/
theorem parse_eq_iff : parse first = parse second ↔
    ∀ address, (VpuImageHeader.read first 0).Meaningful address →
      first address = second address := by
  constructor
  · intro same address meaningful
    have header : VpuImageHeader.read first 0 = VpuImageHeader.read second 0 := by
      rw [← header_parse, ← header_parse, same]
    rcases meaningful with inHeader | ⟨index, inTable, k, bound, field, rfl⟩ | ⟨k, inCode, rfl⟩
    · exact VpuImageHeader.read_eq_iff.mp header address inHeader
    · have tables : VpuImageHeader.table first = VpuImageHeader.table second :=
        congrArg VpuImage.relocations same
      rw [VpuImageHeader.table, VpuImageHeader.table, ← header] at tables
      have records := List.map_inj_left.mp tables index (List.mem_range.mpr inTable)
      exact VpuRelocation.read_eq_iff.mp records k bound field
    · have codes : (parse first).code = (parse second).code := congrArg VpuImage.code same
      simp only [parse, ← header] at codes
      exact List.map_inj_left.mp codes k (List.mem_range.mpr inCode)
  · intro agree
    have header : VpuImageHeader.read first 0 = VpuImageHeader.read second 0 :=
      VpuImageHeader.read_eq_iff.mpr fun k bound => agree k (.inl bound)
    have tables : VpuImageHeader.table first = VpuImageHeader.table second := by
      rw [VpuImageHeader.table, VpuImageHeader.table, ← header]
      apply List.map_congr_left
      intro index member
      apply VpuRelocation.read_eq_iff.mpr
      intro k bound field
      exact agree _ (.inr (.inl ⟨index, List.mem_range.mp member, k, bound, field, rfl⟩))
    simp only [parse, mk.injEq, ← header, tables, true_and]
    apply List.map_congr_left
    intro k member
    exact agree _ (.inr (.inr ⟨k, List.mem_range.mp member, rfl⟩))

theorem byte_writeTable_outside (relocations : List VpuRelocation) (index : Nat)
    (memory : Memory) {address : Nat} (outside : address < relocationOffset index ∨
      relocationOffset (index + relocations.length) ≤ address) :
    (writeTable relocations index memory).byte address = memory.byte address := by
  induction relocations generalizing index memory with
  | nil => rfl
  | cons relocation rest ih =>
    have next := relocationOffset_succ index
    have last := relocationOffset_mono (Nat.le_add_right (index + 1) rest.length)
    rw [List.length_cons, Nat.add_comm rest.length, ← Nat.add_assoc] at outside
    rw [writeTable, ih _ _ (by omega), VpuRelocation.byte_write_outside _ _ _ (by omega)]

theorem read_writeTable (relocations : List VpuRelocation) (index : Nat) (memory : Memory)
    (position : Nat) (bound : position < relocations.length) :
    VpuRelocation.read (writeTable relocations index memory).byte
      (relocationOffset (index + position)) = relocations[position] := by
  induction relocations generalizing index memory position with
  | nil => cases bound
  | cons relocation rest ih =>
    cases position with
    | zero =>
      refine Eq.trans ?_ (VpuRelocation.read_write memory (relocationOffset index) relocation)
      apply VpuRelocation.read_congr
      intro k inRecord
      apply byte_writeTable_outside rest (index + 1)
      rw [relocationOffset_succ]
      exact .inl (Nat.add_lt_add_left inRecord _)
    | succ position =>
      have later := ih (index + 1) (relocation.write memory (relocationOffset index)) position
        (Nat.lt_of_succ_lt_succ bound)
      rwa [Nat.add_assoc, Nat.add_comm 1] at later

section Write

variable (image : VpuImage) (padding : Nat → UInt8) (memory : Memory)

theorem byte_write_before {address : Nat}
    (before : address < codeOffset image.header.relocationCount) :
    (image.write padding memory).byte address =
      (writeTable image.relocations 0
        (VpuImageHeader.write memory 0 image.header padding)).byte address := by
  rw [write, Memory.byte_copy, if_neg (by omega)]

theorem byte_write_code {k : Nat} (inCode : k < image.code.length) :
    (image.write padding memory).byte (codeOffset image.header.relocationCount + k) =
      image.code.getD k 0 := by
  rw [write, Memory.byte_copy, if_pos (by omega), Nat.add_sub_cancel_left]

theorem byte_write_behind {address : Nat}
    (behind : codeOffset image.header.relocationCount + image.code.length ≤ address) :
    (image.write padding memory).byte address = memory.byte address := by
  have code : codeOffset image.header.relocationCount =
      relocationOffset (0 + image.relocations.length) := by
    rw [codeOffset, toNat_count, Nat.zero_add]
  have table := relocationOffset_mono (Nat.zero_le (0 + image.relocations.length))
  simp only [relocationOffset, sizeofVpuImageHeader, Nat.zero_mul] at table
  rw [write, Memory.byte_copy, if_neg (by omega), byte_writeTable_outside _ _ _ (by omega),
    VpuImageHeader.byte_write_outside]
  rw [code, relocationOffset, sizeofVpuImageHeader] at behind
  omega

theorem read_write :
    VpuImageHeader.read (image.write padding memory).byte 0 = image.header := by
  refine Eq.trans ?_ (VpuImageHeader.read_write memory 0 image.header padding)
  apply VpuImageHeader.read_congr
  intro k bound
  have inHeader : 0 + k < relocationOffset 0 := by
    simp only [relocationOffset, sizeofVpuImageHeader]
    omega
  have first := relocationOffset_mono (Nat.zero_le image.header.relocationCount.toNat)
  rw [byte_write_before _ _ _ (Nat.lt_of_lt_of_le inHeader first),
    byte_writeTable_outside _ _ _ (.inl inHeader)]

theorem table_write :
    VpuImageHeader.table (image.write padding memory).byte = image.relocations := by
  rw [VpuImageHeader.table, read_write]
  apply relocationTable_eq image.toNat_count.symm
  intro index bound
  refine Eq.trans ?_ ((congrArg (VpuRelocation.read _) (by rw [Nat.zero_add])).trans
    (read_writeTable image.relocations 0 (VpuImageHeader.write memory 0 image.header padding)
      index bound))
  apply VpuRelocation.read_congr
  intro k inRecord
  have behind := relocationOffset_mono (Nat.succ_le_of_lt bound)
  rw [relocationOffset_succ] at behind
  apply byte_write_before
  rw [codeOffset, toNat_count]
  exact Nat.lt_of_lt_of_le (Nat.add_lt_add_left inRecord _) behind

/-- What is written reads back. -/
theorem parse_write : parse (image.write padding memory).byte = image := by
  apply VpuImage.ext
  · exact congrArg VpuImageHeader.entryOffset (read_write image padding memory)
  · exact congrArg VpuImageHeader.tlsSize (read_write image padding memory)
  · exact table_write image padding memory
  · apply List.ext_getElem
    · rw [length_code_parse, read_write, toNat_codeSize]
    · intro k inParsed inCode
      rw [getElem_code_parse, read_write, byte_write_code _ _ _ inCode,
        List.getD_eq_getElem _ _ inCode]

/-- Bytes are a file of the image exactly when they differ from a written one in nothing
but what an image does not say. -/
theorem parse_eq_image_iff {contents : Nat → UInt8} : parse contents = image ↔
    ∀ address, image.header.Meaningful address →
      contents address = (image.write padding memory).byte address := by
  have written := @parse_eq_iff (image.write padding memory).byte contents
  rw [parse_write, read_write] at written
  rw [eq_comm, written]
  exact forall₂_congr fun _ _ => eq_comm

end Write

/-- An image in memory says all that is known of it: it reads back, and writing what was
read puts every meaningful byte back in its place and nothing behind the code. -/
theorem roundTrip :
    (∀ (image : VpuImage) (padding : Nat → UInt8) (memory : Memory) (contents : Nat → UInt8),
      parse contents = image ↔ ∀ address, image.header.Meaningful address →
        contents address = (image.write padding memory).byte address) ∧
      ∀ (contents padding : Nat → UInt8) (memory : Memory) (address : Nat),
        ((VpuImageHeader.read contents 0).Meaningful address →
          ((parse contents).write padding memory).byte address = contents address) ∧
        (codeOffset (VpuImageHeader.read contents 0).relocationCount
            + (VpuImageHeader.read contents 0).codeSize.toNat ≤ address →
          ((parse contents).write padding memory).byte address = memory.byte address) := by
  refine ⟨fun image padding memory _ => parse_eq_image_iff image padding memory, ?_⟩
  intro contents padding memory address
  constructor
  · intro meaningful
    have same := (parse_eq_image_iff (parse contents) padding memory).mp rfl address
    rw [header_parse] at same
    exact (same meaningful).symm
  · intro behind
    apply byte_write_behind
    rwa [header_parse, length_code_parse]

/-- The loader looks at what a file says and at nothing else in it. -/
theorem load_of_meaningful {image other : Nat → UInt8}
    (agree : ∀ address, (VpuImageHeader.read image 0).Meaningful address →
      image address = other address) (base : Memory) (size : UInt64) :
    (VpuImageHeader.load other base size).1 = (VpuImageHeader.load image base size).1 ∧
      ∀ address, (VpuImageHeader.load other base size).2.byte address =
        (VpuImageHeader.load image base size).2.byte address := by
  have same : parse image = parse other := parse_eq_iff.mpr agree
  have header : VpuImageHeader.read other 0 = VpuImageHeader.read image 0 := by
    rw [← header_parse, ← header_parse, same]
  apply VpuImageHeader.load_congr header (congrArg VpuImage.relocations same).symm
  intro k inCode
  exact (agree _ (.inr (.inr ⟨k, inCode, rfl⟩))).symm

/-- Eight bytes of code with two fixups. -/
def smallImage : VpuImage :=
  ⟨0, 72, [⟨4, 0, 4096⟩, ⟨4, 4, 0⟩], List.replicate 8 0x90, by decide, by decide⟩

/-- Two files of one image, each with padding of its own. -/
theorem load_of_meaningful_small :
    let image := (smallImage.write (fun _ => 0) (.holding fun _ => 0)).byte
    let other := (smallImage.write (fun _ => 0xCD) (.holding fun _ => 0xCC)).byte
    ∀ base size, (VpuImageHeader.load other base size).1 =
        (VpuImageHeader.load image base size).1 ∧
      ∀ address, (VpuImageHeader.load other base size).2.byte address =
        (VpuImageHeader.load image base size).2.byte address :=
  load_of_meaningful (parse_eq_iff.mp (by rw [parse_write, parse_write]))

/-- What a thread finds from the base of an image on. -/
def loaded (image : VpuImage) : Nat → UInt8 :=
  replay (fun k => image.code.getD k 0) (VpuImageHeader.performedPatches image.relocations)

theorem byte_load_write (image : VpuImage) (padding : Nat → UInt8) (file base : Memory)
    {size : UInt64} (fits : image.header.getImageSize ≤ size) {k : Nat} (inBuffer : k < size.toNat) :
    (VpuImageHeader.load (image.write padding file).byte base size).2.byte k = image.loaded k := by
  have header := read_write image padding file
  rw [VpuImageHeader.load_of_le _ base (by rwa [header]), Memory.byte_storeAll, table_write]
  apply replay_congr
  rw [VpuImageHeader.byte_copied, header, toNat_codeSize]
  split
  · rename_i inCode
    exact byte_write_code image padding file inCode
  · rename_i behind
    rw [List.getD_eq_default _ _ (Nat.not_lt.mp behind)]

section Placed

variable {image : VpuImage} (fits : image.header.FitsAddressSpace)
  (windows : ∀ relocation ∈ image.relocations,
    relocation.fixupOffset.toNat + 4 ≤ image.header.getImageSize.toNat)

include fits windows

/-- Wherever an image is loaded, and whatever was there, in the padding of its file and
around its buffer, it is loaded alike, and nothing around its buffer changes. -/
theorem loadAt_write (padding : Nat → UInt8) (file memory : Memory) (base : UInt64) :
    (VpuImageHeader.loadAt (image.write padding file).byte memory base
        image.header.getImageSize).1 =
        (image.relocations.all fun relocation => decide relocation.Supported) ∧
      ∀ address, (VpuImageHeader.loadAt (image.write padding file).byte memory base
          image.header.getImageSize).2.byte address =
        if base.toNat ≤ address ∧ address < base.toNat + image.header.getImageSize.toNat then
          image.loaded (address - base.toNat)
        else memory.byte address := by
  have header := read_write image padding file
  refine ⟨?_, ?_⟩
  · simp only [VpuImageHeader.loadAt_eq, VpuImageHeader.accepts, header, UInt64.le_refl,
      decide_true, Bool.true_and, table_write]
  · intro address
    split
    · rename_i inside
      have placed := VpuImageHeader.byte_loadAt (image.write padding file).byte memory base
        image.header.getImageSize (address - base.toNat)
      rw [Nat.add_sub_cancel' inside.1] at placed
      rw [placed]
      exact byte_load_write image padding file _ (UInt64.le_refl _) (by omega)
    · rename_i outside
      have keeps : VpuImageHeader.KeepsInside (image.write padding file).byte := by
        refine ⟨?_, ?_⟩
        · rwa [header]
        · rw [header, table_write]
          exact windows
      have kept := @VpuImageHeader.KeepsInside.byte_loadAt_outside _ memory base keeps address
      rw [header] at kept
      exact kept (by omega)

end Placed

theorem loadAt_write_small :
    let file := (smallImage.write (fun _ => 0xCD) (.holding fun _ => 0xCC)).byte
    let memory := Memory.holding fun _ => 0xFF
    (VpuImageHeader.loadAt file memory 65536 smallImage.header.getImageSize).1 = true ∧
      ∀ address, (VpuImageHeader.loadAt file memory 65536
          smallImage.header.getImageSize).2.byte address =
        if 65536 ≤ address ∧ address < 65536 + smallImage.header.getImageSize.toNat then
          smallImage.loaded (address - 65536)
        else 0xFF :=
  loadAt_write (by decide) (by decide) _ _ _ _

end VpuImage

end VpuSim
