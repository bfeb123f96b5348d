import VpuSim.Memory.LittleEndian
import VpuSim.Memory.Rounding

/-!
# The image header and its relocation records

The layout is the one of the 64-bit build: the header takes 32 bytes and a
relocation record 24, both with padding that no load reads. An image is the
header, the relocation table right after it, and the code right after the table.
-/

namespace VpuSim

open ByteMemory Rounding

structure VpuImageHeader where
  codeSize : UInt64
  entryOffset : UInt64
  tlsSize : UInt64
  relocationCount : UInt16
  deriving DecidableEq

structure VpuRelocation where
  type : UInt32
  /-- offset from base to fixup -/
  fixupOffset : UInt64
  /-- offset from base to reference -/
  referenceOffset : UInt64
  deriving DecidableEq

def sizeofVpuImageHeader : Nat := 32

def sizeofVpuRelocation : Nat := 24

namespace VpuImageHeader

def kVpuImageCodeAlignment : UInt64 := 4096

def kVpuImageDataAlignment : UInt64 := 4096

def alignUp (value alignment : UInt64) : UInt64 :=
  let mask := alignment - 1
  (value + mask) &&& ~~~mask

def getSerializationSize (header : VpuImageHeader) : UInt64 :=
  UInt64.ofNat sizeofVpuImageHeader
    + header.relocationCount.toUInt64 * UInt64.ofNat sizeofVpuRelocation + header.codeSize

def getTlsOffset (header : VpuImageHeader) : UInt64 :=
  alignUp header.codeSize kVpuImageCodeAlignment

def getImageSize (header : VpuImageHeader) : UInt64 :=
  alignUp header.codeSize kVpuImageCodeAlignment + alignUp header.tlsSize kVpuImageDataAlignment

def getEntryOffset (header : VpuImageHeader) : UInt64 := header.entryOffset

/-- The header at `offset`, field by field. -/
def read (contents : Nat → UInt8) (offset : Nat) : VpuImageHeader where
  codeSize := load64 contents offset
  entryOffset := load64 contents (offset + 8)
  tlsSize := load64 contents (offset + 16)
  relocationCount := load16 contents (offset + 24)

/-- The fields of a header. -/
def writeFields (memory : Memory) (offset : Nat) (header : VpuImageHeader) : Memory :=
  (((memory.store64 offset header.codeSize).store64 (offset + 8) header.entryOffset).store64
    (offset + 16) header.tlsSize).store16 (offset + 24) header.relocationCount

/-- Assignment of a whole header through a pointer. It leaves open what the six bytes of
padding behind the fields hold afterwards, so they are given by `padding`. -/
def write (memory : Memory) (offset : Nat) (header : VpuImageHeader) (padding : Nat → UInt8) :
    Memory :=
  (writeFields memory offset header).copy (offset + 26) 6 padding

theorem read_congr {first second : Nat → UInt8} {offset : Nat}
    (agree : ∀ k < 26, first (offset + k) = second (offset + k)) :
    read first offset = read second offset := by
  have shifted : ∀ start width, start + width ≤ 26 →
      ∀ k < width, first (offset + start + k) = second (offset + start + k) := by
    intro start width fits k bound
    rw [Nat.add_assoc]
    exact agree (start + k) (by omega)
  simp only [read, mk.injEq]
  exact ⟨load64_congr (shifted 0 8 (by omega)), load64_congr (shifted 8 8 (by omega)),
    load64_congr (shifted 16 8 (by omega)), load16_congr (shifted 24 2 (by omega))⟩

theorem byte_write_outside (memory : Memory) (offset : Nat) (header : VpuImageHeader)
    (padding : Nat → UInt8) {address : Nat}
    (outside : address < offset ∨ offset + 32 ≤ address) :
    (write memory offset header padding).byte address = memory.byte address := by
  rw [write, Memory.byte_copy, if_neg (by omega), writeFields,
    Memory.byte_store16_outside _ _ _ (by omega), Memory.byte_store64_outside _ _ _ (by omega),
    Memory.byte_store64_outside _ _ _ (by omega), Memory.byte_store64_outside _ _ _ (by omega)]

theorem mem_log_write {memory : Memory} {offset : Nat} {header : VpuImageHeader}
    {padding : Nat → UInt8} {store : Store}
    (member : store ∈ (write memory offset header padding).log) :
    store ∈ memory.log ∨ store.LiesIn offset 32 := by
  simp only [write, writeFields, Memory.log_copy, Memory.log_store16, Memory.log_store64,
    List.mem_append, List.mem_singleton] at member
  rcases member with ((((inMemory | rfl) | rfl) | rfl) | rfl) | rfl
  · exact .inl inMemory
  all_goals
    right
    simp only [Store.LiesIn, Store.ofNat_offset, Store.ofNat_length]
    omega

theorem read_writeFields (memory : Memory) (offset : Nat) (header : VpuImageHeader) :
    read (writeFields memory offset header).byte offset = header := by
  have count : load16 (writeFields memory offset header).byte (offset + 24)
      = header.relocationCount := Memory.load16_store16 _ _ _
  have tls : load64 (writeFields memory offset header).byte (offset + 16) = header.tlsSize := by
    rw [writeFields, Memory.load64_store16_apart _ _ _ (by omega), Memory.load64_store64]
  have entry : load64 (writeFields memory offset header).byte (offset + 8) =
      header.entryOffset := by
    rw [writeFields, Memory.load64_store16_apart _ _ _ (by omega),
      Memory.load64_store64_apart _ _ _ (by omega), Memory.load64_store64]
  have code : load64 (writeFields memory offset header).byte offset = header.codeSize := by
    rw [writeFields, Memory.load64_store16_apart _ _ _ (by omega),
      Memory.load64_store64_apart _ _ _ (by omega), Memory.load64_store64_apart _ _ _ (by omega),
      Memory.load64_store64]
  rw [read, count, tls, entry, code]

theorem read_write (memory : Memory) (offset : Nat) (header : VpuImageHeader)
    (padding : Nat → UInt8) : read (write memory offset header padding).byte offset = header := by
  refine (read_congr ?_).trans (read_writeFields memory offset header)
  intro k bound
  rw [write, Memory.byte_copy, if_neg (by omega)]

end VpuImageHeader

namespace VpuRelocation

def read (contents : Nat → UInt8) (offset : Nat) : VpuRelocation where
  type := load32 contents offset
  fixupOffset := load64 contents (offset + 8)
  referenceOffset := load64 contents (offset + 16)

theorem read_congr {first second : Nat → UInt8} {offset : Nat}
    (agree : ∀ k < 24, first (offset + k) = second (offset + k)) :
    read first offset = read second offset := by
  have shifted : ∀ start width, start + width ≤ 24 →
      ∀ k < width, first (offset + start + k) = second (offset + start + k) := by
    intro start width fits k bound
    rw [Nat.add_assoc]
    exact agree (start + k) (by omega)
  simp only [read, mk.injEq]
  exact ⟨load32_congr (shifted 0 4 (by omega)), load64_congr (shifted 8 8 (by omega)),
    load64_congr (shifted 16 8 (by omega))⟩

/-- The three assignments that fill a record. -/
def write (memory : Memory) (offset : Nat) (relocation : VpuRelocation) : Memory :=
  ((memory.store64 (offset + 8) relocation.fixupOffset).store32 offset relocation.type).store64
    (offset + 16) relocation.referenceOffset

theorem byte_write_outside (memory : Memory) (offset : Nat) (relocation : VpuRelocation)
    {address : Nat} (outside : address < offset ∨ offset + 24 ≤ address) :
    (write memory offset relocation).byte address = memory.byte address := by
  rw [write, Memory.byte_store64_outside _ _ _ (by omega),
    Memory.byte_store32_outside _ _ _ (by omega), Memory.byte_store64_outside _ _ _ (by omega)]

theorem mem_log_write {memory : Memory} {offset : Nat} {relocation : VpuRelocation}
    {store : Store} (member : store ∈ (write memory offset relocation).log) :
    store ∈ memory.log ∨ store.LiesIn offset 24 := by
  simp only [write, Memory.log_store32, Memory.log_store64, List.mem_append,
    List.mem_singleton] at member
  rcases member with ((inMemory | rfl) | rfl) | rfl
  · exact .inl inMemory
  all_goals
    right
    simp only [Store.LiesIn, Store.ofNat_offset, Store.ofNat_length]
    omega

theorem read_write (memory : Memory) (offset : Nat) (relocation : VpuRelocation) :
    read (write memory offset relocation).byte offset = relocation := by
  have reference : load64 (write memory offset relocation).byte (offset + 16)
      = relocation.referenceOffset := Memory.load64_store64 _ _ _
  have type : load32 (write memory offset relocation).byte offset = relocation.type := by
    rw [write, Memory.load32_store64_apart _ _ _ (by omega), Memory.load32_store32]
  have fixup : load64 (write memory offset relocation).byte (offset + 8)
      = relocation.fixupOffset := by
    rw [write, Memory.load64_store64_apart _ _ _ (by omega),
      Memory.load64_store32_apart _ _ _ (by omega), Memory.load64_store64]
  rw [read, type, fixup, reference]

end VpuRelocation

/-- Where entry `index` of the relocation table of an image lies. -/
def relocationOffset (index : Nat) : Nat :=
  sizeofVpuImageHeader + index * sizeofVpuRelocation

theorem relocationOffset_mono {first second : Nat} (le : first ≤ second) :
    relocationOffset first ≤ relocationOffset second :=
  Nat.add_le_add_left (Nat.mul_le_mul_right _ le) _

theorem relocationOffset_succ (index : Nat) :
    relocationOffset (index + 1) = relocationOffset index + 24 := by
  simp only [relocationOffset, sizeofVpuRelocation]
  omega

/-- Where the code lies in an image with `count` relocations. -/
def codeOffset (count : UInt16) : Nat := relocationOffset count.toNat

/-- The entries that the table of the image at address 0 holds. -/
def relocationTable (image : Nat → UInt8) (count : UInt16) : List VpuRelocation :=
  (List.range count.toNat).map fun index => VpuRelocation.read image (relocationOffset index)

theorem relocationTable_eq {image : Nat → UInt8} {count : UInt16}
    {entries : List VpuRelocation} (length : entries.length = count.toNat)
    (recorded : ∀ index (bound : index < entries.length),
      VpuRelocation.read image (relocationOffset index) = entries[index]) :
    relocationTable image count = entries := by
  apply List.ext_getElem
  · simp [relocationTable, length]
  · intro index _ bound
    simpa [relocationTable] using recorded index bound

namespace VpuImageHeader

theorem toNat_alignUp_4096 (value : UInt64) :
    (alignUp value 4096).toNat = (value.toNat + 4095) % 2 ^ 64 / 4096 * 4096 :=
  @toNat_mask_uint64 12 (by decide) value 4095 (by decide)

/-- Without wrap-around the mask formula rounds up to the page. -/
theorem toNat_alignUp {value : UInt64} (fits : value.toNat + 4095 < 2 ^ 64) :
    (alignUp value 4096).toNat = roundUp 4096 value.toNat := by
  rw [toNat_alignUp_4096, Nat.mod_eq_of_lt fits, roundUp_eq]

/-- Past the last page of the address space it wraps to zero. -/
theorem alignUp_eq_zero {value : UInt64} (past : 2 ^ 64 - 4095 ≤ value.toNat) :
    alignUp value 4096 = 0 := by
  rw [← UInt64.toNat_inj, toNat_alignUp_4096]
  exact @mask_wraps 64 12 value.toNat (by omega) value.toNat_lt

/-- The sizes for which no rounding and no sum of the layout wraps. -/
def FitsAddressSpace (header : VpuImageHeader) : Prop :=
  header.codeSize.toNat + 4095 < 2 ^ 64 ∧ header.tlsSize.toNat + 4095 < 2 ^ 64 ∧
    roundUp 4096 header.codeSize.toNat + roundUp 4096 header.tlsSize.toNat < 2 ^ 64

instance (header : VpuImageHeader) : Decidable header.FitsAddressSpace := by
  unfold FitsAddressSpace roundUp
  infer_instance

theorem toNat_getTlsOffset {header : VpuImageHeader} (fits : header.FitsAddressSpace) :
    header.getTlsOffset.toNat = roundUp 4096 header.codeSize.toNat :=
  toNat_alignUp fits.1

theorem toNat_getImageSize {header : VpuImageHeader} (fits : header.FitsAddressSpace) :
    header.getImageSize.toNat =
      roundUp 4096 header.codeSize.toNat + roundUp 4096 header.tlsSize.toNat := by
  have sum := fits.2.2
  rw [getImageSize, UInt64.toNat_add, kVpuImageCodeAlignment, kVpuImageDataAlignment,
    toNat_alignUp fits.1, toNat_alignUp fits.2.1, Nat.mod_eq_of_lt sum]

/-- The code and the TLS block are laid out one behind the other. -/
theorem stacked {header : VpuImageHeader} (fits : header.FitsAddressSpace) :
    Stacked 4096 header.codeSize.toNat header.tlsSize.toNat header.getTlsOffset.toNat
      header.getImageSize.toNat := by
  rw [toNat_getTlsOffset fits, toNat_getImageSize fits]
  exact stacked_roundUp (by decide) _ _

theorem codeSize_le_getTlsOffset {header : VpuImageHeader} (fits : header.FitsAddressSpace) :
    header.codeSize.toNat ≤ header.getTlsOffset.toNat :=
  (stacked fits).isLeast_start.1.2

theorem getTlsOffset_add_tlsSize_le {header : VpuImageHeader} (fits : header.FitsAddressSpace) :
    header.getTlsOffset.toNat + header.tlsSize.toNat ≤ header.getImageSize.toNat :=
  (stacked fits).start_add_le_finish

theorem codeSize_le_of_fits {header : VpuImageHeader} {size : UInt64}
    (fits : header.FitsAddressSpace) (large : header.getImageSize ≤ size) :
    header.codeSize ≤ size := by
  have code := codeSize_le_getTlsOffset fits
  have tls := getTlsOffset_add_tlsSize_le fits
  rw [UInt64.le_iff_toNat_le] at large ⊢
  omega

end VpuImageHeader

end VpuSim
