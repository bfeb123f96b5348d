import Mathlib.Data.List.TakeWhile
import VpuSim.Image.Header

/-!
# Loading an image

`VpuImageHeader::Load` clears the destination, copies the code and patches it in
place, one relocation after the other. The single fact everything else rests on is
`applyRelocations_eq`: the loop performs the patches of the relocations in front
of the first unsupported one, and succeeds when there is none.
-/

namespace VpuSim

open ByteMemory

def imageRelI386Rel32 : UInt32 := 0x14

def imageRelAmd64Rel32 : UInt32 := 0x4

namespace VpuRelocation

/-- The relocation types that `ApplyRelocation` implements. -/
def Supported (relocation : VpuRelocation) : Prop :=
  relocation.type = imageRelI386Rel32 ∨ relocation.type = imageRelAmd64Rel32

instance (relocation : VpuRelocation) : Decidable relocation.Supported :=
  inferInstanceAs (Decidable (_ ∨ _))

/-- The 64-bit displacement, truncated by the store through a `uint32_t *`. -/
def displacement (relocation : VpuRelocation) : UInt32 :=
  (relocation.referenceOffset - relocation.fixupOffset - 4).toUInt32

/-- The store that patches the code at the fixup. -/
def patch (relocation : VpuRelocation) : Store :=
  .ofNat relocation.fixupOffset.toNat 4 relocation.displacement.toNat

/-- Within two gibibytes the displacement leads from behind the fixup to the reference. -/
theorem fixup_add_displacement {relocation : VpuRelocation}
    (fixup : relocation.fixupOffset.toNat + 4 ≤ 2 ^ 31)
    (reference : relocation.referenceOffset.toNat < 2 ^ 31) :
    (relocation.fixupOffset.toNat : Int) + 4 + relocation.displacement.toBitVec.toInt =
      relocation.referenceOffset.toNat := by
  have word : relocation.displacement.toBitVec.toNat =
      (2 ^ 64 - 4 + (2 ^ 64 - relocation.fixupOffset.toNat
        + relocation.referenceOffset.toNat) % 2 ^ 64) % 2 ^ 64 % 2 ^ 32 := by
    rw [UInt32.toNat_toBitVec, displacement, UInt64.toNat_toUInt32, UInt64.toNat_sub,
      UInt64.toNat_sub]
    rfl
  rw [BitVec.toInt_eq_toNat_cond, word]
  split <;> omega

end VpuRelocation

namespace VpuImageHeader

/-- `base + fixupOffset` is an offset from the buffer, taken to stay in the address space:
one at which the address itself would wrap lies past every `size`. -/
def applyRelocation (base : Memory) (relocation : VpuRelocation) : Bool × Memory :=
  let loc := relocation.fixupOffset.toNat
  if relocation.type = imageRelI386Rel32 ∨ relocation.type = imageRelAmd64Rel32 then
    (true, base.store32 loc
      (relocation.referenceOffset - relocation.fixupOffset - 4).toUInt32)
  else (false, base)

def applyRelocations : List VpuRelocation → Memory → Bool × Memory
  | [], base => (true, base)
  | relocation :: rest, base =>
    match applyRelocation base relocation with
    | (true, base) => applyRelocations rest base
    | (false, base) => (false, base)

/-- `Load`, given the three parts of the image the header heads. -/
def loadParts (header : VpuImageHeader) (relocations : List VpuRelocation)
    (code : Nat → UInt8) (base : Memory) (size : UInt64) : Bool × Memory :=
  if size < header.getImageSize then (false, base)
  else
    let base := base.fill 0 size.toNat 0
    let base := base.copy 0 header.codeSize.toNat code
    applyRelocations relocations base

/-- `Load`, on the bytes that the header pointer `this` points at. -/
def load (image : Nat → UInt8) (base : Memory) (size : UInt64) : Bool × Memory :=
  let header := read image 0
  let relocations := relocationTable image header.relocationCount
  let code := fun k => image (codeOffset header.relocationCount + k)
  header.loadParts relocations code base size

theorem applyRelocation_of_supported (base : Memory) {relocation : VpuRelocation}
    (supported : relocation.Supported) :
    applyRelocation base relocation = (true, base.store relocation.patch) :=
  if_pos supported

theorem applyRelocation_of_not_supported (base : Memory) {relocation : VpuRelocation}
    (unsupported : ¬ relocation.Supported) :
    applyRelocation base relocation = (false, base) :=
  if_neg unsupported

/-- The patches that the loop performs before it stops. -/
def performedPatches (relocations : List VpuRelocation) : List Store :=
  (relocations.takeWhile fun relocation => decide relocation.Supported).map VpuRelocation.patch

theorem applyRelocations_eq (relocations : List VpuRelocation) (base : Memory) :
    applyRelocations relocations base =
      (relocations.all fun relocation => decide relocation.Supported,
        base.storeAll (performedPatches relocations)) := by
  induction relocations generalizing base with
  | nil => simp [applyRelocations, performedPatches]
  | cons relocation rest ih =>
    rw [applyRelocations]
    by_cases supported : relocation.Supported
    · rw [applyRelocation_of_supported base supported]
      simp only [ih, List.all_cons, supported, decide_true, Bool.true_and, performedPatches,
        List.takeWhile_cons, if_true, List.map_cons, Memory.storeAll_cons]
    · rw [applyRelocation_of_not_supported base supported]
      simp [supported, performedPatches]

theorem takeWhile_supported {relocations : List VpuRelocation}
    (supported : ∀ relocation ∈ relocations, relocation.Supported) :
    relocations.takeWhile (fun relocation => decide relocation.Supported) = relocations :=
  List.takeWhile_eq_self_iff.mpr fun _ member => decide_eq_true (supported _ member)

theorem performedPatches_of_all {relocations : List VpuRelocation}
    (supported : ∀ relocation ∈ relocations, relocation.Supported) :
    performedPatches relocations = relocations.map VpuRelocation.patch := by
  rw [performedPatches, takeWhile_supported supported]

theorem loadParts_of_lt (header : VpuImageHeader) (relocations : List VpuRelocation)
    (code : Nat → UInt8) (base : Memory) {size : UInt64} (small : size < header.getImageSize) :
    header.loadParts relocations code base size = (false, base) :=
  if_pos small

/-- The buffer after the code has been copied, before any relocation. -/
def unrelocated (header : VpuImageHeader) (code : Nat → UInt8) (base : Memory)
    (size : UInt64) : Memory :=
  (base.fill 0 size.toNat 0).copy 0 header.codeSize.toNat code

theorem loadParts_of_le (header : VpuImageHeader) (relocations : List VpuRelocation)
    (code : Nat → UInt8) (base : Memory) {size : UInt64} (fits : header.getImageSize ≤ size) :
    header.loadParts relocations code base size =
      (relocations.all fun relocation => decide relocation.Supported,
        (header.unrelocated code base size).storeAll (performedPatches relocations)) := by
  rw [loadParts, if_neg (UInt64.not_lt.mpr fits)]
  exact applyRelocations_eq relocations _

theorem byte_unrelocated (header : VpuImageHeader) (code : Nat → UInt8) (base : Memory)
    (size : UInt64) (address : Nat) :
    (header.unrelocated code base size).byte address =
      if address < header.codeSize.toNat then code address
      else if address < size.toNat then 0 else base.byte address := by
  simp only [unrelocated, Memory.byte_copy, Memory.byte_fill, Nat.zero_le, true_and,
    Nat.zero_add, Nat.sub_zero]

end VpuImageHeader

end VpuSim
