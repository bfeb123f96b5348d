import VpuSim.Image.Layout
import VpuSim.Shader.SameProgram

/-!
# One layout at two widths

The header computes the layout of an image in 64 bits, a shader binary the one of
an opened object in 32. Both stack the TLS block on the code, and the two sizes
determine the result: where 32 bits hold it, the numbers are the same.
-/

namespace VpuSim

open Rounding

/-- `binary` was opened, whatever it held before, on a file whose `.text` and
`g_tls` have the sizes in `header`. -/
def VpuShaderBinary.OpenedAs (binary : VpuShaderBinary) (header : VpuImageHeader) : Prop :=
  ∃ (before : VpuShaderBinary) (file : CoffObject) (fuel : Nat) (text : CoffSection),
    before.openFile fuel (.coff file) = some (true, binary) ∧
      findText file.sections none = (true, some text) ∧
      text.size = header.codeSize ∧ binary.tlsSize.toUInt64 = header.tlsSize

/-- The 32-bit path computes the numbers of the header. -/
structure VpuImageHeader.SameLayout (header : VpuImageHeader) : Prop where
  codeRounded : (VpuShaderBinary.alignSectionSize header.codeSize.toUInt32).toNat =
    (alignUp header.codeSize 4096).toNat
  tlsRounded : (VpuShaderBinary.alignSectionSize header.tlsSize.toUInt32).toNat =
    (alignUp header.tlsSize 4096).toNat
  tlsOffset : ∀ binary : VpuShaderBinary, binary.OpenedAs header →
    binary.getTlsOffset.toNat = header.getTlsOffset.toNat
  imageSize : ∀ binary : VpuShaderBinary, binary.OpenedAs header →
    binary.getImageSize.toNat = header.getImageSize.toNat

namespace VpuShaderBinary

/-- Every call of `Open` that succeeds sets the layout anew, whatever the binary held. -/
theorem sizes_of_openFile {before binary : VpuShaderBinary} {file : CoffObject} {fuel : Nat}
    (opened : before.openFile fuel (.coff file) = some (true, binary)) {text : CoffSection}
    (textFound : findText file.sections none = (true, some text)) :
    binary.codeSize = alignSectionSize text.size.toUInt32 ∧
      binary.tlsOffset = binary.codeSize ∧
      binary.dataSize = alignSectionSize binary.tlsSize := by
  obtain ⟨tlsSize, mainOffset, own, relocations, _, _, found, _, rfl⟩ := openFile_true opened
  rw [textFound] at found
  cases found
  exact ⟨rfl, rfl, rfl⟩

/-- An opened binary has its TLS block stacked on its code, as long as the rounded
sum is a 32-bit number. -/
theorem stacked_of_openFile {before binary : VpuShaderBinary} {file : CoffObject} {fuel : Nat}
    (opened : before.openFile fuel (.coff file) = some (true, binary)) {text : CoffSection}
    (textFound : findText file.sections none = (true, some text))
    (sum : roundUp 4096 text.size.toNat + roundUp 4096 binary.tlsSize.toNat < 2 ^ 32) :
    Stacked 4096 text.size.toNat binary.tlsSize.toNat binary.getTlsOffset.toNat
      binary.getImageSize.toNat := by
  obtain ⟨codeSize, tlsOffset, dataSize⟩ := sizes_of_openFile opened textFound
  have start : binary.getTlsOffset.toNat = roundUp 4096 text.size.toNat := by
    rw [getTlsOffset, tlsOffset, codeSize]
    exact toNat_alignSectionSize_toUInt32 (by omega)
  rw [start, toNat_getImageSize codeSize dataSize sum]
  exact stacked_roundUp (by decide) _ _

/-- It is the layout that the header of the same sizes computes. -/
theorem OpenedAs.layout_eq {binary : VpuShaderBinary} {header : VpuImageHeader}
    (opened : binary.OpenedAs header) (fits : header.FitsAddressSpace)
    (sum : roundUp 4096 header.codeSize.toNat + roundUp 4096 header.tlsSize.toNat < 2 ^ 32) :
    binary.getTlsOffset.toNat = header.getTlsOffset.toNat ∧
      binary.getImageSize.toNat = header.getImageSize.toNat := by
  obtain ⟨before, file, fuel, text, opened, textFound, codeSize, tlsSize⟩ := opened
  have tls : binary.tlsSize.toNat = header.tlsSize.toNat := by
    rw [← tlsSize, UInt32.toNat_toUInt64]
  rw [← codeSize, ← tls] at sum
  have narrow := stacked_of_openFile opened textFound sum
  rw [codeSize, tls] at narrow
  exact narrow.unique (VpuImageHeader.stacked fits)

/-- Rounding a size in 32 bits is rounding it in 64. -/
theorem toNat_alignSectionSize_eq {size : UInt64} (fits : roundUp 4096 size.toNat < 2 ^ 32) :
    (alignSectionSize size.toUInt32).toNat = (VpuImageHeader.alignUp size 4096).toNat := by
  have bounded : size.toNat + 4095 < 2 ^ 32 :=
    (roundUp_lt_iff (by decide) (by decide)).mp fits
  rw [toNat_alignSectionSize_toUInt32 fits, VpuImageHeader.toNat_alignUp (by omega)]

end VpuShaderBinary

theorem VpuImageHeader.sameLayout {header : VpuImageHeader} (fits : header.FitsAddressSpace)
    (sum : roundUp 4096 header.codeSize.toNat + roundUp 4096 header.tlsSize.toNat < 2 ^ 32) :
    header.SameLayout where
  codeRounded := VpuShaderBinary.toNat_alignSectionSize_eq (by omega)
  tlsRounded := VpuShaderBinary.toNat_alignSectionSize_eq (by omega)
  tlsOffset := fun _ opened => (opened.layout_eq fits sum).1
  imageSize := fun _ opened => (opened.layout_eq fits sum).2

/-- The layout of an image, the agreement of the two widths, and where each of the
mask formulas starts to wrap. -/
theorem pageLayout_exact {header : VpuImageHeader}
    (code : header.codeSize.toNat ≤ 2 ^ 64 - 4096) (tls : header.tlsSize.toNat ≤ 2 ^ 64 - 4096)
    (sum : roundUp 4096 header.codeSize.toNat + roundUp 4096 header.tlsSize.toNat < 2 ^ 64) :
    header.LaidOut ∧
      (header.codeSize.toNat ≤ 2 ^ 32 - 4096 → header.tlsSize.toNat ≤ 2 ^ 32 - 4096 →
        roundUp 4096 header.codeSize.toNat + roundUp 4096 header.tlsSize.toNat < 2 ^ 32 →
        header.SameLayout) ∧
      (∀ value : UInt64, 2 ^ 64 - 4095 ≤ value.toNat → VpuImageHeader.alignUp value 4096 = 0) ∧
      ∀ size : UInt32, 2 ^ 32 - 4095 ≤ size.toNat →
        VpuShaderBinary.alignSectionSize size = 0 := by
  have fits : header.FitsAddressSpace := ⟨by omega, by omega, sum⟩
  refine ⟨VpuImageHeader.laidOut fits, ?_, ?_, ?_⟩
  · intro _ _ narrow
    exact VpuImageHeader.sameLayout fits narrow
  · intro value past
    exact VpuImageHeader.alignUp_eq_zero past
  · intro size past
    exact VpuShaderBinary.alignSectionSize_eq_zero past

theorem pageLayout_exact_small :
    (VpuImageHeader.mk 8 0 72 1).LaidOut ∧
      (commonShader 72).getTlsOffset.toNat = (VpuImageHeader.mk 8 0 72 1).getTlsOffset.toNat ∧
      (commonShader 72).getImageSize.toNat = (VpuImageHeader.mk 8 0 72 1).getImageSize.toNat := by
  have small := @pageLayout_exact ⟨8, 0, 72, 1⟩ (by decide) (by decide) (by decide)
  have opened : (commonShader 72).OpenedAs ⟨8, 0, 72, 1⟩ :=
    ⟨.new 0 0 0 0 0, commonFile 72, 3, commonText 72, by rfl, by rfl, rfl, rfl⟩
  have same := small.2.1 (by decide) (by decide) (by decide)
  exact ⟨small.1, same.tlsOffset _ opened, same.imageSize _ opened⟩

end VpuSim
