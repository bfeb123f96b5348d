import VpuSim.Image.Header

/-!
# The layout of a loaded image

The code starts at the base, the TLS block on the first page behind it, and the
image ends with the last page of the TLS block. Everything a loader relies on
follows from `Stacked`; the sizes have to leave room for the rounding.
-/

namespace VpuSim

open Rounding

namespace VpuImageHeader

/-- What the accessors of the header promise about the image. -/
structure LaidOut (header : VpuImageHeader) : Prop where
  codeRounded : IsLeast {bound | 4096 ∣ bound ∧ header.codeSize.toNat ≤ bound}
    (alignUp header.codeSize 4096).toNat
  tlsRounded : IsLeast {bound | 4096 ∣ bound ∧ header.tlsSize.toNat ≤ bound}
    (alignUp header.tlsSize 4096).toNat
  tlsOffsetAligned : 4096 ∣ header.getTlsOffset.toNat
  codeBelowTls : header.codeSize.toNat ≤ header.getTlsOffset.toNat
  disjoint : Disjoint (Set.Ico 0 header.codeSize.toNat)
    (Set.Ico header.getTlsOffset.toNat (header.getTlsOffset.toNat + header.tlsSize.toNat))
  codeInside : Set.Ico 0 header.codeSize.toNat ⊆ Set.Ico 0 header.getImageSize.toNat
  tlsInside :
    Set.Ico header.getTlsOffset.toNat (header.getTlsOffset.toNat + header.tlsSize.toNat) ⊆
      Set.Ico 0 header.getImageSize.toNat
  imageAligned : 4096 ∣ header.getImageSize.toNat
  imageShort : header.getImageSize.toNat < header.codeSize.toNat + header.tlsSize.toNat + 8192
  monotone : ∀ smaller : VpuImageHeader, smaller.codeSize ≤ header.codeSize →
    smaller.tlsSize ≤ header.tlsSize → smaller.getImageSize ≤ header.getImageSize

theorem isLeast_alignUp {value : UInt64} (fits : value.toNat + 4095 < 2 ^ 64) :
    IsLeast {bound | 4096 ∣ bound ∧ value.toNat ≤ bound} (alignUp value 4096).toNat := by
  rw [toNat_alignUp fits]
  exact isLeast_roundUp (by decide)

/-- Smaller sizes fit where larger ones do. -/
theorem FitsAddressSpace.mono {smaller larger : VpuImageHeader} (fits : larger.FitsAddressSpace)
    (code : smaller.codeSize ≤ larger.codeSize) (tls : smaller.tlsSize ≤ larger.tlsSize) :
    smaller.FitsAddressSpace := by
  obtain ⟨codeFits, tlsFits, sum⟩ := fits
  rw [UInt64.le_iff_toNat_le] at code tls
  have codeRounds : roundUp 4096 smaller.codeSize.toNat ≤ roundUp 4096 larger.codeSize.toNat :=
    roundUp_mono (by decide) code
  have tlsRounds : roundUp 4096 smaller.tlsSize.toNat ≤ roundUp 4096 larger.tlsSize.toNat :=
    roundUp_mono (by decide) tls
  exact ⟨by omega, by omega, by omega⟩

theorem getImageSize_mono {smaller larger : VpuImageHeader} (fits : larger.FitsAddressSpace)
    (code : smaller.codeSize ≤ larger.codeSize) (tls : smaller.tlsSize ≤ larger.tlsSize) :
    smaller.getImageSize ≤ larger.getImageSize := by
  have below := stacked (fits.mono code tls)
  rw [UInt64.le_iff_toNat_le] at code tls ⊢
  exact (below.mono (stacked fits) code tls).2

theorem laidOut {header : VpuImageHeader} (fits : header.FitsAddressSpace) :
    header.LaidOut where
  codeRounded := isLeast_alignUp fits.1
  tlsRounded := isLeast_alignUp fits.2.1
  tlsOffsetAligned := (stacked fits).isLeast_start.1.1
  codeBelowTls := codeSize_le_getTlsOffset fits
  disjoint := (stacked fits).first_disjoint_second
  codeInside := (stacked fits).first_subset
  tlsInside := (stacked fits).second_subset
  imageAligned := (stacked fits).isLeast_finish.1.1
  imageShort := (stacked fits).finish_lt (by decide)
  monotone := fun _ code tls => getImageSize_mono fits code tls

end VpuImageHeader

end VpuSim
