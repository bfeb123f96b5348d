import VpuSim.Shader.Binary

/-!
# Loading a shader binary that was opened

Opening admits a relocation type that the 64-bit loader does not implement, and the
loader never looks at the size of the buffer it is given: how much it clears, copies
and patches was settled when the object was opened.
-/

namespace VpuSim

open ByteMemory

namespace VpuShaderBinary

theorem supported_iff_of_admitted {relocation : VpuRelocation}
    (admitted : Admitted relocation.type) :
    relocation.Supported ↔ relocation.type ≠ imageRelI386Dir32 := by
  constructor
  · rintro (rel32 | rel32)
    · rw [rel32]
      decide
    · rw [rel32]
      decide
  · intro other
    rcases admitted with rel32 | rel32 | dir32
    · exact .inl rel32
    · exact .inr rel32
    · exact absurd dir32 other

/-- Of the recorded relocations the loader can apply all but the absolute ones. -/
theorem all_supported_iff {file : CoffObject} {fuel : Nat} {tlsOffset : UInt32}
    {relocations : List CoffRelocation} {records : List VpuRelocation}
    (recorded : List.Forall₂ (Records file fuel tlsOffset) relocations records) :
    (∀ record ∈ records, record.Supported) ↔
      ∀ relocation ∈ relocations, relocation.type.toUInt32 ≠ imageRelI386Dir32 := by
  induction recorded with
  | nil => simp
  | cons first _ ih =>
    obtain ⟨name, type, offset, resolved, rfl⟩ := first
    rw [List.forall_mem_cons, List.forall_mem_cons, ih]
    exact and_congr_left' (supported_iff_of_admitted resolved.admitted)

/-- The stores of a load that copies `contents`. -/
def loadStores (self : VpuShaderBinary) (contents : List UInt8) : List Store :=
  ⟨0, self.codeSize.toNat, fun _ => 0⟩ ::
    ⟨0, contents.length, fun k => contents.getD k 0⟩ ::
      VpuImageHeader.performedPatches self.relocations

section Load

variable {self : VpuShaderBinary} {contents : List UInt8}

theorem load_eq_of_contents (found : self.code.bind CoffSection.contents = some contents)
    (fits : contents.length ≤ self.codeSize.toNat) (base : Memory) (size : UInt32) :
    self.load base size =
      (self.relocations.all fun relocation => decide relocation.Supported,
        base.storeAll (self.loadStores contents)) := by
  rw [load_of_contents found fits, VpuImageHeader.applyRelocations_eq, loadStores,
    Memory.storeAll_cons, Memory.storeAll_cons]
  rfl

theorem load_accepts_iff (found : self.code.bind CoffSection.contents = some contents)
    (fits : contents.length ≤ self.codeSize.toNat) (base : Memory) (size : UInt32) :
    (self.load base size).1 = true ↔ ∀ relocation ∈ self.relocations, relocation.Supported := by
  rw [load_eq_of_contents found fits]
  simp

end Load

/-- A binary that opens also loads, except for the absolute type that opening admits. -/
theorem load_of_openFile_iff {codeSize dataSize imageSize tlsSize mainOffset : UInt32}
    {fuel : Nat} {file : CoffObject} {shader : VpuShaderBinary}
    (opened : (new codeSize dataSize imageSize tlsSize mainOffset).openFile fuel (.coff file) =
      some (true, shader))
    {text : CoffSection} (code : shader.code = some text) (small : text.size.toNat < 2 ^ 32 - 4095)
    {contents : List UInt8} (readable : text.contents = some contents)
    (length : contents.length ≤ text.size.toNat) :
    (∀ base size, shader.getImageSize ≤ size → (shader.load base size).1 = true) ↔
      ∀ relocation ∈ text.relocations, relocation.type.toUInt32 ≠ imageRelI386Dir32 := by
  obtain ⟨found, openedFrom⟩ := openedFrom_of_openFile rfl opened
  cases Option.some.inj (openedFrom.code.symm.trans code)
  have rounds : Rounding.roundUp 4096 text.size.toNat < 2 ^ 32 :=
    (Rounding.roundUp_lt_iff (by decide) (by decide)).mpr (by omega)
  have fits : contents.length ≤ shader.codeSize.toNat := by
    rw [openedFrom.codeSize, toNat_alignSectionSize_toUInt32 rounds]
    exact length.trans (Rounding.le_roundUp (by decide))
  have bytes : shader.code.bind CoffSection.contents = some contents := by
    rw [code]
    exact readable
  rw [← all_supported_iff openedFrom.relocations]
  constructor
  · intro loads
    apply (load_accepts_iff bytes fits (.holding fun _ => 0) shader.getImageSize).mp
    exact loads _ _ (UInt32.le_refl _)
  · intro supported base size _
    exact (load_accepts_iff bytes fits base size).mpr supported

/-- Eight bytes of code that refer to a common `g_tls` by a relocation of some type. -/
def referenceText (type : UInt64) : CoffSection where
  number := 1
  name := some ".text"
  size := 8
  contents := some [0, 0, 0, 0, 0xC3, 0, 0, 0]
  relocations := [⟨0, type, ⟨some "g_tls", 72, 0, 0, some .data, 72, noNul_gTls⟩⟩]

def referenceFile (type : UInt64) : CoffObject where
  symbols := [some ⟨some "main", 0, 0, 1, some .function, 0, noNul_main⟩,
    some ⟨some "g_tls", 72, 0, 0, some .data, 72, noNul_gTls⟩]
  sections := [referenceText type]

def referenceShader (type : UInt64) : VpuShaderBinary where
  loaded := true
  codeSize := 4096
  dataSize := 4096
  imageSize := 8192
  tlsSize := 72
  mainOffset := 0
  tlsOffset := 4096
  relocations := [⟨type.toUInt32, 0, 4096⟩]
  code := some (referenceText type)

theorem load_of_openFile_iff_small :
    (∀ base size, (referenceShader 4).getImageSize ≤ size →
      ((referenceShader 4).load base size).1 = true) ↔
      ∀ relocation ∈ (referenceText 4).relocations,
        relocation.type.toUInt32 ≠ imageRelI386Dir32 :=
  @load_of_openFile_iff 0 0 0 0 0 3 (referenceFile 4) (referenceShader 4) (by rfl)
    (referenceText 4) rfl (by decide) _ rfl (by decide)

/-- An absolute reference is admitted, and the buffer is left half loaded. -/
theorem openFile_not_load :
    (new 0 0 0 0 0).openFile 3 (.coff (referenceFile 6)) = some (true, referenceShader 6) ∧
      (referenceText 6).size.toNat < 2 ^ 32 - 4095 ∧
      (∃ contents, (referenceText 6).contents = some contents ∧
        contents.length ≤ (referenceText 6).size.toNat) ∧
      ¬ ∀ base size, (referenceShader 6).getImageSize ≤ size →
        ((referenceShader 6).load base size).1 = true := by
  refine ⟨by rfl, by decide, ⟨_, rfl, by decide⟩, ?_⟩
  intro loads
  have loaded := loads (.holding fun _ => 0) 8192 (by decide)
  exact absurd loaded (by decide)

/-- A load keeps to its size argument: a buffer without room is refused and left
alone, and in one with room nothing else is written and the TLS block ends up zero. -/
structure HonoursSize (shader : VpuShaderBinary) (contents : Nat → UInt8) (size : UInt32)
    (outcome : Bool × Memory) : Prop where
  refused : size < shader.getImageSize →
    outcome.1 = false ∧ ∀ address, outcome.2.byte address = contents address
  within : shader.getImageSize ≤ size → ∀ store ∈ outcome.2.log, store.Within size.toNat
  cleared : shader.getImageSize ≤ size → outcome.1 = true →
    ∀ k, shader.getTlsOffset.toNat ≤ k → k < shader.getImageSize.toNat →
      outcome.2.byte k = 0

/-- The contents of the code cannot be read or are longer than their rounded size. -/
def RefusesAtOnce (self : VpuShaderBinary) : Prop :=
  ∀ contents ∈ self.code.bind CoffSection.contents, self.codeSize.toNat < contents.length

/-- There is no code to copy, and the first relocation cannot be applied. -/
def WritesNothing (self : VpuShaderBinary) : Prop :=
  self.codeSize = 0 ∧ ∃ first rest, self.relocations = first :: rest ∧ ¬ first.Supported

/-- The code and the windows of the relocations in front of the first one that cannot
be applied end within `size` bytes. -/
def StaysInside (self : VpuShaderBinary) (size : UInt32) : Prop :=
  self.codeSize ≤ size ∧
    ∀ relocation ∈ self.relocations.takeWhile fun relocation => decide relocation.Supported,
      relocation.fixupOffset.toNat + 4 ≤ size.toNat

/-- The fixups themselves leave every byte behind the code zero. -/
def ZeroesTls (self : VpuShaderBinary) : Prop :=
  ∀ k, self.codeSize.toNat ≤ k → k < self.getImageSize.toNat →
    mostRecent (self.relocations.map VpuRelocation.patch) k = some 0

def HandlesSize (self : VpuShaderBinary) (size : UInt32) : Prop :=
  self.RefusesAtOnce ∨
    (size < self.getImageSize ∧ self.WritesNothing) ∨
    (self.getImageSize ≤ size ∧ self.StaysInside size ∧
      ((∃ relocation ∈ self.relocations, ¬ relocation.Supported) ∨ self.ZeroesTls))

theorem honoursSize_of_refusesAtOnce {self : VpuShaderBinary} (refuses : self.RefusesAtOnce)
    (contents : Nat → UInt8) (size : UInt32) :
    HonoursSize self contents size (self.load (.holding contents) size) := by
  have refused : self.load (.holding contents) size = (false, .holding contents) := by
    rw [load, loadCode]
    cases found : self.code.bind CoffSection.contents with
    | none => rfl
    | some code => exact if_pos (refuses code found)
  rw [refused]
  constructor
  · exact fun _ => ⟨rfl, fun _ => rfl⟩
  · intro _ store member
    cases member
  · intro _ accepted
    cases accepted

/-- Behind the code only fixups are written. -/
theorem mostRecent_loadStores {self : VpuShaderBinary} {code : List UInt8}
    (fits : code.length ≤ self.codeSize.toNat) {k : Nat} (behind : self.codeSize.toNat ≤ k) :
    mostRecent (self.loadStores code) k =
      mostRecent (VpuImageHeader.performedPatches self.relocations) k := by
  have notCleared : ¬ (⟨0, self.codeSize.toNat, fun _ => 0⟩ : Store).Covers k := by
    rintro ⟨_, finish⟩
    rw [Nat.zero_add] at finish
    exact absurd finish (Nat.not_lt.mpr behind)
  have notCopied : ¬ (⟨0, code.length, fun k => code.getD k 0⟩ : Store).Covers k := by
    rintro ⟨_, finish⟩
    rw [Nat.zero_add] at finish
    exact absurd finish (Nat.not_lt.mpr (fits.trans behind))
  rw [loadStores, mostRecent_cons_of_not_covers notCleared,
    mostRecent_cons_of_not_covers notCopied]

section Readable

variable {self : VpuShaderBinary} {code : List UInt8}
  (found : self.code.bind CoffSection.contents = some code)
  (fits : code.length ≤ self.codeSize.toNat) {size : UInt32}

include found fits

theorem byte_load (contents : Nat → UInt8) :
    (self.load (.holding contents) size).2.byte = replay contents (self.loadStores code) := by
  rw [load_eq_of_contents found fits, Memory.byte_storeAll, Memory.byte_holding]

theorem load_refuses_iff (base : Memory) :
    (self.load base size).1 = false ↔ ∃ relocation ∈ self.relocations, ¬ relocation.Supported := by
  rw [Bool.eq_false_iff, ne_eq, load_accepts_iff found fits]
  simp

/-- Nothing is written exactly when there is no code and no relocation is applied. -/
theorem load_unchanged_iff :
    (∀ contents address, (self.load (.holding contents) size).2.byte address = contents address) ↔
      self.codeSize = 0 ∧ VpuImageHeader.performedPatches self.relocations = [] := by
  simp only [byte_load found fits]
  rw [replay_eq_self_iff, loadStores, List.forall_mem_cons, List.forall_mem_cons]
  constructor
  · rintro ⟨code, _, patches⟩
    refine ⟨UInt32.toNat_inj.mp code, List.eq_nil_iff_forall_not_mem.mpr ?_⟩
    intro store member
    obtain ⟨relocation, _, rfl⟩ := List.mem_map.mp member
    exact absurd (patches _ member) (by decide : ¬ 4 = 0)
  · rintro ⟨noCode, noPatch⟩
    rw [noCode] at fits
    rw [noPatch, noCode]
    exact ⟨rfl, Nat.le_zero.mp fits, fun _ impossible => nomatch impossible⟩

theorem load_within_iff (contents : Nat → UInt8) :
    (∀ store ∈ (self.load (.holding contents) size).2.log, store.Within size.toNat) ↔
      self.StaysInside size := by
  rw [load_eq_of_contents found fits, Memory.log_storeAll, Memory.log_holding, List.nil_append,
    loadStores, List.forall_mem_cons, List.forall_mem_cons, VpuImageHeader.performedPatches,
    List.forall_mem_map, StaysInside, UInt32.le_iff_toNat_le]
  simp only [Store.within_iff, VpuRelocation.patch, Store.ofNat_length, Store.ofNat_offset,
    Nat.zero_add]
  constructor
  · rintro ⟨cleared, _, patched⟩
    refine ⟨by omega, ?_⟩
    intro relocation member
    exact (patched relocation member).resolve_left (by decide)
  · rintro ⟨codeFits, windows⟩
    exact ⟨.inr codeFits, .inr (fits.trans codeFits), fun relocation member =>
      .inr (windows relocation member)⟩

theorem writesNothing_iff :
    (∀ contents, (self.load (.holding contents) size).1 = false ∧
      ∀ address, (self.load (.holding contents) size).2.byte address = contents address) ↔
      self.WritesNothing := by
  have unchanged := @load_unchanged_iff self code found fits size
  constructor
  · intro refused
    obtain ⟨noCode, noPatch⟩ := unchanged.mp fun contents => (refused contents).2
    obtain ⟨relocation, member, unsupported⟩ :=
      (load_refuses_iff found fits (.holding fun _ => 0)).mp (refused fun _ => 0).1
    refine ⟨noCode, ?_⟩
    cases listed : self.relocations with
    | nil =>
      rw [listed] at member
      cases member
    | cons first rest =>
      refine ⟨first, rest, rfl, ?_⟩
      intro supported
      rw [listed, VpuImageHeader.performedPatches, List.takeWhile_cons] at noPatch
      simp [supported] at noPatch
  · rintro ⟨noCode, first, rest, listed, unsupported⟩ contents
    refine ⟨?_, unchanged.mpr ⟨noCode, ?_⟩ contents⟩
    · apply (load_refuses_iff found fits _).mpr
      exact ⟨first, by simp [listed], unsupported⟩
    · simp [listed, VpuImageHeader.performedPatches, unsupported]

theorem zeroesTls_iff (supported : ∀ relocation ∈ self.relocations, relocation.Supported) :
    (∀ contents k, self.codeSize.toNat ≤ k → k < self.getImageSize.toNat →
      (self.load (.holding contents) size).2.byte k = 0) ↔ self.ZeroesTls := by
  simp only [byte_load found fits]
  have lastWrite : ∀ k, self.codeSize.toNat ≤ k →
      ((∀ contents, replay contents (self.loadStores code) k = 0) ↔
        mostRecent (self.relocations.map VpuRelocation.patch) k = some 0) := by
    intro k behind
    rw [replay_eq_forall_iff, mostRecent_loadStores fits behind,
      VpuImageHeader.performedPatches_of_all supported]
  constructor
  · intro zero k behind inImage
    exact (lastWrite k behind).mp fun contents => zero contents k behind inImage
  · intro zeroes contents k behind inImage
    exact (lastWrite k behind).mpr (zeroes k behind inImage) contents

/-- A buffer without room is left alone exactly if nothing is written at all. -/
theorem honoursSize_iff_of_small (small : size < self.getImageSize) :
    (∀ contents, HonoursSize self contents size (self.load (.holding contents) size)) ↔
      self.WritesNothing := by
  have noRoom : ¬ self.getImageSize ≤ size := UInt32.not_le.mpr small
  rw [← @writesNothing_iff self code found fits size]
  refine forall_congr' fun contents => ?_
  constructor
  · intro honours
    exact honours.refused small
  · intro refused
    exact ⟨fun _ => refused, fun room => absurd room noRoom, fun room => absurd room noRoom⟩

theorem honoursSize_iff_of_room (tlsOffset : self.getTlsOffset = self.codeSize)
    (room : self.getImageSize ≤ size) :
    (∀ contents, HonoursSize self contents size (self.load (.holding contents) size)) ↔
      self.StaysInside size ∧
        ((∃ relocation ∈ self.relocations, ¬ relocation.Supported) ∨ self.ZeroesTls) := by
  constructor
  · intro honours
    refine ⟨(load_within_iff found fits fun _ => 0).mp ((honours _).within room), ?_⟩
    by_cases supported : ∀ relocation ∈ self.relocations, relocation.Supported
    · right
      apply (zeroesTls_iff found fits supported).mp
      intro contents k behind inImage
      rw [← tlsOffset] at behind
      have accepted := (load_accepts_iff found fits (.holding contents) size).mpr supported
      exact (honours contents).cleared room accepted k behind inImage
    · left
      simpa using supported
  · rintro ⟨inside, partly⟩ contents
    constructor
    · exact fun tooSmall => absurd room (UInt32.not_le.mpr tooSmall)
    · exact fun _ => (load_within_iff found fits contents).mpr inside
    · intro _ accepted k behind inImage
      have supported := (load_accepts_iff found fits _ _).mp accepted
      rcases partly with ⟨relocation, member, unsupported⟩ | zeroes
      · exact absurd (supported relocation member) unsupported
      · rw [tlsOffset] at behind
        exact (zeroesTls_iff found fits supported).mpr zeroes contents k behind inImage

end Readable

/-- On an opened object the loader honours exactly the sizes that `HandlesSize` names. -/
theorem load_honoursSize_iff {codeSize dataSize imageSize tlsSize mainOffset : UInt32}
    {fuel : Nat} {file : CoffObject} {shader : VpuShaderBinary}
    (opened : (new codeSize dataSize imageSize tlsSize mainOffset).openFile fuel (.coff file) =
      some (true, shader)) (size : UInt32) :
    (∀ contents, HonoursSize shader contents size (shader.load (.holding contents) size)) ↔
      shader.HandlesSize size := by
  obtain ⟨text, openedFrom⟩ := openedFrom_of_openFile rfl opened
  have tlsOffset : shader.getTlsOffset = shader.codeSize := openedFrom.tlsOffset
  by_cases refuses : shader.RefusesAtOnce
  · exact iff_of_true (fun contents => honoursSize_of_refusesAtOnce refuses contents size)
      (.inl refuses)
  simp only [RefusesAtOnce, not_forall] at refuses
  obtain ⟨code, found, short⟩ := refuses
  have fits : code.length ≤ shader.codeSize.toNat := Nat.not_lt.mp short
  have notRefused : ¬ shader.RefusesAtOnce := fun refuses => short (refuses code found)
  rw [HandlesSize, or_iff_right notRefused]
  by_cases small : size < shader.getImageSize
  · have noRoom : ¬ shader.getImageSize ≤ size := UInt32.not_le.mpr small
    rw [honoursSize_iff_of_small found fits small, or_iff_left (fun handled => noRoom handled.1),
      and_iff_right small]
  · have room := UInt32.not_lt.mp small
    have notSmall : ¬ (size < shader.getImageSize ∧ shader.WritesNothing) :=
      fun handled => small handled.1
    rw [or_iff_right notSmall, and_iff_right room]
    exact honoursSize_iff_of_room found fits tlsOffset room

theorem load_honoursSize_iff_small :
    (∀ contents, HonoursSize (referenceShader 4) contents 8192
      ((referenceShader 4).load (.holding contents) 8192)) ↔
      (referenceShader 4).HandlesSize 8192 :=
  @load_honoursSize_iff 0 0 0 0 0 3 (referenceFile 4) (referenceShader 4) (by rfl) 8192

/-- A buffer of no bytes is accepted and written, and one of the image's size keeps
what it held where the TLS block is. -/
theorem load_not_honoursSize :
    (new 0 0 0 0 0).openFile 3 (.coff (referenceFile 4)) = some (true, referenceShader 4) ∧
      ¬ HonoursSize (referenceShader 4) (fun _ => 1) 0
        ((referenceShader 4).load (.holding fun _ => 1) 0) ∧
      ¬ HonoursSize (referenceShader 4) (fun _ => 1) 8192
        ((referenceShader 4).load (.holding fun _ => 1) 8192) := by
  refine ⟨by rfl, ?_, ?_⟩
  · intro honours
    exact absurd (honours.refused (by decide)).1 (by decide)
  · intro honours
    have cleared := honours.cleared (by decide) (by decide) 4096 (by decide) (by decide)
    exact absurd cleared (by decide)

end VpuShaderBinary

end VpuSim
