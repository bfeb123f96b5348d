import Mathlib.Algebra.Order.Floor.Div
import Mathlib.Order.Bounds.Basic
import Mathlib.Order.CompletePartialOrder
import Mathlib.Order.Interval.Set.Disjoint

/-!
# Rounding up to an alignment

`roundUp` is the least multiple of the alignment that is not below its argument.
The mask formula used on machine words computes it as long as adding the mask
does not wrap, and zero otherwise. `Stacked` is what rounding is for: two regions
one behind the other, each on an aligned boundary.
-/

namespace Rounding

/-- The least multiple of `alignment` not below `value`. -/
def roundUp (alignment value : Nat) : Nat := alignment * (value ⌈/⌉ alignment)

variable {alignment value : Nat}

theorem dvd_roundUp (alignment value : Nat) : alignment ∣ roundUp alignment value :=
  Nat.dvd_mul_right _ _

theorem le_roundUp (positive : 0 < alignment) : value ≤ roundUp alignment value :=
  (gc_mul_ceilDiv positive).le_u_l value

theorem roundUp_le (positive : 0 < alignment) {bound : Nat} (multiple : alignment ∣ bound)
    (above : value ≤ bound) : roundUp alignment value ≤ bound := by
  obtain ⟨count, rfl⟩ := multiple
  exact Nat.mul_le_mul_left _ ((gc_mul_ceilDiv positive).l_le above)

theorem roundUp_mono (positive : 0 < alignment) {lower upper : Nat} (le : lower ≤ upper) :
    roundUp alignment lower ≤ roundUp alignment upper :=
  roundUp_le positive (dvd_roundUp _ _) (le.trans (le_roundUp positive))

theorem isLeast_roundUp (positive : 0 < alignment) :
    IsLeast {bound | alignment ∣ bound ∧ value ≤ bound} (roundUp alignment value) :=
  ⟨⟨dvd_roundUp _ _, le_roundUp positive⟩, fun _ member => roundUp_le positive member.1 member.2⟩

theorem roundUp_eq (alignment value : Nat) :
    roundUp alignment value = (value + (alignment - 1)) / alignment * alignment := by
  cases alignment with
  | zero => simp [roundUp]
  | succ alignment =>
    rw [roundUp, Nat.ceilDiv_eq_add_pred_div, Nat.mul_comm, Nat.add_sub_assoc (by omega)]

theorem roundUp_lt (positive : 0 < alignment) : roundUp alignment value < value + alignment := by
  rw [roundUp_eq]
  have := Nat.div_mul_le_self (value + (alignment - 1)) alignment
  omega

/-- Rounding stays below a multiple exactly when adding the largest remainder does. -/
theorem roundUp_lt_iff (positive : 0 < alignment) {limit : Nat} (multiple : alignment ∣ limit) :
    roundUp alignment value < limit ↔ value + (alignment - 1) < limit := by
  have below := @roundUp_lt alignment value positive
  constructor
  · intro fits
    have above := @le_roundUp alignment value positive
    have room : ¬ limit < roundUp alignment value + alignment := by
      intro close
      have := Nat.le_of_lt_add_of_dvd close multiple (dvd_roundUp _ _)
      omega
    omega
  · intro fits
    omega

/-- Two regions of the given lengths one behind the other: the second begins at
`start`, the first multiple behind the first, and `finish` is the first multiple
behind the second. -/
structure Stacked (alignment first second start finish : Nat) : Prop where
  isLeast_start : IsLeast {bound | alignment ∣ bound ∧ first ≤ bound} start
  isLeast_finish : IsLeast {bound | alignment ∣ bound ∧ start + second ≤ bound} finish

/-- Rounding the two lengths one by one stacks the regions. -/
theorem stacked_roundUp (positive : 0 < alignment) (first second : Nat) :
    Stacked alignment first second (roundUp alignment first)
      (roundUp alignment first + roundUp alignment second) := by
  refine ⟨isLeast_roundUp positive, ⟨?_, ?_⟩, ?_⟩
  · exact Nat.dvd_add (dvd_roundUp _ _) (dvd_roundUp _ _)
  · exact Nat.add_le_add_left (le_roundUp positive) _
  · rintro bound ⟨multiple, above⟩
    have start := dvd_roundUp alignment first
    have rest : roundUp alignment second ≤ bound - roundUp alignment first :=
      roundUp_le positive (Nat.dvd_sub multiple start) (by omega)
    omega

namespace Stacked

variable {first second start finish : Nat}

theorem start_add_le_finish (stacked : Stacked alignment first second start finish) :
    start + second ≤ finish :=
  stacked.isLeast_finish.1.2

theorem first_disjoint_second (stacked : Stacked alignment first second start finish) :
    Disjoint (Set.Ico 0 first) (Set.Ico start (start + second)) := by
  have behind : first ≤ start := stacked.isLeast_start.1.2
  rw [Set.Ico_disjoint_Ico]
  exact (min_le_left _ _).trans (behind.trans (le_max_right _ _))

theorem first_subset (stacked : Stacked alignment first second start finish) :
    Set.Ico 0 first ⊆ Set.Ico 0 finish := by
  have behind : first ≤ start := stacked.isLeast_start.1.2
  exact Set.Ico_subset_Ico_right
    (behind.trans (Nat.le_of_add_right_le stacked.start_add_le_finish))

theorem second_subset (stacked : Stacked alignment first second start finish) :
    Set.Ico start (start + second) ⊆ Set.Ico 0 finish :=
  Set.Ico_subset_Ico (Nat.zero_le _) stacked.start_add_le_finish

/-- Less than one multiple is lost behind each region. -/
theorem finish_lt (positive : 0 < alignment)
    (stacked : Stacked alignment first second start finish) :
    finish < first + second + 2 * alignment := by
  have start_lt : start < first + alignment := by
    rw [stacked.isLeast_start.unique (isLeast_roundUp positive)]
    exact roundUp_lt positive
  have finish_lt : finish < start + second + alignment := by
    rw [stacked.isLeast_finish.unique (isLeast_roundUp positive)]
    exact roundUp_lt positive
  omega

theorem mono {first' second' start' finish' : Nat}
    (smaller : Stacked alignment first second start finish)
    (larger : Stacked alignment first' second' start' finish') (firsts : first ≤ first')
    (seconds : second ≤ second') : start ≤ start' ∧ finish ≤ finish' := by
  have starts : start ≤ start' :=
    smaller.isLeast_start.2 ⟨larger.isLeast_start.1.1, firsts.trans larger.isLeast_start.1.2⟩
  have behind : start + second ≤ finish' :=
    (Nat.add_le_add starts seconds).trans larger.start_add_le_finish
  exact ⟨starts, smaller.isLeast_finish.2 ⟨larger.isLeast_finish.1.1, behind⟩⟩

/-- The two lengths determine the layout, whatever computed it. -/
theorem unique {start' finish' : Nat} (stacked : Stacked alignment first second start finish)
    (other : Stacked alignment first second start' finish') :
    start = start' ∧ finish = finish' := by
  have below := stacked.mono other (Nat.le_refl _) (Nat.le_refl _)
  have above := other.mono stacked (Nat.le_refl _) (Nat.le_refl _)
  exact ⟨Nat.le_antisymm below.1 above.1, Nat.le_antisymm below.2 above.2⟩

end Stacked

/-- Past the last multiple that a `width`-bit word holds the mask formula wraps to zero. -/
theorem mask_wraps {width bits word : Nat} (past : 2 ^ width < word + 2 ^ bits)
    (bounded : word < 2 ^ width) :
    (word + (2 ^ bits - 1)) % 2 ^ width / 2 ^ bits * 2 ^ bits = 0 := by
  obtain ⟨rest, wrapped⟩ : ∃ rest, word + (2 ^ bits - 1) = rest + 2 ^ width :=
    ⟨word + (2 ^ bits - 1) - 2 ^ width, by omega⟩
  have small : rest % 2 ^ width < 2 ^ bits := (Nat.mod_le _ _).trans_lt (by omega)
  rw [wrapped, Nat.add_mod_right, Nat.div_eq_of_lt small, Nat.zero_mul]

/-- Clearing the low `bits` bits of a `width`-bit word rounds it down. -/
theorem and_complement_mask {width bits word : Nat} (fits : bits ≤ width)
    (bounded : word < 2 ^ width) :
    word &&& (2 ^ width - 1 - (2 ^ bits - 1)) = word / 2 ^ bits * 2 ^ bits := by
  have mask : 2 ^ width - 1 - (2 ^ bits - 1) = (2 ^ (width - bits) - 1) * 2 ^ bits := by
    have split : 2 ^ width = 2 ^ (width - bits) * 2 ^ bits := by
      rw [← Nat.pow_add, Nat.sub_add_cancel fits]
    have := Nat.two_pow_pos bits
    rw [Nat.sub_mul, ← split]
    omega
  rw [mask]
  apply Nat.eq_of_testBit_eq
  intro index
  rw [Nat.testBit_and, Nat.testBit_mul_two_pow, Nat.testBit_mul_two_pow,
    Nat.testBit_two_pow_sub_one, Nat.testBit_div_two_pow]
  by_cases low : bits ≤ index
  · rw [Nat.sub_add_cancel low]
    by_cases high : index < width
    · simp [low, show index - bits < width - bits by omega]
    · have zero : word.testBit index = false :=
        Nat.testBit_lt_two_pow (bounded.trans_le (Nat.pow_le_pow_right (by omega) (by omega)))
      simp [zero]
  · simp [low]

/-- The mask formula on 64-bit words. -/
theorem toNat_mask_uint64 {bits : Nat} (fits : bits ≤ 64) {word mask : UInt64}
    (isMask : mask.toNat = 2 ^ bits - 1) :
    ((word + mask) &&& ~~~mask).toNat =
      (word.toNat + (2 ^ bits - 1)) % 2 ^ 64 / 2 ^ bits * 2 ^ bits := by
  have wrapped : (word.toNat + (2 ^ bits - 1)) % 2 ^ 64 < 2 ^ 64 := Nat.mod_lt _ (by decide)
  rw [UInt64.toNat_and, UInt64.toNat_not, UInt64.toNat_add, isMask]
  exact and_complement_mask fits wrapped

/-- The mask formula on 32-bit words. -/
theorem toNat_mask_uint32 {bits : Nat} (fits : bits ≤ 32) {word mask : UInt32}
    (isMask : mask.toNat = 2 ^ bits - 1) :
    ((word + mask) &&& ~~~mask).toNat =
      (word.toNat + (2 ^ bits - 1)) % 2 ^ 32 / 2 ^ bits * 2 ^ bits := by
  have wrapped : (word.toNat + (2 ^ bits - 1)) % 2 ^ 32 < 2 ^ 32 := Nat.mod_lt _ (by decide)
  rw [UInt32.toNat_and, UInt32.toNat_not, UInt32.toNat_add, isMask]
  exact and_complement_mask fits wrapped

end Rounding
