import Fffb.Force.Arithmetic
import Mathlib.Algebra.Order.Floor.Ring
import Mathlib.Algebra.Order.Group.Abs
import Mathlib.Tactic.NormNum

/-
Exact arithmetic with the source's clamps and casts.

On the rationals an assignment under a comparison is a minimum, a maximum or a
magnitude, and a cast of a value below 256 that is not negative is its floor.
-/

namespace Fffb

open FloatArith

theorem lit_rat (value : ℚ) : (lit value : ℚ) = value := rfl

theorem single_rat (value : ℚ) : single value = value := rfl

theorem capped (cap value : ℚ) : (if cap < value then cap else value) = min cap value :=
  (min_def_lt cap value).symm

theorem raised (floor value : ℚ) : (if value < floor then floor else value) = max value floor :=
  (max_def_lt value floor).symm

theorem larger (left right : ℚ) : (if right < left then left else right) = max left right := by
  rw [raised, max_comm]

theorem magnitude (value : ℚ) : (if value < 0 then -value else value) = |value| := by
  by_cases negative : value < 0
  · rw [if_pos negative, abs_of_neg negative]
  · rw [if_neg negative, abs_of_nonneg (not_lt.mp negative)]

theorem truncate_of_nonneg {value : ℚ} (nonneg : 0 ≤ value) : truncate value = ⌊value⌋ := by
  unfold truncate
  rw [Rat.floor_def', Int.tdiv_eq_ediv_of_nonneg (Rat.num_nonneg.mpr nonneg)]

theorem truncate_mono {left right : ℚ} (nonneg : 0 ≤ left) (le : left ≤ right) :
    truncate left ≤ truncate right := by
  rw [truncate_of_nonneg nonneg, truncate_of_nonneg (nonneg.trans le)]
  exact Int.floor_le_floor le

theorem truncate_between (low high : Nat) {value : ℚ}
    (range : (low : ℚ) ≤ value ∧ value ≤ (high : ℚ)) :
    (low : Int) ≤ truncate value ∧ truncate value ≤ (high : Int) := by
  obtain ⟨lower, upper⟩ := range
  have nonneg : 0 ≤ value := low.cast_nonneg.trans lower
  rw [truncate_of_nonneg nonneg]
  constructor
  · exact Int.le_floor.mpr (by exact_mod_cast lower)
  · have below := Int.floor_le_floor upper
    rw [Int.floor_natCast] at below
    exact below

def ByteRange (value : ℚ) : Prop := 0 ≤ value ∧ value < 256

theorem ByteRange.of_between (low high : Nat) {value : ℚ} (small : high < 256)
    (range : (low : ℚ) ≤ value ∧ value ≤ (high : ℚ)) : ByteRange value := by
  obtain ⟨lower, upper⟩ := range
  have bound : (high : ℚ) < 256 := by exact_mod_cast small
  exact ⟨low.cast_nonneg.trans lower, upper.trans_lt bound⟩

/-- In range the cast to a byte loses the fraction and nothing else. -/
theorem ByteRange.toU8_toNat {value : ℚ} (range : ByteRange value) :
    ((toU8 value).toNat : Int) = truncate value := by
  have nonneg : 0 ≤ truncate value := by
    rw [truncate_of_nonneg range.1]
    exact Int.floor_nonneg.mpr range.1
  have below : truncate value < 256 := by
    rw [truncate_of_nonneg range.1]
    exact Int.floor_lt.mpr (by exact_mod_cast range.2)
  change ((BitVec.ofInt 8 (truncate value)).toNat : Int) = _
  rw [BitVec.toNat_ofInt]
  omega

theorem toU8_mono (low high : Nat) {left right : ℚ} (small : high < 256)
    (leftRange : (low : ℚ) ≤ left ∧ left ≤ (high : ℚ))
    (rightRange : (low : ℚ) ≤ right ∧ right ≤ (high : ℚ)) (le : left ≤ right) :
    (toU8 left : U8) ≤ toU8 right := by
  have first := ByteRange.of_between low high small leftRange
  have second := ByteRange.of_between low high small rightRange
  have truncated := truncate_mono first.1 le
  rw [← first.toU8_toNat, ← second.toU8_toNat] at truncated
  rw [BitVec.le_def]
  omega

theorem toU8_between (low high : Nat) {value : ℚ} (small : high < 256)
    (range : (low : ℚ) ≤ value ∧ value ≤ (high : ℚ)) :
    low ≤ (toU8 value).toNat ∧ (toU8 value).toNat ≤ high := by
  have cast := (ByteRange.of_between low high small range).toU8_toNat
  obtain ⟨above, below⟩ := truncate_between low high range
  omega

end Fffb
