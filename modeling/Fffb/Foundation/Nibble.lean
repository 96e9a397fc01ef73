import Mathlib.Data.BitVec
import Mathlib.Tactic.IntervalCases

/-
Two four-bit fields packed into one byte.

The high field is placed by a shift, the low field by a bitwise or.  Nothing
here assumes that the low field fits: the lemmas say what an overlong low field
does to the high one.
-/

namespace Fffb.Nibble

abbrev Byte := BitVec 8

def high (byte : Byte) : Byte := byte >>> 4

def low (byte : Byte) : Byte := byte &&& 0x0F

def pack (upper lower : Byte) : Byte := (upper <<< 4) ||| lower

theorem getLsbD_pack (upper lower : Byte) (index : Nat) :
    (pack upper lower).getLsbD index =
      ((decide (index < 8) && !decide (index < 4) && upper.getLsbD (index - 4)) ||
        lower.getLsbD index) := by
  simp [pack]

theorem getLsbD_low (byte : Byte) (index : Nat) :
    (low byte).getLsbD index = (byte.getLsbD index && decide (index < 4)) := by
  have maskBits : (0x0F : Byte).getLsbD index = decide (index < 4) := by
    by_cases inside : index < 8
    · interval_cases index <;> rfl
    · rw [BitVec.getLsbD_of_ge _ _ (by omega)]
      simp; omega
  simp only [low, BitVec.getLsbD_and, maskBits]

theorem getLsbD_high (byte : Byte) (index : Nat) :
    (high byte).getLsbD index = byte.getLsbD (4 + index) := by
  simp [high]

@[simp] theorem low_pack (upper lower : Byte) : low (pack upper lower) = low lower := by
  apply BitVec.eq_of_getLsbD_eq
  intro index inside
  rw [getLsbD_low, getLsbD_low, getLsbD_pack]
  by_cases inLow : index < 4
  · simp [inLow]
  · simp [inLow]

/-- The high field reads back as the four low bits of what was put there,
joined with whatever of the low field spilled over. -/
@[simp] theorem high_pack (upper lower : Byte) :
    high (pack upper lower) = low upper ||| high lower := by
  apply BitVec.eq_of_getLsbD_eq
  intro index inside
  rw [BitVec.getLsbD_or, getLsbD_high, getLsbD_high, getLsbD_low, getLsbD_pack]
  by_cases inLow : index < 4
  · have inByte : 4 + index < 8 := by omega
    have notLow : ¬ 4 + index < 4 := by omega
    simp [inLow, inByte, notLow]
  · have outByte : ¬ 4 + index < 8 := by omega
    simp [inLow, outByte]

@[simp] theorem high_low (byte : Byte) : high (low byte) = 0 := by
  apply BitVec.eq_of_getLsbD_eq
  intro index inside
  rw [getLsbD_high, getLsbD_low]
  simp

theorem low_of_lt (byte : Byte) (fits : byte < 16) : low byte = byte := by
  revert fits
  revert byte
  decide

theorem high_of_lt (byte : Byte) (fits : byte < 16) : high byte = 0 := by
  rw [← low_of_lt byte fits, high_low]

theorem low_pack_of_lt (upper : Byte) {lower : Byte} (fits : lower < 16) :
    low (pack upper lower) = lower := by
  rw [low_pack, low_of_lt lower fits]

theorem high_pack_of_lt (upper : Byte) {lower : Byte} (fits : lower < 16) :
    high (pack upper lower) = low upper := by
  rw [high_pack, high_of_lt lower fits]
  exact BitVec.or_zero

/-- Two packed bytes are equal when their fields are, as far as a field fits. -/
theorem pack_eq_pack_iff {upper other lower another : Byte} (fits : lower < 16)
    (alsoFits : another < 16) :
    pack upper lower = pack other another ↔ low upper = low other ∧ lower = another := by
  constructor
  · intro same
    have highs := congrArg high same
    have lows := congrArg low same
    rw [high_pack_of_lt upper fits, high_pack_of_lt other alsoFits] at highs
    rw [low_pack_of_lt upper fits, low_pack_of_lt other alsoFits] at lows
    exact ⟨highs, lows⟩
  · rintro ⟨highs, rfl⟩
    have kept : ∀ byte : Byte, low byte <<< 4 = byte <<< 4 := by decide
    unfold pack
    rw [← kept upper, ← kept other, highs]

/-- Joined into a word, a mask hides the bits that it sets and no others. -/
theorem or_eq_or_iff {width : Nat} {left right mask : BitVec width} :
    left ||| mask = right ||| mask ↔ left &&& ~~~mask = right &&& ~~~mask := by
  rw [BitVec.eq_of_getLsbD_eq_iff, BitVec.eq_of_getLsbD_eq_iff]
  refine forall_congr' fun index => imp_congr_right fun inside => ?_
  simp only [BitVec.getLsbD_or, BitVec.getLsbD_and, BitVec.getLsbD_not, inside, decide_true,
    Bool.true_and]
  cases mask.getLsbD index with
  | false => simp
  | true => simp

end Fffb.Nibble
