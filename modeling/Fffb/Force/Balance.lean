import Fffb.Force.Exact
import Mathlib.Algebra.Order.Group.MinMax

/-
The constant force pulls to the left as it pulls to the right.

The amplitude swings around the neutral value by the lateral acceleration
times a positive gain, as far as the clamps let it.  They lie at the same
distance on either side, so the swing is odd, and truncation costs the two
sides of the balance one unit at most.
-/

namespace Fffb

open FloatArith

def swing (radius offset : ℚ) : ℚ := min radius (max offset (-radius))

theorem swing_mono (radius : ℚ) {left right : ℚ} (le : left ≤ right) :
    swing radius left ≤ swing radius right := by
  unfold swing
  gcongr

theorem swing_neg {radius : ℚ} (nonneg : 0 ≤ radius) (offset : ℚ) :
    swing radius (-offset) = -swing radius offset := by
  have ends : -radius ≤ radius := by linarith
  calc min radius (max (-offset) (-radius))
      = max (min radius (-offset)) (min radius (-radius)) := min_max_distrib_left _ _ _
    _ = max (-radius) (min radius (-offset)) := by rw [min_eq_right ends, max_comm]
    _ = max (-radius) (-max offset (-radius)) := by
        rw [← min_neg_neg offset (-radius), neg_neg, min_comm]
    _ = -min radius (max offset (-radius)) := max_neg_neg _ _

theorem swing_nonneg_iff {radius : ℚ} (positive : 0 < radius) (offset : ℚ) :
    0 ≤ swing radius offset ↔ 0 ≤ offset := by
  unfold swing
  rw [le_min_iff, le_max_iff]
  constructor
  · rintro ⟨_, inside | outside⟩
    · exact inside
    · linarith
  · intro nonneg
    exact ⟨positive.le, Or.inl nonneg⟩

theorem floor_opposite (center : Int) (offset : ℚ) :
    ⌊(center : ℚ) + offset⌋ + ⌊(center : ℚ) + -offset⌋ = 2 * center - 1 ∨
      ⌊(center : ℚ) + offset⌋ + ⌊(center : ℚ) + -offset⌋ = 2 * center := by
  have atMost := Int.le_floor_add offset (-offset)
  have atLeast := Int.le_floor_add_floor offset (-offset)
  rw [add_neg_cancel, Int.floor_zero] at atMost atLeast
  rw [Int.floor_intCast_add, Int.floor_intCast_add]
  omega

namespace Simulator

/-- How far a unit of lateral acceleration moves the amplitude. -/
def constantGain (state : TelemetryState ℚ) : ℚ :=
  32 * max (min 1 (state.absSpeed / 5)) 0 * brakeFactor state.brake

theorem constantGain_pos {state : TelemetryState ℚ} (fast : 0.1 ≤ |state.speed|) :
    0 < constantGain state := by
  have speed : 0 < state.absSpeed := by
    rw [TelemetryState.absSpeed_eq]
    exact lt_of_lt_of_le (by norm_num) fast
  have scale : 0 < max (min 1 (state.absSpeed / 5)) 0 :=
    lt_max_of_lt_left (lt_min (by norm_num) (by positivity))
  have factor : 0 < brakeFactor state.brake := by
    unfold brakeFactor
    split_ifs <;> norm_num
  unfold constantGain
  positivity

def atLateral (state : TelemetryState ℚ) (lateralAccel : ℚ) : TelemetryState ℚ :=
  { state with lateralAccel := lateralAccel }

theorem constantAmplitude_atLateral (state : TelemetryState ℚ) (lateralAccel : ℚ) :
    constantAmplitude (atLateral state lateralAccel) =
      128 + swing 120 (lateralAccel * constantGain state) := by
  have pull : constantPull (atLateral state lateralAccel) = lateralAccel * constantGain state := by
    change lateralAccel * 32 * max (min 1 (state.absSpeed / 5)) 0 * brakeFactor state.brake = _
    unfold constantGain
    ring
  have top : (248 : ℚ) = 128 + 120 := by norm_num
  have bottom : (8 : ℚ) = 128 + -120 := by norm_num
  unfold swing
  rw [constantAmplitude_eq, pull, top, bottom, max_add_add_left, min_add_add_left]

/-- The amplitude byte that the updater stores at a lateral acceleration. -/
def lateralByte (state : TelemetryState ℚ) (simulator : Simulator ℚ) (lateralAccel : ℚ) : U8 :=
  (updateConstant (atLateral state lateralAccel) simulator).wheel.constant.amplitude

theorem lateralByte_toNat {state : TelemetryState ℚ} (fast : 0.1 ≤ |state.speed|)
    (simulator : Simulator ℚ) (lateralAccel : ℚ) :
    ((lateralByte state simulator lateralAccel).toNat : Int) =
      ⌊(128 : ℚ) + swing 120 (lateralAccel * constantGain state)⌋ := by
  have between := constantAmplitude_between (atLateral state lateralAccel)
  have range := ByteRange.of_between 8 248 (by omega) between
  have moving : (atLateral state lateralAccel).moving = true :=
    (TelemetryState.moving_iff _).mpr fast
  have stored : (updateConstant (atLateral state lateralAccel) simulator).wheel.constant =
      if (atLateral state lateralAccel).moving then
        { Wheel.defaultConstF with
          enabled := true
          amplitude := toU8 (constantAmplitude (atLateral state lateralAccel)) }
      else Wheel.defaultConstF := constant_updated _ simulator
  unfold lateralByte
  rw [stored, if_pos moving]
  dsimp only
  rw [range.toU8_toNat, truncate_of_nonneg range.1, constantAmplitude_atLateral]

/-- The byte rises with the lateral acceleration, is neutral or above just when
that points to the right, and mirrors itself around neutral. -/
theorem lateralByte_balanced {state : TelemetryState ℚ} (fast : 0.1 ≤ |state.speed|)
    (simulator : Simulator ℚ) :
    (∀ left right, left ≤ right →
      (lateralByte state simulator left).toNat ≤ (lateralByte state simulator right).toNat) ∧
    (∀ lateralAccel, 128 ≤ (lateralByte state simulator lateralAccel).toNat ↔ 0 ≤ lateralAccel) ∧
    ∀ lateralAccel,
      (lateralByte state simulator lateralAccel).toNat +
          (lateralByte state simulator (-lateralAccel)).toNat = 255 ∨
        (lateralByte state simulator lateralAccel).toNat +
          (lateralByte state simulator (-lateralAccel)).toNat = 256 := by
  have gain := constantGain_pos fast
  have positive : (0 : ℚ) < 120 := by norm_num
  refine ⟨?_, ?_, ?_⟩
  · intro left right le
    have pulls : left * constantGain state ≤ right * constantGain state :=
      mul_le_mul_of_nonneg_right le gain.le
    have floors : ⌊(128 : ℚ) + swing 120 (left * constantGain state)⌋ ≤
        ⌊(128 : ℚ) + swing 120 (right * constantGain state)⌋ :=
      Int.floor_le_floor (by linarith [swing_mono 120 pulls])
    rw [← lateralByte_toNat fast simulator, ← lateralByte_toNat fast simulator] at floors
    omega
  · intro lateralAccel
    have side : (128 : Int) ≤ ⌊(128 : ℚ) + swing 120 (lateralAccel * constantGain state)⌋ ↔
        0 ≤ lateralAccel := by
      rw [Int.le_floor, ← mul_nonneg_iff_of_pos_right gain,
        ← swing_nonneg_iff positive]
      constructor
      · intro above
        push_cast at above
        linarith
      · intro above
        push_cast
        linarith
    rw [← lateralByte_toNat fast simulator] at side
    rw [← side]
    omega
  · intro lateralAccel
    have opposite := floor_opposite 128 (swing 120 (lateralAccel * constantGain state))
    rw [← swing_neg positive.le, ← neg_mul] at opposite
    push_cast at opposite
    rw [← lateralByte_toNat fast simulator, ← lateralByte_toNat fast simulator] at opposite
    omega

def cruising : TelemetryState ℚ :=
  { TelemetryState.initial with speed := 10 }

theorem lateralByte_balanced_cruising :
    let simulator : Simulator ℚ :=
      { wheel := Wheel.initial
        prevDeflectionL := 0
        prevDeflectionR := 0 }
    (∀ left right, left ≤ right →
      (lateralByte cruising simulator left).toNat ≤ (lateralByte cruising simulator right).toNat) ∧
    (∀ lateralAccel,
      128 ≤ (lateralByte cruising simulator lateralAccel).toNat ↔ 0 ≤ lateralAccel) ∧
    ∀ lateralAccel,
      (lateralByte cruising simulator lateralAccel).toNat +
          (lateralByte cruising simulator (-lateralAccel)).toNat = 255 ∨
        (lateralByte cruising simulator lateralAccel).toNat +
          (lateralByte cruising simulator (-lateralAccel)).toNat = 256 := by
  intro simulator
  apply lateralByte_balanced
  change 0.1 ≤ |(10 : ℚ)|
  norm_num

end Simulator

end Fffb
