import Fffb.Force.Truncation
import Fffb.Force.Updates
import Mathlib.Tactic.Linarith
import Mathlib.Tactic.Positivity

/-
The parameters of the effects in closed form, in exact arithmetic.

Each formula is its updater's computation with the clamps written as minima and
maxima; the bounds that follow show which clamps never act.
-/

namespace Fffb

open FloatArith

namespace TelemetryState

theorem absSpeed_eq (state : TelemetryState ℚ) : state.absSpeed = |state.speed| := by
  have zero : (0.0 : ℚ) = 0 := by norm_num
  unfold absSpeed
  rw [lit_rat, zero, magnitude]

theorem absSpeed_nonneg (state : TelemetryState ℚ) : 0 ≤ state.absSpeed := by
  rw [absSpeed_eq]
  exact abs_nonneg _

theorem moving_iff (state : TelemetryState ℚ) : state.moving = true ↔ 0.1 ≤ |state.speed| := by
  unfold moving
  rw [absSpeed_eq, lit_rat]
  simp

theorem rough_iff (state : TelemetryState ℚ) :
    state.rough = true ↔
      (state.substanceL ≠ 0 ∨ state.substanceR ≠ 0) ∧ 0.5 ≤ |state.speed| := by
  unfold rough Simulator.offroad
  rw [absSpeed_eq, lit_rat]
  simp

end TelemetryState

namespace Simulator

def brakeFactor (brake : ℚ) : ℚ := if 7 / 10 < brake then 3 / 5 else 1

/-- The pull to one side before it is clamped. -/
def constantPull (state : TelemetryState ℚ) : ℚ :=
  state.lateralAccel * 32 * max (min 1 (state.absSpeed / 5)) 0 * brakeFactor state.brake

theorem constantAmplitude_eq (state : TelemetryState ℚ) :
    constantAmplitude state = min 248 (max (128 + constantPull state) 8) := by
  unfold constantAmplitude constantPull brakeFactor
  simp only [lit_rat, capped, raised]
  norm_num1
  rfl

theorem constantAmplitude_between (state : TelemetryState ℚ) :
    8 ≤ constantAmplitude state ∧ constantAmplitude state ≤ 248 := by
  rw [constantAmplitude_eq]
  constructor
  · exact le_min (by norm_num) (le_max_right _ _)
  · exact min_le_left _ _

def springRamp (speed : ℚ) : ℚ :=
  if speed ≤ 3 then 2
  else if speed ≤ 15 then 2 + (speed - 3) / 12 * 3
  else min 7 (5 + (speed - 15) / 15 * 2)

theorem springSlope_eq (speed : ℚ) : springSlope speed = toU8 (springRamp speed) := by
  unfold springSlope springRamp
  simp only [lit_rat, capped]
  norm_num1
  split_ifs
  · rfl
  · rfl
  · rfl

theorem springRamp_between (speed : ℚ) : 2 ≤ springRamp speed ∧ springRamp speed ≤ 7 := by
  unfold springRamp
  split_ifs with parked city
  · norm_num
  · constructor <;> linarith
  · constructor
    · exact le_min (by norm_num) (by linarith)
    · exact min_le_left _ _

theorem springAmplitude_eq (speed : ℚ) :
    springAmplitude speed = min 240 (if speed ≤ 5 then 64 + speed * 12
      else if speed ≤ 20 then 124 + (speed - 5) * 5 else 199 + (speed - 20) * 2) := by
  unfold springAmplitude
  simp only [lit_rat, capped]
  norm_num1
  rfl

theorem springAmplitude_between {speed : ℚ} (nonneg : 0 ≤ speed) :
    64 ≤ springAmplitude speed ∧ springAmplitude speed ≤ 240 := by
  rw [springAmplitude_eq]
  constructor
  · apply le_min (by norm_num)
    split_ifs <;> linarith
  · exact min_le_left _ _

def damperBase (speed : ℚ) : ℚ := min 6 (max (speed / 10 * 5) 2)

def brakeBonus (brake : ℚ) : Int := if 3 / 10 < brake then 1 else 0

theorem damperBase_between (speed : ℚ) : 2 ≤ damperBase speed ∧ damperBase speed ≤ 6 := by
  unfold damperBase
  constructor
  · exact le_min (by norm_num) (le_max_right _ _)
  · exact min_le_left _ _

theorem damperCast_between (speed : ℚ) :
    2 ≤ truncate (damperBase speed) ∧ truncate (damperBase speed) ≤ 6 :=
  truncate_between 2 6 (damperBase_between speed)

/-- Even with the bonus the slope stays under its cap. -/
theorem damperSlope_eq (state : TelemetryState ℚ) :
    damperSlope state = truncate (damperBase state.absSpeed) + brakeBonus state.brake := by
  have small := (damperCast_between state.absSpeed).2
  have uncapped : ∀ slope : Int, slope ≤ 7 → (if slope > 7 then 7 else slope) = slope := by
    intro slope below
    rw [if_neg (by omega)]
  have bonus : brakeBonus state.brake ≤ 1 := by
    unfold brakeBonus
    split_ifs <;> omega
  have casted : damperSlope state =
      if truncate (damperBase state.absSpeed) + brakeBonus state.brake > 7 then 7
      else truncate (damperBase state.absSpeed) + brakeBonus state.brake := by
    unfold damperSlope damperBase brakeBonus
    simp only [lit_rat, capped, raised]
    norm_num1
    rfl
  rw [casted, uncapped _ (by omega)]

theorem damperSlope_between (state : TelemetryState ℚ) :
    2 ≤ damperSlope state ∧ damperSlope state ≤ 7 := by
  obtain ⟨low, high⟩ := damperCast_between state.absSpeed
  rw [damperSlope_eq]
  unfold brakeBonus
  split_ifs <;> omega

theorem deflectionDelta_eq (state : TelemetryState ℚ) (prevL prevR : ℚ) :
    deflectionDelta state prevL prevR =
      max |state.suspensionDeflectionL - prevL| |state.suspensionDeflectionR - prevR| := by
  unfold deflectionDelta
  simp only [lit_rat, single_rat]
  norm_num1
  simp only [magnitude, larger]

/-- Bumps widen the range by four on either side, and no clamp acts. -/
theorem trapezoidAmps_eq (state : TelemetryState ℚ) (prevL prevR : ℚ) :
    (trapezoidAmpMax (bumpExtra state prevL prevR), trapezoidAmpMin (bumpExtra state prevL prevR)) =
      if 0.005 < max |state.suspensionDeflectionL - prevL| |state.suspensionDeflectionR - prevR|
        then ((112 : ℚ), (144 : ℚ)) else (116, 140) := by
  unfold trapezoidAmpMax trapezoidAmpMin bumpExtra
  rw [deflectionDelta_eq]
  simp only [lit_rat]
  split_ifs <;> norm_num at *

theorem speedScale_eq (speed : ℚ) : speedScale speed = min 1 (speed / 30) := by
  unfold speedScale
  simp only [lit_rat, capped]
  norm_num1
  rfl

theorem speedScale_between {speed : ℚ} (nonneg : 0 ≤ speed) :
    0 ≤ speedScale speed ∧ speedScale speed ≤ 1 := by
  rw [speedScale_eq]
  constructor
  · exact le_min (by norm_num) (by positivity)
  · exact min_le_left _ _

def trapezoidRamp (speed : ℚ) : ℚ := 2 + speedScale speed * 6

def trapezoidPeriod (speed : ℚ) : ℚ := 48 - speedScale speed * 32

theorem trapezoidRamp_between {speed : ℚ} (nonneg : 0 ≤ speed) :
    2 ≤ trapezoidRamp speed ∧ trapezoidRamp speed ≤ 8 := by
  obtain ⟨low, high⟩ := speedScale_between nonneg
  unfold trapezoidRamp
  constructor <;> linarith

theorem trapezoidPeriod_between {speed : ℚ} (nonneg : 0 ≤ speed) :
    16 ≤ trapezoidPeriod speed ∧ trapezoidPeriod speed ≤ 48 := by
  obtain ⟨low, high⟩ := speedScale_between nonneg
  unfold trapezoidPeriod
  constructor <;> linarith

theorem trapezoidSlope_eq {speed : ℚ} (nonneg : 0 ≤ speed) :
    trapezoidSlope speed = toU8 (trapezoidRamp speed) := by
  have small : (toU8 (trapezoidRamp speed)).toNat ≤ 8 :=
    (toU8_between 2 8 (by omega) (trapezoidRamp_between nonneg)).2
  have casted : trapezoidSlope speed =
      if toU8 (trapezoidRamp speed) > 0x0F then 0x0F else toU8 (trapezoidRamp speed) := by
    unfold trapezoidSlope trapezoidRamp
    simp only [lit_rat]
    norm_num1
    rfl
  have uncapped : ¬ (toU8 (trapezoidRamp speed) > (0x0F : U8)) := by
    change ¬ (15 < (toU8 (trapezoidRamp speed)).toNat)
    omega
  rw [casted, if_neg uncapped]

theorem trapezoidTime_eq {speed : ℚ} (nonneg : 0 ≤ speed) :
    trapezoidTime speed = toU8 (trapezoidPeriod speed) := by
  have large : 16 ≤ (toU8 (trapezoidPeriod speed)).toNat :=
    (toU8_between 16 48 (by omega) (trapezoidPeriod_between nonneg)).1
  have casted : trapezoidTime speed =
      if toU8 (trapezoidPeriod speed) < 8 then 8 else toU8 (trapezoidPeriod speed) := by
    unfold trapezoidTime trapezoidPeriod
    simp only [lit_rat]
    norm_num1
    rfl
  have unraised : ¬ (toU8 (trapezoidPeriod speed) < (8 : U8)) := by
    change ¬ ((toU8 (trapezoidPeriod speed)).toNat < 8)
    omega
  rw [casted, if_neg unraised]

/-! ### The effects after an update -/

theorem constant_updated (state : TelemetryState ℚ) (simulator : Simulator ℚ) :
    (updateEffects state simulator).wheel.constant =
      if state.moving then
        { Wheel.defaultConstF with
          enabled := true
          amplitude := toU8 (constantAmplitude state) }
      else Wheel.defaultConstF := by
  change (if state.absSpeed < lit 0.1 then _ else _) = _
  unfold TelemetryState.moving
  by_cases slow : state.absSpeed < lit 0.1
  · rw [if_pos slow, decide_eq_true slow]
    rfl
  · rw [if_neg slow, decide_eq_false slow]
    rfl

theorem spring_updated (state : TelemetryState ℚ) (simulator : Simulator ℚ) :
    (updateEffects state simulator).wheel.spring =
      if state.moving then
        { Wheel.defaultSpringF with
          enabled := true
          deadStart := 126
          deadEnd := 130
          slopeLeft := toU8 (springRamp state.absSpeed)
          slopeRight := toU8 (springRamp state.absSpeed)
          amplitude := toU8 (springAmplitude state.absSpeed) }
      else Wheel.defaultSpringF := by
  have threshold : (0.10 : ℚ) = 0.1 := by norm_num
  change (if state.absSpeed < lit 0.10 then _ else _) = _
  unfold TelemetryState.moving
  rw [threshold, springSlope_eq]
  by_cases slow : state.absSpeed < lit 0.1
  · rw [if_pos slow, decide_eq_true slow]
    rfl
  · rw [if_neg slow, decide_eq_false slow]
    rfl

theorem damper_updated (state : TelemetryState ℚ) (simulator : Simulator ℚ) :
    (updateEffects state simulator).wheel.damper =
      { Wheel.defaultDamperF with
        enabled := true
        slopeLeft := BitVec.ofInt 8 (damperSlope state)
        slopeRight := BitVec.ofInt 8 (damperSlope state) } := rfl

theorem trapezoid_updated (state : TelemetryState ℚ) (simulator : Simulator ℚ) :
    (updateEffects state simulator).wheel.trapezoid =
      if state.rough then
        { Wheel.defaultTrapF with
          enabled := true
          amplitudeMax := toU8 (trapezoidAmpMax
            (bumpExtra state simulator.prevDeflectionL simulator.prevDeflectionR))
          amplitudeMin := toU8 (trapezoidAmpMin
            (bumpExtra state simulator.prevDeflectionL simulator.prevDeflectionR))
          slopeStepX := toU8 (trapezoidRamp state.absSpeed)
          slopeStepY := toU8 (trapezoidRamp state.absSpeed)
          tAtMax := toU8 (trapezoidPeriod state.absSpeed)
          tAtMin := toU8 (trapezoidPeriod state.absSpeed) }
      else Wheel.defaultTrapF := by
  change (if !offroad state || decide (state.absSpeed < lit 0.5) then _ else _) = _
  unfold TelemetryState.rough
  rw [trapezoidSlope_eq state.absSpeed_nonneg, trapezoidTime_eq state.absSpeed_nonneg]
  cases offroad state with
  | false => rfl
  | true =>
      cases decide (state.absSpeed < lit 0.5) with
      | false => rfl
      | true => rfl

end Simulator

end Fffb
