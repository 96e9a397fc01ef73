import Fffb.Force.Exact

/-
The effects and the speed of the truck.

Each parameter is a ramp in the magnitude of the speed, clamped at its ends and
truncated, so it rises with the speed, or falls where it is a period.  Braking
only scales the constant force down and lifts the slope of the damper.
-/

namespace Fffb

open FloatArith

theorem clamped_distance {radius : ℚ} (nonneg : 0 ≤ radius) (center offset : ℚ) :
    |min (center + radius) (max (center + offset) (center - radius)) - center| =
      min radius |offset| := by
  rcases le_total offset (-radius) with left | inside
  · have far : radius ≤ |offset| := by
      rw [abs_of_nonpos (by linarith)]
      linarith
    rw [max_eq_right (by linarith), min_eq_right (by linarith), min_eq_left far, sub_sub_cancel_left,
      abs_neg, abs_of_nonneg nonneg]
  · rw [max_eq_left (by linarith)]
    rcases le_total offset radius with within | right
    · have near : |offset| ≤ radius := abs_le.mpr ⟨inside, within⟩
      rw [min_eq_right (by linarith), min_eq_right near, add_sub_cancel_left]
    · have far : radius ≤ |offset| := right.trans (le_abs_self offset)
      rw [min_eq_left (by linarith), min_eq_left far, add_sub_cancel_left, abs_of_nonneg nonneg]

namespace Simulator

def constantDistance (state : TelemetryState ℚ) : ℚ := |constantAmplitude state - 128|

theorem constantDistance_eq (state : TelemetryState ℚ) :
    constantDistance state = min 120 |constantPull state| := by
  have clamped := clamped_distance (by norm_num : (0 : ℚ) ≤ 120) 128 (constantPull state)
  norm_num1 at clamped
  unfold constantDistance
  rw [constantAmplitude_eq]
  exact clamped

theorem brakeFactor_between (brake : ℚ) : 3 / 5 ≤ brakeFactor brake ∧ brakeFactor brake ≤ 1 := by
  unfold brakeFactor
  split_ifs <;> norm_num

theorem abs_constantPull (state : TelemetryState ℚ) :
    |constantPull state| =
      |state.lateralAccel * 32| * max (min 1 (state.absSpeed / 5)) 0 * brakeFactor state.brake := by
  have factor : 0 ≤ brakeFactor state.brake := by
    linarith [(brakeFactor_between state.brake).1]
  have ramp : 0 ≤ max (min 1 (state.absSpeed / 5)) 0 := le_max_right _ _
  unfold constantPull
  rw [abs_mul, abs_mul, abs_of_nonneg factor, abs_of_nonneg ramp]

theorem constantDistance_mono {slow fast : TelemetryState ℚ}
    (lateral : slow.lateralAccel = fast.lateralAccel) (brake : slow.brake = fast.brake)
    (faster : slow.absSpeed ≤ fast.absSpeed) : constantDistance slow ≤ constantDistance fast := by
  have factor : 0 ≤ brakeFactor fast.brake := by
    linarith [(brakeFactor_between fast.brake).1]
  rw [constantDistance_eq, constantDistance_eq, abs_constantPull, abs_constantPull, lateral, brake]
  gcongr

/-- Hard braking scales the pull by the smallest factor there is. -/
theorem constantDistance_braking {gentle hard : TelemetryState ℚ}
    (lateral : gentle.lateralAccel = hard.lateralAccel) (speed : gentle.absSpeed = hard.absSpeed)
    (braking : 0.7 < hard.brake) : constantDistance hard ≤ constantDistance gentle := by
  have threshold : 7 / 10 < hard.brake := by
    norm_num1 at braking
    exact braking
  have factor : brakeFactor hard.brake ≤ brakeFactor gentle.brake := by
    have least := (brakeFactor_between gentle.brake).1
    unfold brakeFactor at least ⊢
    rw [if_pos threshold]
    exact least
  rw [constantDistance_eq, constantDistance_eq, abs_constantPull, abs_constantPull, lateral, speed]
  gcongr

theorem springRamp_mono {slow fast : ℚ} (faster : slow ≤ fast) :
    springRamp slow ≤ springRamp fast := by
  unfold springRamp
  split_ifs
  · rfl
  · linarith
  · exact le_min (by norm_num) (by linarith)
  · linarith
  · linarith
  · exact le_min (by linarith) (by linarith)
  · linarith
  · linarith
  · exact min_le_min_left 7 (by linarith)

theorem springAmplitude_mono {slow fast : ℚ} (faster : slow ≤ fast) :
    springAmplitude slow ≤ springAmplitude fast := by
  rw [springAmplitude_eq, springAmplitude_eq]
  apply min_le_min_left
  split_ifs <;> linarith

theorem damperBase_mono {slow fast : ℚ} (faster : slow ≤ fast) :
    damperBase slow ≤ damperBase fast := by
  unfold damperBase
  gcongr

theorem speedScale_mono {slow fast : ℚ} (faster : slow ≤ fast) :
    speedScale slow ≤ speedScale fast := by
  rw [speedScale_eq, speedScale_eq]
  gcongr

theorem trapezoidRamp_mono {slow fast : ℚ} (faster : slow ≤ fast) :
    trapezoidRamp slow ≤ trapezoidRamp fast := by
  have scale := speedScale_mono faster
  unfold trapezoidRamp
  linarith

theorem trapezoidPeriod_antitone {slow fast : ℚ} (faster : slow ≤ fast) :
    trapezoidPeriod fast ≤ trapezoidPeriod slow := by
  have scale := speedScale_mono faster
  unfold trapezoidPeriod
  linarith

theorem springSlope_cast_mono {slow fast : ℚ} (faster : slow ≤ fast) :
    (toU8 (springRamp slow) : U8) ≤ toU8 (springRamp fast) :=
  toU8_mono 2 7 (by omega) (springRamp_between slow) (springRamp_between fast)
    (springRamp_mono faster)

theorem springAmplitude_cast_mono {slow fast : ℚ} (nonneg : 0 ≤ slow) (faster : slow ≤ fast) :
    (toU8 (springAmplitude slow) : U8) ≤ toU8 (springAmplitude fast) :=
  toU8_mono 64 240 (by omega) (springAmplitude_between nonneg)
    (springAmplitude_between (nonneg.trans faster)) (springAmplitude_mono faster)

theorem trapezoidSlope_cast_mono {slow fast : ℚ} (nonneg : 0 ≤ slow) (faster : slow ≤ fast) :
    (toU8 (trapezoidRamp slow) : U8) ≤ toU8 (trapezoidRamp fast) :=
  toU8_mono 2 8 (by omega) (trapezoidRamp_between nonneg)
    (trapezoidRamp_between (nonneg.trans faster)) (trapezoidRamp_mono faster)

theorem trapezoidTime_cast_antitone {slow fast : ℚ} (nonneg : 0 ≤ slow) (faster : slow ≤ fast) :
    (toU8 (trapezoidPeriod fast) : U8) ≤ toU8 (trapezoidPeriod slow) :=
  toU8_mono 16 48 (by omega) (trapezoidPeriod_between (nonneg.trans faster))
    (trapezoidPeriod_between nonneg) (trapezoidPeriod_antitone faster)

theorem damperSlope_toNat (state : TelemetryState ℚ) :
    ((BitVec.ofInt 8 (damperSlope state)).toNat : Int) = damperSlope state := by
  obtain ⟨low, high⟩ := damperSlope_between state
  rw [BitVec.toNat_ofInt]
  omega

theorem damperSlope_cast_mono {slow fast : TelemetryState ℚ} (brake : slow.brake = fast.brake)
    (faster : slow.absSpeed ≤ fast.absSpeed) :
    BitVec.ofInt 8 (damperSlope slow) ≤ BitVec.ofInt 8 (damperSlope fast) := by
  have positive : 0 ≤ damperBase slow.absSpeed := by
    linarith [(damperBase_between slow.absSpeed).1]
  have truncated := truncate_mono positive (damperBase_mono faster)
  have slowByte := damperSlope_toNat slow
  have fastByte := damperSlope_toNat fast
  rw [damperSlope_eq] at slowByte fastByte
  rw [brake] at slowByte
  rw [BitVec.le_def, damperSlope_eq, damperSlope_eq, brake]
  omega

theorem damperSlope_cast_braking {gentle hard : TelemetryState ℚ}
    (speed : gentle.absSpeed = hard.absSpeed) (below : gentle.brake ≤ 0.3)
    (above : 0.3 < hard.brake) :
    BitVec.ofInt 8 (damperSlope gentle) < BitVec.ofInt 8 (damperSlope hard) := by
  norm_num1 at below above
  have gentleByte := damperSlope_toNat gentle
  have hardByte := damperSlope_toNat hard
  have none : brakeBonus gentle.brake = 0 := if_neg (not_lt.mpr below)
  have bonus : brakeBonus hard.brake = 1 := if_pos above
  rw [damperSlope_eq, none, speed] at gentleByte
  rw [damperSlope_eq, bonus] at hardByte
  rw [BitVec.lt_def, damperSlope_eq, damperSlope_eq, none, bonus, speed]
  omega

/-! ### Whole updates -/

/-- An update at the first telemetry has no effect stronger than an update of
the same simulator at the second one. -/
structure NoStronger (slow fast : TelemetryState ℚ) (simulator : Simulator ℚ) : Prop where
  enabled : ∀ effect, (updateEffects slow simulator).wheel.enabled effect = true →
    (updateEffects fast simulator).wheel.enabled effect = true
  constant : |constantAmplitude slow - 128| ≤ |constantAmplitude fast - 128|
  spring : (updateEffects slow simulator).wheel.enabled .spring = true →
    (updateEffects slow simulator).wheel.spring.slopeLeft ≤
        (updateEffects fast simulator).wheel.spring.slopeLeft ∧
      (updateEffects slow simulator).wheel.spring.slopeRight ≤
        (updateEffects fast simulator).wheel.spring.slopeRight ∧
      (updateEffects slow simulator).wheel.spring.amplitude ≤
        (updateEffects fast simulator).wheel.spring.amplitude
  damper : (updateEffects slow simulator).wheel.damper.slopeLeft ≤
        (updateEffects fast simulator).wheel.damper.slopeLeft ∧
      (updateEffects slow simulator).wheel.damper.slopeRight ≤
        (updateEffects fast simulator).wheel.damper.slopeRight
  trapezoid : (updateEffects slow simulator).wheel.enabled .trapezoid = true →
    (updateEffects slow simulator).wheel.trapezoid.slopeStepX ≤
        (updateEffects fast simulator).wheel.trapezoid.slopeStepX ∧
      (updateEffects slow simulator).wheel.trapezoid.slopeStepY ≤
        (updateEffects fast simulator).wheel.trapezoid.slopeStepY ∧
      (updateEffects fast simulator).wheel.trapezoid.tAtMax ≤
        (updateEffects slow simulator).wheel.trapezoid.tAtMax ∧
      (updateEffects fast simulator).wheel.trapezoid.tAtMin ≤
        (updateEffects slow simulator).wheel.trapezoid.tAtMin

def atSpeed (state : TelemetryState ℚ) (speed : ℚ) : TelemetryState ℚ :=
  { state with speed := speed }

def withBrake (state : TelemetryState ℚ) (brake : ℚ) : TelemetryState ℚ :=
  { state with brake := brake }

theorem atSpeed_absSpeed (state : TelemetryState ℚ) (speed : ℚ) :
    (atSpeed state speed).absSpeed = |speed| := TelemetryState.absSpeed_eq _

theorem atSpeed_wants_mono (state : TelemetryState ℚ) {slow fast : ℚ} (faster : |slow| ≤ |fast|)
    (effect : Effect) (wanted : (atSpeed state slow).wants effect = true) :
    (atSpeed state fast).wants effect = true := by
  have moving : (atSpeed state slow).moving = true → (atSpeed state fast).moving = true := by
    rw [TelemetryState.moving_iff, TelemetryState.moving_iff]
    exact fun fastEnough => fastEnough.trans faster
  cases effect with
  | constant => exact moving wanted
  | spring => exact moving wanted
  | damper => rfl
  | trapezoid =>
      obtain ⟨substance, fastEnough⟩ := (TelemetryState.rough_iff _).mp wanted
      exact (TelemetryState.rough_iff _).mpr ⟨substance, fastEnough.trans faster⟩

theorem noStronger_of_faster (state : TelemetryState ℚ) (simulator : Simulator ℚ)
    {slow fast : ℚ} (faster : |slow| ≤ |fast|) :
    NoStronger (atSpeed state slow) (atSpeed state fast) simulator := by
  have speeds : (atSpeed state slow).absSpeed ≤ (atSpeed state fast).absSpeed := by
    rw [atSpeed_absSpeed, atSpeed_absSpeed]
    exact faster
  have nonneg := (atSpeed state slow).absSpeed_nonneg
  have wanted := atSpeed_wants_mono state faster
  constructor
  · intro effect
    rw [updateEffects_enabled, updateEffects_enabled]
    exact wanted effect
  · exact constantDistance_mono rfl rfl speeds
  · intro enabled
    rw [updateEffects_enabled] at enabled
    have slowMoving : (atSpeed state slow).moving = true := enabled
    have fastMoving : (atSpeed state fast).moving = true := wanted .spring enabled
    rw [spring_updated, spring_updated, if_pos slowMoving, if_pos fastMoving]
    exact ⟨springSlope_cast_mono speeds, springSlope_cast_mono speeds,
      springAmplitude_cast_mono nonneg speeds⟩
  · rw [damper_updated, damper_updated]
    exact ⟨damperSlope_cast_mono rfl speeds, damperSlope_cast_mono rfl speeds⟩
  · intro enabled
    rw [updateEffects_enabled] at enabled
    have slowRough : (atSpeed state slow).rough = true := enabled
    have fastRough : (atSpeed state fast).rough = true := wanted .trapezoid enabled
    rw [trapezoid_updated, trapezoid_updated, if_pos slowRough, if_pos fastRough]
    exact ⟨trapezoidSlope_cast_mono nonneg speeds, trapezoidSlope_cast_mono nonneg speeds,
      trapezoidTime_cast_antitone nonneg speeds, trapezoidTime_cast_antitone nonneg speeds⟩

theorem updateEffects_of_same_magnitude (state : TelemetryState ℚ) (simulator : Simulator ℚ)
    {forward backward : ℚ} (same : |forward| = |backward|) :
    updateEffects (atSpeed state forward) simulator =
      updateEffects (atSpeed state backward) simulator := by
  have speeds : (atSpeed state forward).absSpeed = (atSpeed state backward).absSpeed := by
    rw [atSpeed_absSpeed, atSpeed_absSpeed]
    exact same
  unfold updateEffects updateTrapezoid updateDamper updateSpring updateConstant constantAmplitude
    damperSlope
  rw [speeds]
  rfl

theorem constant_amplitude_updated {state : TelemetryState ℚ} {simulator : Simulator ℚ}
    (enabled : (updateEffects state simulator).wheel.enabled .constant = true) :
    (updateEffects state simulator).wheel.constant.amplitude = toU8 (constantAmplitude state) := by
  rw [updateEffects_enabled] at enabled
  have moving : state.moving = true := enabled
  rw [constant_updated, if_pos moving]

/-- Faster is never weaker, the direction does not matter, and braking lifts
the damper and never the constant force, whose amplitude is compared before it
is truncated to the byte that is stored. -/
theorem updateEffects_strength (state : TelemetryState ℚ) (simulator : Simulator ℚ)
    (slow fast gentle hard : ℚ) :
    (|slow| ≤ |fast| → NoStronger (atSpeed state slow) (atSpeed state fast) simulator) ∧
    (|slow| = |fast| → ∀ effect,
      (updateEffects (atSpeed state slow) simulator).wheel.force effect =
        (updateEffects (atSpeed state fast) simulator).wheel.force effect) ∧
    (gentle ≤ 0.3 → 0.3 < hard →
      (updateEffects (withBrake state gentle) simulator).wheel.damper.slopeLeft <
          (updateEffects (withBrake state hard) simulator).wheel.damper.slopeLeft ∧
        (updateEffects (withBrake state gentle) simulator).wheel.damper.slopeRight <
          (updateEffects (withBrake state hard) simulator).wheel.damper.slopeRight) ∧
    (0.7 < hard →
      |constantAmplitude (withBrake state hard) - 128| ≤
        |constantAmplitude (withBrake state gentle) - 128|) ∧
    ∀ current, (updateEffects current simulator).wheel.enabled .constant = true →
      (updateEffects current simulator).wheel.constant.amplitude =
        toU8 (constantAmplitude current) := by
  refine ⟨noStronger_of_faster state simulator, ?_, ?_, ?_, fun _ => constant_amplitude_updated⟩
  · intro same effect
    rw [updateEffects_of_same_magnitude state simulator same]
  · intro below above
    have slope : BitVec.ofInt 8 (damperSlope (withBrake state gentle)) <
        BitVec.ofInt 8 (damperSlope (withBrake state hard)) :=
      damperSlope_cast_braking rfl below above
    rw [damper_updated, damper_updated]
    exact ⟨slope, slope⟩
  · intro braking
    exact constantDistance_braking rfl rfl braking

def cornering : TelemetryState ℚ :=
  { TelemetryState.initial with
    speed := 10
    lateralAccel := 1 }

theorem updateEffects_strength_in_reverse :
    let simulator : Simulator ℚ :=
      { wheel := Wheel.initial
        prevDeflectionL := 0
        prevDeflectionR := 0 }
    NoStronger (atSpeed cornering (-3)) (atSpeed cornering 20) simulator ∧
      (∀ effect, (updateEffects (atSpeed cornering (-3)) simulator).wheel.force effect =
        (updateEffects (atSpeed cornering 3) simulator).wheel.force effect) ∧
      (updateEffects (withBrake cornering 0) simulator).wheel.damper.slopeLeft <
        (updateEffects (withBrake cornering 1) simulator).wheel.damper.slopeLeft ∧
      |constantAmplitude (withBrake cornering 1) - 128| ≤
        |constantAmplitude (withBrake cornering 0) - 128| ∧
      (updateEffects cornering simulator).wheel.constant.amplitude =
        toU8 (constantAmplitude cornering) := by
  intro simulator
  obtain ⟨faster, _, _, _, _⟩ := updateEffects_strength cornering simulator (-3) 20 0 1
  obtain ⟨_, same, brakes, eases, stored⟩ := updateEffects_strength cornering simulator (-3) 3 0 1
  refine ⟨faster ?_, same ?_, (brakes ?_ ?_).1, eases ?_, stored cornering ?_⟩
  · decide +kernel
  · decide +kernel
  · norm_num
  · norm_num
  · norm_num
  · decide +kernel

end Simulator

end Fffb
