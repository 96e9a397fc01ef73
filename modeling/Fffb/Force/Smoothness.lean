import Fffb.Force.Monotone
import Fffb.Foundation.Steady

/-
The effects do not jump when the speed changes a little.

Each ramp is put together from straight pieces that meet at their breakpoints,
so its rate is that of its steepest piece; truncation to a byte adds less than
one to the difference of two values.
-/

namespace Fffb

open FloatArith

theorem truncate_distance {left right : ℚ} (leftNonneg : 0 ≤ left) (rightNonneg : 0 ≤ right) :
    |(truncate left : ℚ) - truncate right| ≤ |left - right| + 1 := by
  have leftBelow := Int.floor_le left
  have leftAbove := Int.lt_floor_add_one left
  have rightBelow := Int.floor_le right
  have rightAbove := Int.lt_floor_add_one right
  rw [truncate_of_nonneg leftNonneg, truncate_of_nonneg rightNonneg, abs_le]
  constructor
  · linarith [neg_abs_le (left - right)]
  · linarith [le_abs_self (left - right)]

def byteDistance (left right : U8) : ℚ := |(left.toNat : ℚ) - right.toNat|

theorem byteDistance_of_truncates {left right : U8} {leftValue rightValue : ℚ} {offset : Int}
    (leftNonneg : 0 ≤ leftValue) (rightNonneg : 0 ≤ rightValue)
    (leftByte : (left.toNat : Int) = truncate leftValue + offset)
    (rightByte : (right.toNat : Int) = truncate rightValue + offset) :
    byteDistance left right ≤ |leftValue - rightValue| + 1 := by
  have leftCast : (left.toNat : ℚ) = truncate leftValue + offset := by exact_mod_cast leftByte
  have rightCast : (right.toNat : ℚ) = truncate rightValue + offset := by exact_mod_cast rightByte
  unfold byteDistance
  rw [leftCast, rightCast, add_sub_add_right_eq_sub]
  exact truncate_distance leftNonneg rightNonneg

theorem ByteRange.byteDistance_le {left right : ℚ} (leftRange : ByteRange left)
    (rightRange : ByteRange right) :
    byteDistance (toU8 left) (toU8 right) ≤ |left - right| + 1 := by
  apply byteDistance_of_truncates leftRange.1 rightRange.1
  · rw [leftRange.toU8_toNat, add_zero]
  · rw [rightRange.toU8_toNat, add_zero]

/-- The bytes that a ramp is cast to differ by its rate over the distance, and
by one for the truncation. -/
theorem Steady.byteDistance_le {rate : ℚ} {ramp : ℚ → ℚ} (steady : Steady rate ramp)
    {left right : ℚ} (leftRange : ByteRange (ramp left)) (rightRange : ByteRange (ramp right)) :
    byteDistance (toU8 (ramp left)) (toU8 (ramp right)) ≤ rate * |left - right| + 1 :=
  (leftRange.byteDistance_le rightRange).trans (by linarith [steady left right])

namespace Simulator

theorem springRamp_steady : Steady (1 / 4) springRamp := by
  have parked : Steady (1 / 4 : ℚ) fun _ => 2 :=
    .of_line 2 0 (fun speed => by ring) (by norm_num)
  have city : Steady (1 / 4 : ℚ) fun speed => 2 + (speed - 3) / 12 * 3 :=
    .of_line (5 / 4) (1 / 4) (fun speed => by ring) (by norm_num)
  have highway : Steady (1 / 4 : ℚ) fun speed => 5 + (speed - 15) / 15 * 2 :=
    .of_line 3 (2 / 15) (fun speed => by ring) (by norm_num)
  exact parked.glue (by norm_num) (city.glue (by norm_num) (highway.cap 7))

theorem springAmplitude_steady : Steady 12 (springAmplitude : ℚ → ℚ) := by
  have parking : Steady (12 : ℚ) fun speed => 64 + speed * 12 :=
    .of_line 64 12 (fun speed => by ring) (by norm_num)
  have city : Steady (12 : ℚ) fun speed => 124 + (speed - 5) * 5 :=
    .of_line 99 5 (fun speed => by ring) (by norm_num)
  have highway : Steady (12 : ℚ) fun speed => 199 + (speed - 20) * 2 :=
    .of_line 159 2 (fun speed => by ring) (by norm_num)
  rw [funext springAmplitude_eq]
  exact (parking.glue (by norm_num) (city.glue (by norm_num) highway)).cap 240

theorem damperBase_steady : Steady (1 / 2) damperBase := by
  have line : Steady (1 / 2 : ℚ) fun speed => speed / 10 * 5 :=
    .of_line 0 (1 / 2) (fun speed => by ring) (by norm_num)
  exact (line.raise 2).cap 6

theorem speedScale_steady : Steady (1 / 30) (speedScale : ℚ → ℚ) := by
  have line : Steady (1 / 30 : ℚ) fun speed => speed / 30 :=
    .of_line 0 (1 / 30) (fun speed => by ring) (by norm_num)
  rw [funext speedScale_eq]
  exact line.cap 1

theorem trapezoidRamp_steady : Steady (1 / 5) trapezoidRamp :=
  ((speedScale_steady.scale 6).shift 2).of_le (by norm_num)

theorem trapezoidPeriod_steady : Steady (16 / 15) trapezoidPeriod := by
  have period : trapezoidPeriod = fun speed => 48 + speedScale speed * -32 := by
    funext speed
    unfold trapezoidPeriod
    ring
  rw [period]
  exact ((speedScale_steady.scale (-32)).shift 48).of_le (by norm_num)

def pullScale (speed : ℚ) : ℚ := max (min 1 (speed / 5)) 0

theorem pullScale_steady : Steady (1 / 5) pullScale := by
  have line : Steady (1 / 5 : ℚ) fun speed => speed / 5 :=
    .of_line 0 (1 / 5) (fun speed => by ring) (by norm_num)
  exact (line.cap 1).raise 0

/-- The constant force has a rate for each lateral acceleration; braking only
lowers it. -/
theorem constantAmplitude_steady {left right : TelemetryState ℚ}
    (lateral : left.lateralAccel = right.lateralAccel) (brake : left.brake = right.brake) :
    |constantAmplitude left - constantAmplitude right| ≤
      32 / 5 * |right.lateralAccel| * |left.absSpeed - right.absSpeed| := by
  obtain ⟨braked, unbraked⟩ := brakeFactor_between right.brake
  have factor : 0 ≤ brakeFactor right.brake := by linarith
  let gain := right.lateralAccel * 32 * brakeFactor right.brake
  have gains : |gain| ≤ |right.lateralAccel| * 32 := by
    calc |gain|
        = |right.lateralAccel| * 32 * brakeFactor right.brake := by
          unfold gain
          rw [abs_mul, abs_mul, abs_of_nonneg factor, abs_of_pos (by norm_num : (0 : ℚ) < 32)]
      _ ≤ |right.lateralAccel| * 32 * 1 := by gcongr
      _ = |right.lateralAccel| * 32 := mul_one _
  have curve : Steady (1 / 5 * |gain|) fun speed =>
      min 248 (max (128 + pullScale speed * gain) 8) :=
    (((pullScale_steady.scale gain).shift 128).raise 8).cap 248
  have amplitude : ∀ state : TelemetryState ℚ, state.lateralAccel = right.lateralAccel →
      state.brake = right.brake → constantAmplitude state =
        min 248 (max (128 + pullScale state.absSpeed * gain) 8) := by
    intro state sameLateral sameBrake
    have pull : constantPull state = pullScale state.absSpeed * gain := by
      unfold constantPull pullScale gain
      rw [sameLateral, sameBrake]
      ring
    rw [constantAmplitude_eq, pull]
  rw [amplitude left lateral brake, amplitude right rfl rfl]
  exact (curve.of_le (by linarith)) left.absSpeed right.absSpeed

theorem damperSlope_distance {left right : TelemetryState ℚ} (brake : left.brake = right.brake) :
    byteDistance (BitVec.ofInt 8 (damperSlope left)) (BitVec.ofInt 8 (damperSlope right)) ≤
      1 / 2 * |left.absSpeed - right.absSpeed| + 1 := by
  have nonneg : ∀ speed, 0 ≤ damperBase speed := by
    intro speed
    linarith [(damperBase_between speed).1]
  have leftByte := damperSlope_toNat left
  have rightByte := damperSlope_toNat right
  rw [damperSlope_eq] at leftByte rightByte
  rw [brake] at leftByte
  rw [damperSlope_eq, damperSlope_eq, brake]
  have distance := byteDistance_of_truncates (nonneg left.absSpeed) (nonneg right.absSpeed)
    leftByte rightByte
  linarith [damperBase_steady left.absSpeed right.absSpeed]

/-- As far as both updates enable an effect, its parameters differ by a rate
over the distance of the speeds, and by one for the truncation. -/
structure NoJolt (distance lateralAccel : ℚ) (left right : Wheel) : Prop where
  springAmplitude : left.spring.enabled = true → right.spring.enabled = true →
    byteDistance left.spring.amplitude right.spring.amplitude ≤ 12 * distance + 1
  springSlopes : left.spring.enabled = true → right.spring.enabled = true →
    byteDistance left.spring.slopeLeft right.spring.slopeLeft ≤ distance / 4 + 1 ∧
      byteDistance left.spring.slopeRight right.spring.slopeRight ≤ distance / 4 + 1
  damperSlopes : left.damper.enabled = true → right.damper.enabled = true →
    byteDistance left.damper.slopeLeft right.damper.slopeLeft ≤ distance / 2 + 1 ∧
      byteDistance left.damper.slopeRight right.damper.slopeRight ≤ distance / 2 + 1
  trapezoidSteps : left.trapezoid.enabled = true → right.trapezoid.enabled = true →
    byteDistance left.trapezoid.slopeStepX right.trapezoid.slopeStepX ≤ distance / 5 + 1 ∧
      byteDistance left.trapezoid.slopeStepY right.trapezoid.slopeStepY ≤ distance / 5 + 1
  trapezoidTimes : left.trapezoid.enabled = true → right.trapezoid.enabled = true →
    byteDistance left.trapezoid.tAtMax right.trapezoid.tAtMax ≤ 16 / 15 * distance + 1 ∧
      byteDistance left.trapezoid.tAtMin right.trapezoid.tAtMin ≤ 16 / 15 * distance + 1
  constantAmplitude : left.constant.enabled = true → right.constant.enabled = true →
    byteDistance left.constant.amplitude right.constant.amplitude ≤
      32 / 5 * |lateralAccel| * distance + 1

/-- Two updates of one simulator whose telemetry differs in the speed alone are
no jolt, wherever on the curves the speeds lie. -/
theorem updateEffects_noJolt (state : TelemetryState ℚ) (simulator : Simulator ℚ)
    (first second : ℚ) :
    NoJolt |(|first| - |second|)| state.lateralAccel
      (updateEffects (atSpeed state first) simulator).wheel
      (updateEffects (atSpeed state second) simulator).wheel := by
  have left := (atSpeed state first).absSpeed_nonneg
  have right := (atSpeed state second).absSpeed_nonneg
  have pulls : ∀ speed, (updateEffects (atSpeed state speed) simulator).wheel.constant.enabled =
      true → (atSpeed state speed).moving = true :=
    fun speed enabled => (updateEffects_enabled _ simulator .constant).symm.trans enabled
  have moves : ∀ speed, (updateEffects (atSpeed state speed) simulator).wheel.spring.enabled =
      true → (atSpeed state speed).moving = true :=
    fun speed enabled => (updateEffects_enabled _ simulator .spring).symm.trans enabled
  have shakes : ∀ speed, (updateEffects (atSpeed state speed) simulator).wheel.trapezoid.enabled =
      true → (atSpeed state speed).rough = true :=
    fun speed enabled => (updateEffects_enabled _ simulator .trapezoid).symm.trans enabled
  rw [← atSpeed_absSpeed state first, ← atSpeed_absSpeed state second]
  constructor
  · intro firstEnabled secondEnabled
    rw [spring_updated, spring_updated, if_pos (moves first firstEnabled),
      if_pos (moves second secondEnabled)]
    exact springAmplitude_steady.byteDistance_le
      (.of_between 64 240 (by omega) (springAmplitude_between left))
      (.of_between 64 240 (by omega) (springAmplitude_between right))
  · intro firstEnabled secondEnabled
    have slopes := springRamp_steady.byteDistance_le
      (.of_between 2 7 (by omega) (springRamp_between (atSpeed state first).absSpeed))
      (.of_between 2 7 (by omega) (springRamp_between (atSpeed state second).absSpeed))
    rw [one_div_mul_eq_div] at slopes
    rw [spring_updated, spring_updated, if_pos (moves first firstEnabled),
      if_pos (moves second secondEnabled)]
    exact ⟨slopes, slopes⟩
  · intro _ _
    have slopes : byteDistance (BitVec.ofInt 8 (damperSlope (atSpeed state first)))
        (BitVec.ofInt 8 (damperSlope (atSpeed state second))) ≤ _ := damperSlope_distance rfl
    rw [one_div_mul_eq_div] at slopes
    rw [damper_updated, damper_updated]
    exact ⟨slopes, slopes⟩
  · intro firstEnabled secondEnabled
    have steps := trapezoidRamp_steady.byteDistance_le
      (.of_between 2 8 (by omega) (trapezoidRamp_between left))
      (.of_between 2 8 (by omega) (trapezoidRamp_between right))
    rw [one_div_mul_eq_div] at steps
    rw [trapezoid_updated, trapezoid_updated, if_pos (shakes first firstEnabled),
      if_pos (shakes second secondEnabled)]
    exact ⟨steps, steps⟩
  · intro firstEnabled secondEnabled
    have times := trapezoidPeriod_steady.byteDistance_le
      (.of_between 16 48 (by omega) (trapezoidPeriod_between left))
      (.of_between 16 48 (by omega) (trapezoidPeriod_between right))
    rw [trapezoid_updated, trapezoid_updated, if_pos (shakes first firstEnabled),
      if_pos (shakes second secondEnabled)]
    exact ⟨times, times⟩
  · intro firstEnabled secondEnabled
    have firstRange := ByteRange.of_between 8 248 (by omega)
      (constantAmplitude_between (atSpeed state first))
    have secondRange := ByteRange.of_between 8 248 (by omega)
      (constantAmplitude_between (atSpeed state second))
    have amplitudes : |constantAmplitude (atSpeed state first) -
        constantAmplitude (atSpeed state second)| ≤ _ := constantAmplitude_steady rfl rfl
    rw [constant_updated, constant_updated, if_pos (pulls first firstEnabled),
      if_pos (pulls second secondEnabled)]
    exact (firstRange.byteDistance_le secondRange).trans (add_le_add_left amplitudes 1)

end Simulator

end Fffb
