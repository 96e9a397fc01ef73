import Fffb.Force.Exact
import Fffb.Joy.ReportCodec

/-
What an update computes is what the wheel receives.

Every value that an updater casts to a byte lies in the range of a byte, the
parameters fit the fields of their reports, and so a decoder gives back what
the update stored.
-/

namespace Fffb

open FloatArith

def Wheel.parameters (wheel : Wheel) : Effect → EncodedForce
  | .constant => .constant wheel.constant.amplitude
  | .spring =>
      .spring wheel.spring.deadStart wheel.spring.deadEnd wheel.spring.slopeLeft
        wheel.spring.slopeRight wheel.spring.invertLeft wheel.spring.invertRight
        wheel.spring.amplitude
  | .damper =>
      .damper wheel.damper.slopeLeft wheel.damper.slopeRight wheel.damper.invertLeft
        wheel.damper.invertRight
  | .trapezoid =>
      .trapezoid wheel.trapezoid.amplitudeMax wheel.trapezoid.amplitudeMin wheel.trapezoid.tAtMax
        wheel.trapezoid.tAtMin wheel.trapezoid.slopeStepX wheel.trapezoid.slopeStepY

/-- The parameters stay within what the source promises of them. -/
structure Wheel.Bounded (wheel : Wheel) : Prop where
  springSlopes : wheel.spring.slopeLeft.toNat ≤ 7 ∧ wheel.spring.slopeRight.toNat ≤ 7
  damperSlopes : wheel.damper.slopeLeft.toNat ≤ 7 ∧ wheel.damper.slopeRight.toNat ≤ 7
  trapezoidSteps : wheel.trapezoid.slopeStepX.toNat ≤ 15 ∧ wheel.trapezoid.slopeStepY.toNat ≤ 15
  constantAmplitude : 8 ≤ wheel.constant.amplitude.toNat ∧ wheel.constant.amplitude.toNat ≤ 248
  springAmplitude : wheel.spring.amplitude.toNat ≤ 240

namespace Simulator

def constantConversions (state : TelemetryState ℚ) : List ℚ :=
  if state.absSpeed < lit 0.1 then [] else [constantAmplitude state]

def springConversions (state : TelemetryState ℚ) : List ℚ :=
  if state.absSpeed < lit 0.10 then []
  else [springRamp state.absSpeed, springAmplitude state.absSpeed]

def trapezoidConversions (state : TelemetryState ℚ) (prevL prevR : ℚ) : List ℚ :=
  if !offroad state || decide (state.absSpeed < lit 0.5) then []
  else
    [trapezoidAmpMax (bumpExtra state prevL prevR), trapezoidAmpMin (bumpExtra state prevL prevR),
      trapezoidRamp state.absSpeed, trapezoidPeriod state.absSpeed]

/-- The values that an update casts to a byte, in the order of the updaters.
The damper's is an `int`, and the spring's slope is a literal at low speed. -/
def conversions (state : TelemetryState ℚ) (simulator : Simulator ℚ) : List ℚ :=
  constantConversions state ++ springConversions state ++ [(damperSlope state : ℚ)] ++
    trapezoidConversions state simulator.prevDeflectionL simulator.prevDeflectionR

theorem trapezoidAmps_between (state : TelemetryState ℚ) (prevL prevR : ℚ) :
    (112 ≤ trapezoidAmpMax (bumpExtra state prevL prevR) ∧
        trapezoidAmpMax (bumpExtra state prevL prevR) ≤ 116) ∧
      140 ≤ trapezoidAmpMin (bumpExtra state prevL prevR) ∧
        trapezoidAmpMin (bumpExtra state prevL prevR) ≤ 144 := by
  have amps := trapezoidAmps_eq state prevL prevR
  split_ifs at amps
  · rw [Prod.mk.injEq] at amps
    rw [amps.1, amps.2]
    norm_num
  · rw [Prod.mk.injEq] at amps
    rw [amps.1, amps.2]
    norm_num

theorem conversions_in_range (state : TelemetryState ℚ) (simulator : Simulator ℚ) :
    ∀ value ∈ conversions state simulator, ByteRange value := by
  obtain ⟨maxRange, minRange⟩ := trapezoidAmps_between state simulator.prevDeflectionL
    simulator.prevDeflectionR
  have damper : ByteRange (damperSlope state : ℚ) := by
    apply ByteRange.of_between 2 7 (by omega)
    exact_mod_cast damperSlope_between state
  intro value member
  unfold conversions at member
  rw [List.mem_append, List.mem_append, List.mem_append, List.mem_singleton] at member
  rcases member with ((constant | spring) | rfl) | trapezoid
  · unfold constantConversions at constant
    split_ifs at constant
    · cases constant
    · rw [List.mem_singleton] at constant
      subst constant
      exact ByteRange.of_between 8 248 (by omega) (constantAmplitude_between state)
  · unfold springConversions at spring
    split_ifs at spring
    · cases spring
    · rw [List.mem_pair] at spring
      rcases spring with rfl | rfl
      · exact ByteRange.of_between 2 7 (by omega) (springRamp_between _)
      · exact ByteRange.of_between 64 240 (by omega)
          (springAmplitude_between state.absSpeed_nonneg)
  · exact damper
  · unfold trapezoidConversions at trapezoid
    split at trapezoid
    · cases trapezoid
    · simp only [List.mem_cons, List.not_mem_nil, or_false] at trapezoid
      rcases trapezoid with rfl | rfl | rfl | rfl
      · exact ByteRange.of_between 112 116 (by omega) maxRange
      · exact ByteRange.of_between 140 144 (by omega) minRange
      · exact ByteRange.of_between 2 8 (by omega)
          (trapezoidRamp_between state.absSpeed_nonneg)
      · exact ByteRange.of_between 16 48 (by omega)
          (trapezoidPeriod_between state.absSpeed_nonneg)

/-- Exact arithmetic with another cast to a byte. -/
abbrev converting (toByte : ℚ → U8) : FloatArith ℚ :=
  { (inferInstance : FloatArith ℚ) with toU8 := toByte }

theorem updateConstant_converting (toByte : ℚ → U8) (state : TelemetryState ℚ)
    (agrees : ∀ value ∈ constantConversions state, toByte value = toU8 value)
    (simulator : Simulator ℚ) :
    @updateConstant ℚ (converting toByte) state simulator = updateConstant state simulator := by
  change ({ simulator with
    wheel :=
      { simulator.wheel with
        constant :=
          if state.absSpeed < lit 0.1 then
            { Wheel.defaultConstF with enabled := false }
          else
            { Wheel.defaultConstF with
              enabled := true
              amplitude := toByte (constantAmplitude state) } } } : Simulator ℚ) = _
  unfold constantConversions at agrees
  unfold updateConstant
  by_cases slow : state.absSpeed < lit 0.1
  · rw [if_pos slow, if_pos slow]
  · rw [if_neg slow] at agrees
    rw [if_neg slow, if_neg slow, agrees _ (by simp)]

theorem springSlope_converting {toByte : ℚ → U8} {speed : ℚ}
    (agrees : toByte (springRamp speed) = toU8 (springRamp speed)) :
    @springSlope ℚ (converting toByte) speed = springSlope speed := by
  by_cases parked : speed ≤ 3
  · have slow : speed ≤ lit 3.0 := by
      rw [lit_rat]
      norm_num1
      exact parked
    unfold springSlope
    exact (if_pos slow).trans (if_pos slow).symm
  · rw [springSlope_eq, ← agrees]
    change (if speed ≤ lit 3.0 then 2
      else if speed ≤ lit 15.0 then toByte (lit 2.0 + (speed - lit 3.0) / lit 12.0 * lit 3.0)
      else toByte (if lit 7.0 < lit 5.0 + (speed - lit 15.0) / lit 15.0 * lit 2.0 then lit 7.0
        else lit 5.0 + (speed - lit 15.0) / lit 15.0 * lit 2.0) : U8) = _
    unfold springRamp
    simp only [lit_rat, capped]
    norm_num1
    rw [if_neg parked, if_neg parked]
    split_ifs
    · rfl
    · rfl

theorem updateSpring_converting (toByte : ℚ → U8) (state : TelemetryState ℚ)
    (agrees : ∀ value ∈ springConversions state, toByte value = toU8 value)
    (simulator : Simulator ℚ) :
    @updateSpring ℚ (converting toByte) state simulator = updateSpring state simulator := by
  change ({ simulator with
    wheel :=
      { simulator.wheel with
        spring :=
          if state.absSpeed < lit 0.10 then
            { Wheel.defaultSpringF with enabled := false }
          else
            { Wheel.defaultSpringF with
              enabled := true
              deadStart := 126
              deadEnd := 130
              slopeLeft := @springSlope ℚ (converting toByte) state.absSpeed
              slopeRight := @springSlope ℚ (converting toByte) state.absSpeed
              amplitude := toByte (springAmplitude state.absSpeed) } } } : Simulator ℚ) = _
  unfold springConversions at agrees
  unfold updateSpring
  by_cases slow : state.absSpeed < lit 0.10
  · rw [if_pos slow, if_pos slow]
  · rw [if_neg slow] at agrees
    rw [if_neg slow, if_neg slow, agrees (springAmplitude state.absSpeed) (by simp),
      springSlope_converting (agrees (springRamp state.absSpeed) (by simp))]

theorem trapezoidSlope_converting {toByte : ℚ → U8} {speed : ℚ}
    (agrees : toByte (trapezoidRamp speed) = toU8 (trapezoidRamp speed)) :
    @trapezoidSlope ℚ (converting toByte) speed = trapezoidSlope speed := by
  change (if toByte (lit 2.0 + speedScale speed * lit 6.0) > 0x0F then 0x0F
    else toByte (lit 2.0 + speedScale speed * lit 6.0) : U8) =
      if toU8 (lit 2.0 + speedScale speed * lit 6.0) > 0x0F then 0x0F
      else toU8 (lit 2.0 + speedScale speed * lit 6.0)
  have ramp : (lit 2.0 + speedScale speed * lit 6.0 : ℚ) = trapezoidRamp speed := by
    unfold trapezoidRamp
    simp only [lit_rat]
    norm_num1
    rfl
  rw [ramp, agrees]

theorem trapezoidTime_converting {toByte : ℚ → U8} {speed : ℚ}
    (agrees : toByte (trapezoidPeriod speed) = toU8 (trapezoidPeriod speed)) :
    @trapezoidTime ℚ (converting toByte) speed = trapezoidTime speed := by
  change (if toByte (lit 48.0 - speedScale speed * lit 32.0) < 8 then 8
    else toByte (lit 48.0 - speedScale speed * lit 32.0) : U8) =
      if toU8 (lit 48.0 - speedScale speed * lit 32.0) < 8 then 8
      else toU8 (lit 48.0 - speedScale speed * lit 32.0)
  have period : (lit 48.0 - speedScale speed * lit 32.0 : ℚ) = trapezoidPeriod speed := by
    unfold trapezoidPeriod
    simp only [lit_rat]
    norm_num1
    rfl
  rw [period, agrees]

theorem updateTrapezoid_converting (toByte : ℚ → U8) (state : TelemetryState ℚ)
    (simulator : Simulator ℚ)
    (agrees : ∀ value ∈ trapezoidConversions state simulator.prevDeflectionL
      simulator.prevDeflectionR, toByte value = toU8 value) :
    @updateTrapezoid ℚ (converting toByte) state simulator = updateTrapezoid state simulator := by
  let extra := bumpExtra state simulator.prevDeflectionL simulator.prevDeflectionR
  change ({
    wheel :=
      { simulator.wheel with
        trapezoid :=
          if !offroad state || decide (state.absSpeed < lit 0.5) then
            { Wheel.defaultTrapF with enabled := false }
          else
            { Wheel.defaultTrapF with
              enabled := true
              amplitudeMax := toByte (trapezoidAmpMax extra)
              amplitudeMin := toByte (trapezoidAmpMin extra)
              slopeStepX := @trapezoidSlope ℚ (converting toByte) state.absSpeed
              slopeStepY := @trapezoidSlope ℚ (converting toByte) state.absSpeed
              tAtMax := @trapezoidTime ℚ (converting toByte) state.absSpeed
              tAtMin := @trapezoidTime ℚ (converting toByte) state.absSpeed } }
    prevDeflectionL := state.suspensionDeflectionL
    prevDeflectionR := state.suspensionDeflectionR } : Simulator ℚ) = _
  unfold trapezoidConversions at agrees
  unfold updateTrapezoid
  by_cases disabled : (!offroad state || decide (state.absSpeed < lit 0.5)) = true
  · rw [if_pos disabled, if_pos disabled]
  · rw [if_neg disabled] at agrees
    rw [if_neg disabled, if_neg disabled, agrees (trapezoidAmpMax extra) (by simp [extra]),
      agrees (trapezoidAmpMin extra) (by simp [extra]),
      trapezoidSlope_converting (agrees (trapezoidRamp state.absSpeed) (by simp)),
      trapezoidTime_converting (agrees (trapezoidPeriod state.absSpeed) (by simp))]

/-- An update casts the listed values and no others: another cast that agrees
on them leaves the same. -/
theorem updateEffects_converting {toByte : ℚ → U8} {state : TelemetryState ℚ}
    {simulator : Simulator ℚ}
    (agrees : ∀ value ∈ conversions state simulator, toByte value = toU8 value) :
    @updateEffects ℚ (converting toByte) state simulator = updateEffects state simulator := by
  unfold conversions at agrees
  have constant := updateConstant_converting toByte state
    (fun value member => agrees value (by simp [member])) simulator
  have spring := updateSpring_converting toByte state
    (fun value member => agrees value (by simp [member])) (updateConstant state simulator)
  have damped : @updateDamper ℚ (converting toByte) = updateDamper := rfl
  have trapezoid := updateTrapezoid_converting toByte state
    (updateDamper state (updateSpring state (updateConstant state simulator)))
    (fun value member => agrees value (List.mem_append_right _ member))
  calc @updateEffects ℚ (converting toByte) state simulator
      = @updateTrapezoid ℚ (converting toByte) state (@updateDamper ℚ (converting toByte) state
          (@updateSpring ℚ (converting toByte) state
            (@updateConstant ℚ (converting toByte) state simulator))) := rfl
    _ = updateEffects state simulator := by
        rw [constant, spring, damped, trapezoid]
        rfl

/-! ### What the wheel receives -/

theorem bounded_updated (state : TelemetryState ℚ) (simulator : Simulator ℚ) :
    (updateEffects state simulator).wheel.Bounded := by
  constructor
  · rw [spring_updated]
    split_ifs
    · have slope := (toU8_between 2 7 (by omega) (springRamp_between state.absSpeed)).2
      exact ⟨slope, slope⟩
    · decide
  · obtain ⟨low, high⟩ := damperSlope_between state
    have slope : (BitVec.ofInt 8 (damperSlope state)).toNat ≤ 7 := by
      rw [BitVec.toNat_ofInt]
      omega
    rw [damper_updated]
    exact ⟨slope, slope⟩
  · rw [trapezoid_updated]
    split_ifs
    · have step := (toU8_between 2 8 (by omega) (trapezoidRamp_between state.absSpeed_nonneg)).2
      exact ⟨step.trans (by omega), step.trans (by omega)⟩
    · decide
  · rw [constant_updated]
    split_ifs
    · exact toU8_between 8 248 (by omega) (constantAmplitude_between state)
    · decide
  · rw [spring_updated]
    split_ifs
    · exact (toU8_between 64 240 (by omega) (springAmplitude_between state.absSpeed_nonneg)).2
    · decide

theorem inverts_updated (state : TelemetryState ℚ) (simulator : Simulator ℚ) :
    (updateEffects state simulator).wheel.spring.invertLeft = 0 ∧
      (updateEffects state simulator).wheel.spring.invertRight = 0 ∧
      (updateEffects state simulator).wheel.damper.invertLeft = 0 ∧
      (updateEffects state simulator).wheel.damper.invertRight = 0 := by
  rw [spring_updated, damper_updated]
  split_ifs
  · exact ⟨rfl, rfl, rfl, rfl⟩
  · exact ⟨rfl, rfl, rfl, rfl⟩

theorem byte_lt_of_toNat {byte : U8} (bound : Nat) (small : bound < 256)
    (less : byte.toNat < bound) : byte < BitVec.ofNat 8 bound := by
  rw [BitVec.lt_def, BitVec.toNat_ofNat]
  omega

theorem inRange_updated (state : TelemetryState ℚ) (simulator : Simulator ℚ) (effect : Effect) :
    ((updateEffects state simulator).wheel.force effect).InRange := by
  have bounded := bounded_updated state simulator
  obtain ⟨springLeft, springRight, damperLeft, damperRight⟩ := inverts_updated state simulator
  have slots : ((updateEffects state simulator).wheel.force effect).params.slot < 16 := by
    rw [← Wheel.slot, updateEffects_defaultSlots state simulator effect]
    cases effect <;> decide
  have cleared : ∀ {flag : U8}, flag = 0 → flag < 2 := by
    rintro _ rfl
    decide
  refine ⟨slots, ?_⟩
  cases effect with
  | constant => trivial
  | spring =>
      obtain ⟨left, right⟩ := bounded.springSlopes
      exact ⟨byte_lt_of_toNat 8 (by omega) (Nat.lt_succ_of_le left),
        byte_lt_of_toNat 8 (by omega) (Nat.lt_succ_of_le right), cleared springLeft,
        cleared springRight⟩
  | damper =>
      obtain ⟨left, right⟩ := bounded.damperSlopes
      exact ⟨byte_lt_of_toNat 8 (by omega) (Nat.lt_succ_of_le left),
        byte_lt_of_toNat 8 (by omega) (Nat.lt_succ_of_le right), cleared damperLeft,
        cleared damperRight⟩
  | trapezoid =>
      obtain ⟨stepX, stepY⟩ := bounded.trapezoidSteps
      exact ⟨byte_lt_of_toNat 16 (by omega) (Nat.lt_succ_of_le stepX),
        byte_lt_of_toNat 16 (by omega) (Nat.lt_succ_of_le stepY)⟩

theorem encoded_force (wheel : Wheel) (effect : Effect) :
    (wheel.force effect).encoded? = some (wheel.parameters effect) := by
  cases effect with
  | constant => rfl
  | spring => rfl
  | damper => rfl
  | trapezoid => rfl

/-- Whatever the telemetry and whatever came before, an update casts only
values of a byte, keeps every parameter within its field, and sends reports
from which slot, type and parameters of each effect, enabled or not, are read
back. -/
theorem updateEffects_received (state : TelemetryState ℚ) (simulator : Simulator ℚ) :
    let wheel := (updateEffects state simulator).wheel
    (∀ value ∈ conversions state simulator, 0 ≤ value ∧ value < 256) ∧
    (∀ toByte : ℚ → U8, (∀ value ∈ conversions state simulator, toByte value = toU8 value) →
      @updateEffects ℚ (converting toByte) state simulator = updateEffects state simulator) ∧
    wheel.Bounded ∧
    ∀ effect, Report.decode (Protocol.refreshForce .logitechClassic (wheel.force effect)) =
      some (.refresh (wheel.slot effect) (wheel.parameters effect)) := by
  intro wheel
  refine ⟨conversions_in_range state simulator, fun _ => updateEffects_converting,
    bounded_updated state simulator, ?_⟩
  intro effect
  have decoded := Report.decode_request (.refresh (wheel.force effect))
    (inRange_updated state simulator effect)
  have command : (Request.refresh (wheel.force effect)).command? =
      some (.refresh (wheel.slot effect) (wheel.parameters effect)) := by
    change ((wheel.force effect).encoded?).map _ = _
    rw [encoded_force]
    rfl
  exact decoded.trans command

/-- A cast that saturates where the source's is undefined. -/
def saturate (value : ℚ) : U8 := if value < 0 then 0 else if value < 256 then toU8 value else 255

theorem updateEffects_received_when_saturating :
    let simulator : Simulator ℚ :=
      { wheel := Wheel.initial
        prevDeflectionL := 0
        prevDeflectionR := 0 }
    @updateEffects ℚ (converting saturate) .initial simulator = updateEffects .initial simulator := by
  intro simulator
  have received := updateEffects_received .initial simulator
  apply received.2.1
  intro value member
  obtain ⟨low, high⟩ := received.1 value member
  unfold saturate
  rw [if_neg (not_lt.mpr low), if_pos high]

end Simulator

end Fffb
