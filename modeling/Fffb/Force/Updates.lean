import Fffb.Force.Simulator
import Fffb.Joy.Effects
import Fffb.Joy.WheelDelivery

/-
What the updaters leave in the wheel object: which effects they enable, and
what follows for the play mask.
-/

namespace Fffb

open FloatArith

variable {F : Type} [FloatArith F]

namespace TelemetryState

def moving (state : TelemetryState F) : Bool := !decide (state.absSpeed < lit 0.1)

/-- A front wheel is off the road and the truck is fast enough to feel it. -/
def rough (state : TelemetryState F) : Bool :=
  Simulator.offroad state && !decide (state.absSpeed < lit 0.5)

def wants (state : TelemetryState F) : Effect → Bool
  | .constant => state.moving
  | .spring => state.moving
  | .damper => true
  | .trapezoid => state.rough

def playMask (state : TelemetryState F) : U8 :=
  (if state.wants .constant then Effect.constant.defaultSlot else 0) |||
    (if state.wants .spring then Effect.spring.defaultSlot else 0) |||
    (if state.wants .damper then Effect.damper.defaultSlot else 0) |||
    (if state.wants .trapezoid then Effect.trapezoid.defaultSlot else 0)

private theorem mask_any (moving rough : Bool) (slot : Fin 4) :
    ((if moving then Effect.constant.defaultSlot else 0) |||
        (if moving then Effect.spring.defaultSlot else 0) |||
        (if true then Effect.damper.defaultSlot else 0) |||
        (if rough then Effect.trapezoid.defaultSlot else 0)).getLsbD slot =
      ((moving && (Effect.constant.defaultSlot.getLsbD slot ||
          Effect.spring.defaultSlot.getLsbD slot)) ||
        Effect.damper.defaultSlot.getLsbD slot ||
        (rough && Effect.trapezoid.defaultSlot.getLsbD slot)) := by
  revert moving rough slot
  decide

theorem playMask_names (state : TelemetryState F) (slot : Fin 4) :
    state.playMask.getLsbD slot = true ↔
      ∃ effect, state.wants effect = true ∧ effect.defaultSlot.getLsbD slot = true := by
  unfold playMask wants
  rw [mask_any]
  simp only [Bool.or_eq_true, Bool.and_eq_true]
  constructor
  · rintro ((⟨moving, constant | spring⟩ | damper) | ⟨rough, trapezoid⟩)
    · exact ⟨.constant, moving, constant⟩
    · exact ⟨.spring, moving, spring⟩
    · exact ⟨.damper, rfl, damper⟩
    · exact ⟨.trapezoid, rough, trapezoid⟩
  · rintro ⟨effect, wanted, named⟩
    cases effect with
    | constant => exact Or.inl (Or.inl ⟨wanted, Or.inl named⟩)
    | spring => exact Or.inl (Or.inl ⟨wanted, Or.inr named⟩)
    | damper => exact Or.inl (Or.inr named)
    | trapezoid => exact Or.inr ⟨wanted, named⟩

end TelemetryState

namespace Simulator

theorem updateSpring_enabled (state : TelemetryState F) (simulator : Simulator F) :
    (updateSpring state simulator).wheel.spring.enabled = state.moving := by
  have threshold : (0.10 : ℚ) = 0.1 := by norm_num
  unfold updateSpring TelemetryState.moving
  rw [threshold]
  by_cases slow : state.absSpeed < lit 0.1
  · rw [if_pos slow, decide_eq_true slow]
    rfl
  · rw [if_neg slow, decide_eq_false slow]
    rfl

theorem updateConstant_enabled (state : TelemetryState F) (simulator : Simulator F) :
    (updateConstant state simulator).wheel.constant.enabled = state.moving := by
  unfold updateConstant TelemetryState.moving
  by_cases slow : state.absSpeed < lit 0.1
  · rw [if_pos slow, decide_eq_true slow]
    rfl
  · rw [if_neg slow, decide_eq_false slow]
    rfl

theorem updateTrapezoid_enabled (state : TelemetryState F) (simulator : Simulator F) :
    (updateTrapezoid state simulator).wheel.trapezoid.enabled = state.rough := by
  unfold updateTrapezoid TelemetryState.rough
  cases offroad state with
  | false => rfl
  | true =>
      by_cases slow : state.absSpeed < lit 0.5
      · rw [decide_eq_true slow]
        rfl
      · rw [decide_eq_false slow]
        rfl

theorem updateEffects_enabled (state : TelemetryState F) (simulator : Simulator F)
    (effect : Effect) :
    (updateEffects state simulator).wheel.enabled effect = state.wants effect := by
  cases effect with
  | constant => exact updateConstant_enabled state simulator
  | spring => exact updateSpring_enabled state (updateConstant state simulator)
  | damper => rfl
  | trapezoid =>
      exact updateTrapezoid_enabled state
        (updateDamper state (updateSpring state (updateConstant state simulator)))

/-- Every updater starts from the default parameters, so the slots are the
default ones again. -/
theorem updateEffects_defaultSlots (state : TelemetryState F) (simulator : Simulator F) :
    (updateEffects state simulator).wheel.DefaultSlots := by
  intro effect
  cases effect with
  | constant =>
      change (if state.absSpeed < lit 0.1 then _ else _ : ConstantForceParams).slot = _
      split <;> rfl
  | spring =>
      change (if state.absSpeed < lit 0.10 then _ else _ : SpringForceParams).slot = _
      split <;> rfl
  | damper => rfl
  | trapezoid =>
      change (if !offroad state || decide (state.absSpeed < lit 0.5) then _ else _ :
        TrapezoidForceParams).slot = _
      split <;> rfl

theorem updateEffects_enabledSlots (state : TelemetryState F) (simulator : Simulator F) :
    (updateEffects state simulator).wheel.enabledSlots = state.playMask := by
  have defaultSlots := updateEffects_defaultSlots state simulator
  rw [Wheel.enabledSlots_eq, defaultSlots .constant, defaultSlots .spring, defaultSlots .damper,
    defaultSlots .trapezoid]
  simp only [updateEffects_enabled]
  rfl

end Simulator

end Fffb
