import Fffb.Joy.Effects
import Fffb.Joy.Slots
import Fffb.Joy.WheelDelivery

/-
What a download or a refresh leaves in the four slots of the wheel.
-/

namespace Fffb.Wheel

/-- The type byte and the parameters that the classic protocol encodes for an
effect of the wheel object. -/
def encoded (wheel : Wheel) (effect : Effect) : Vector U8 7 :=
  (Protocol.downloadForce .logitechClassic (wheel.force effect)).payload

/-- Every enabled effect is in the slot that the README gives it, and the slot
of every disabled effect is untouched. -/
def SlotsKept {α : Type} (operation : WheelM α) (rig : Rig) (before : Fin 4 → Vector U8 7) :
    Prop :=
  ∀ effect,
    Slot.content before (written operation rig) effect.readmeSlot =
      if rig.wheel.enabled effect then rig.wheel.encoded effect else before effect.readmeSlot

instance {α : Type} (operation : WheelM α) (rig : Rig) (before : Fin 4 → Vector U8 7) :
    Decidable (SlotsKept operation rig before) :=
  decidable_of_iff
    (∀ effect ∈ Effect.all,
      Slot.content before (written operation rig) effect.readmeSlot =
        if rig.wheel.enabled effect then rig.wheel.encoded effect else before effect.readmeSlot)
    ⟨fun each effect => each effect effect.mem_all, fun each effect _ => each effect⟩

/-- Nothing in the batch lands in a slot of another effect, or what lands there
is what the slot holds already.  A protocol without builders loads nothing. -/
def SlotsFree (wheel : Wheel) (before : Fin 4 → Vector U8 7) : Prop :=
  if wheel.protocol = .logitechClassic then
    wheel.enabled .spring = false ∨
      wheel.enabled .constant = false ∧ before Effect.constant.readmeSlot = wheel.encoded .spring
  else
    ∀ effect, wheel.enabled effect = true → before effect.readmeSlot = wheel.encoded effect

theorem force_type_ne_count (wheel : Wheel) (effect : Effect) :
    (wheel.force effect).type ≠ .count := by
  cases effect <;> exact fun impossible => by cases impossible

/-- A builder whose reports load what the download report of the same force
would load. -/
structure LoadsForce (build : FfbProtocol → Force → Report) : Prop where
  opcode : ∀ protocol force,
    (build protocol force).opcode = 0x00 ∨ (build protocol force).opcode = 0x0C
  slots : ∀ protocol force,
    (build protocol force).slots = (Protocol.downloadForce protocol force).slots
  payload : ∀ protocol force,
    (build protocol force).payload = (Protocol.downloadForce protocol force).payload

theorem downloadForce_loadsForce : LoadsForce Protocol.downloadForce where
  opcode protocol force := Or.inl (Protocol.downloadForce_opcode protocol force)
  slots _ _ := rfl
  payload _ _ := rfl

theorem refreshForce_loadsForce : LoadsForce Protocol.refreshForce where
  opcode protocol force := Or.inr (Protocol.refreshForce_opcode protocol force)
  slots := Protocol.refreshForce_slots
  payload := Protocol.refreshForce_payload

namespace LoadsForce

variable {build : FfbProtocol → Force → Report} (loadsForce : LoadsForce build)

include loadsForce

theorem loads_eq (protocol : FfbProtocol) (force : Force) (slot : Fin 4) :
    Slot.loads (build protocol force) slot =
      (Protocol.downloadForce protocol force).names slot := by
  have loading : ((build protocol force).opcode == 0x00 ||
      (build protocol force).opcode == 0x0C) = true := by
    rcases loadsForce.opcode protocol force with download | refresh
    · rw [download]
      rfl
    · rw [refresh]
      rfl
  unfold Slot.loads Report.names
  rw [loading, loadsForce.slots, Bool.true_and]

theorem loads_effect {wheel : Wheel} (classic : wheel.protocol = .logitechClassic)
    (defaultSlots : wheel.DefaultSlots) (effect : Effect) (slot : Fin 4) :
    Slot.loads (build wheel.protocol (wheel.force effect)) slot =
      effect.defaultSlot.getLsbD slot := by
  rw [loadsForce.loads_eq, classic]
  unfold Report.names
  rw [Protocol.downloadForce_slots _ (force_type_ne_count wheel effect)]
  change (Nibble.low (wheel.slot effect)).getLsbD slot = _
  rw [defaultSlots effect, Nibble.getLsbD_low]
  simp

theorem payload_effect {wheel : Wheel} (classic : wheel.protocol = .logitechClassic)
    (effect : Effect) :
    (build wheel.protocol (wheel.force effect)).payload = wheel.encoded effect := by
  rw [loadsForce.payload, classic]
  rfl

/-- The slots after a batch of the classic protocol: the spring, which comes
after the constant force, writes slot zero as well as its own. -/
theorem content_classic {wheel : Wheel} (classic : wheel.protocol = .logitechClassic)
    (defaultSlots : wheel.DefaultSlots) (before : Fin 4 → Vector U8 7) (effect : Effect) :
    Slot.content before (wheel.enabledReports build) effect.readmeSlot =
      if effect = .constant ∧ wheel.enabled .spring = true then wheel.encoded .spring
      else if wheel.enabled effect then wheel.encoded effect
      else before effect.readmeSlot := by
  unfold Slot.content
  rw [enabledReports_eq, Overlay.writeAll_chosen]
  simp only [Effect.all, List.foldl_cons, List.foldl_nil, Overlay.chosen_write,
    loadsForce.loads_effect classic defaultSlots, loadsForce.payload_effect classic,
    Effect.defaultSlot_names]
  cases effect <;> simp [Effect.readmeSlot]

theorem content_unsupported {wheel : Wheel} (unsupported : wheel.protocol ≠ .logitechClassic)
    (before : Fin 4 → Vector U8 7) (slot : Fin 4) :
    Slot.content before (wheel.enabledReports build) slot = before slot := by
  apply Overlay.writeAll_uncovered
  intro report member
  obtain ⟨effect, _, rfl⟩ := (mem_enabledReports_iff build wheel report).mp member
  rw [loadsForce.loads_eq, Protocol.downloadForce_of_unsupported unsupported]
  unfold Report.names
  rw [Report.empty_slots]
  simp

/-- An operation that writes one batch of loads keeps the slots apart exactly
when the spring's second slot does no harm. -/
theorem slotsKept_iff {operation : WheelM Bool} {rig : Rig}
    (writes : written operation rig = rig.wheel.enabledReports build)
    (defaultSlots : rig.wheel.DefaultSlots) (before : Fin 4 → Vector U8 7) :
    SlotsKept operation rig before ↔ rig.wheel.SlotsFree before := by
  unfold SlotsKept SlotsFree
  rw [writes]
  by_cases classic : rig.wheel.protocol = .logitechClassic
  · rw [if_pos classic]
    simp only [loadsForce.content_classic classic defaultSlots]
    constructor
    · intro kept
      have shared := kept .constant
      cases springOn : rig.wheel.enabled .spring with
      | false => exact Or.inl rfl
      | true =>
          right
          rw [if_pos ⟨rfl, springOn⟩] at shared
          cases constantOn : rig.wheel.enabled .constant with
          | false =>
              rw [constantOn, if_neg Bool.false_ne_true] at shared
              exact ⟨rfl, shared.symm⟩
          | true =>
              rw [constantOn, if_pos rfl] at shared
              have typeBytes : (0x01 : U8) = 0x00 := congrArg (fun bytes => bytes[0]) shared
              exact False.elim (absurd typeBytes (by decide))
    · intro free effect
      by_cases overlaid : effect = .constant ∧ rig.wheel.enabled .spring = true
      · rw [if_pos overlaid]
        obtain ⟨rfl, springOn⟩ := overlaid
        rcases free with springOff | ⟨constantOff, held⟩
        · rw [springOff] at springOn
          cases springOn
        · rw [constantOff, if_neg Bool.false_ne_true]
          exact held.symm
      · rw [if_neg overlaid]
  · rw [if_neg classic]
    simp only [loadsForce.content_unsupported classic]
    constructor
    · intro kept effect enabled
      rw [kept effect, if_pos enabled]
    · intro free effect
      cases enabled : rig.wheel.enabled effect with
      | false => rfl
      | true => exact free effect enabled

end LoadsForce

/-! ### Downloads and refreshes -/

theorem written_downloadForces (rig : Rig) (healthy : rig.line.Healthy) :
    written downloadForces rig = rig.wheel.enabledReports Protocol.downloadForce :=
  written_of_run (downloadForces_run rig healthy)

theorem written_refreshForces (rig : Rig) (healthy : rig.line.Healthy)
    (playing : rig.wheel.playing = true) :
    written refreshForces rig = rig.wheel.enabledReports Protocol.refreshForce :=
  written_of_run (refreshForces_run_of_playing rig healthy playing)

/-- The spring's mask names slot zero as well as slot one, so a batch clobbers
the constant force, or loads a slot whose owner is disabled, exactly when the
spring is enabled and slot zero is not already what the spring makes of it. -/
theorem loads_slotsKept_iff (rig : Rig) (healthy : rig.line.Healthy)
    (defaultSlots : rig.wheel.DefaultSlots) (before : Fin 4 → Vector U8 7) :
    (SlotsKept downloadForces rig before ↔ rig.wheel.SlotsFree before) ∧
      (rig.wheel.playing = true →
        (SlotsKept refreshForces rig before ↔ rig.wheel.SlotsFree before)) := by
  constructor
  · exact downloadForce_loadsForce.slotsKept_iff (written_downloadForces rig healthy)
      defaultSlots before
  · intro playing
    exact refreshForce_loadsForce.slotsKept_iff (written_refreshForces rig healthy playing)
      defaultSlots before

def movingRig : Rig :=
  { wheel :=
      { initial with
        device := .g29
        constant := { defaultConstF with enabled := true }
        spring := { defaultSpringF with enabled := true }
        playing := true }
    line := .idle fun _ => true }

theorem movingRig_slots_clobbered :
    movingRig.line.Healthy ∧ movingRig.wheel.DefaultSlots ∧
      ¬ SlotsKept downloadForces movingRig (fun _ => .replicate 7 0) ∧
      ¬ SlotsKept refreshForces movingRig (fun _ => .replicate 7 0) :=
  ⟨Line.idle_healthy, by decide, by decide +kernel, by decide +kernel⟩

theorem loads_slotsKept_iff_at_movingRig :
    (SlotsKept downloadForces movingRig (fun _ => .replicate 7 0) ↔
        movingRig.wheel.SlotsFree fun _ => .replicate 7 0) ∧
      (movingRig.wheel.playing = true →
        (SlotsKept refreshForces movingRig (fun _ => .replicate 7 0) ↔
          movingRig.wheel.SlotsFree fun _ => .replicate 7 0)) :=
  loads_slotsKept_iff movingRig Line.idle_healthy (by decide) _

end Fffb.Wheel
