import Fffb.Joy.Wheel

/-
The four effects of a wheel object under one index.

The source keeps the effects in four members and treats them one after the
other.  The index lets a statement speak of every effect at once.
-/

namespace Fffb

inductive Effect where
  | constant
  | spring
  | damper
  | trapezoid
  deriving DecidableEq, Repr

namespace Effect

def all : List Effect := [constant, spring, damper, trapezoid]

theorem mem_all (effect : Effect) : effect ∈ all := by
  cases effect <;> decide

def readmeSlot : Effect → Fin 4
  | constant => 0
  | spring => 1
  | damper => 2
  | trapezoid => 3

/-- The slot mask that the effect's default parameters carry. -/
def defaultSlot : Effect → U8
  | constant => FFFB_FORCE_SLOT_CONSTANT
  | spring => FFFB_FORCE_SLOT_SPRING
  | damper => FFFB_FORCE_SLOT_DAMPER
  | trapezoid => FFFB_FORCE_SLOT_TRAPEZOID

/-- Every default mask names the effect's own slot; the spring's names slot
zero besides. -/
theorem defaultSlot_names (effect : Effect) (slot : Fin 4) :
    effect.defaultSlot.getLsbD slot =
      (decide (slot = effect.readmeSlot) || decide (effect = .spring ∧ slot = 0)) := by
  cases effect <;> revert slot <;> decide

end Effect

namespace Wheel

def force (wheel : Wheel) : Effect → Force
  | .constant => .ofConstant wheel.constant
  | .spring => .ofSpring wheel.spring
  | .damper => .ofDamper wheel.damper
  | .trapezoid => .ofTrapezoid wheel.trapezoid

def enabled (wheel : Wheel) (effect : Effect) : Bool := (wheel.force effect).params.enabled

def slot (wheel : Wheel) (effect : Effect) : U8 := (wheel.force effect).params.slot

def DefaultSlots (wheel : Wheel) : Prop := ∀ effect, wheel.slot effect = effect.defaultSlot

instance (wheel : Wheel) : Decidable wheel.DefaultSlots :=
  decidable_of_iff (∀ effect ∈ Effect.all, wheel.slot effect = effect.defaultSlot)
    ⟨fun each effect => each effect effect.mem_all, fun each effect _ => each effect⟩

theorem DefaultSlots.of_slot {before after : Wheel} (defaultSlots : before.DefaultSlots)
    (same : ∀ effect, after.slot effect = before.slot effect) : after.DefaultSlots :=
  fun effect => (same effect).trans (defaultSlots effect)

private theorem optional_eq_filter {Item : Type} (flags : Effect → Bool) (item : Effect → Item) :
    (Effect.all.filter flags).map item =
      (if flags .constant then [item .constant] else []) ++
        (if flags .spring then [item .spring] else []) ++
        (if flags .damper then [item .damper] else []) ++
        (if flags .trapezoid then [item .trapezoid] else []) := by
  unfold Effect.all
  cases first : flags .constant <;> cases second : flags .spring <;>
    cases third : flags .damper <;> cases fourth : flags .trapezoid <;>
    simp [first, second, third, fourth]

/-- A batch holds one report for each enabled effect, in the source's order. -/
theorem enabledReports_eq (build : FfbProtocol → Force → Report) (wheel : Wheel) :
    wheel.enabledReports build =
      (Effect.all.filter wheel.enabled).map fun effect =>
        build wheel.protocol (wheel.force effect) := by
  rw [optional_eq_filter]
  rfl

theorem mem_enabledReports_iff (build : FfbProtocol → Force → Report) (wheel : Wheel)
    (report : Report) :
    report ∈ wheel.enabledReports build ↔
      ∃ effect, wheel.enabled effect = true ∧
        build wheel.protocol (wheel.force effect) = report := by
  rw [enabledReports_eq, List.mem_map]
  constructor
  · rintro ⟨effect, member, built⟩
    exact ⟨effect, (List.mem_filter.mp member).2, built⟩
  · rintro ⟨effect, flag, built⟩
    exact ⟨effect, List.mem_filter.mpr ⟨effect.mem_all, flag⟩, built⟩

theorem enabledReports_eq_nil_iff (build : FfbProtocol → Force → Report) (wheel : Wheel) :
    wheel.enabledReports build = [] ↔ ∀ effect, wheel.enabled effect = false := by
  rw [List.eq_nil_iff_forall_not_mem]
  constructor
  · intro absent effect
    cases flag : wheel.enabled effect with
    | false => rfl
    | true =>
        have member := (mem_enabledReports_iff build wheel _).mpr ⟨effect, flag, rfl⟩
        exact False.elim (absent _ member)
  · intro disabled report member
    obtain ⟨effect, flag, _⟩ := (mem_enabledReports_iff build wheel report).mp member
    rw [disabled effect] at flag
    cases flag

theorem enabledSlots_eq (wheel : Wheel) :
    wheel.enabledSlots =
      (if wheel.enabled .constant then wheel.slot .constant else 0) |||
        (if wheel.enabled .spring then wheel.slot .spring else 0) |||
        (if wheel.enabled .damper then wheel.slot .damper else 0) |||
        (if wheel.enabled .trapezoid then wheel.slot .trapezoid else 0) := by
  change _ =
    (if wheel.constant.enabled then wheel.constant.slot else 0) |||
      (if wheel.spring.enabled then wheel.spring.slot else 0) |||
      (if wheel.damper.enabled then wheel.damper.slot else 0) |||
      (if wheel.trapezoid.enabled then wheel.trapezoid.slot else 0)
  unfold enabledSlots
  cases wheel.constant.enabled <;> cases wheel.spring.enabled <;>
    cases wheel.damper.enabled <;> cases wheel.trapezoid.enabled <;> simp

end Wheel

end Fffb
