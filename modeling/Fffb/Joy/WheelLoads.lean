import Fffb.Joy.WheelSilence
import Fffb.Joy.WheelSlots

/-
Which effect a load report is for, and the last load of an effect.
-/

namespace Fffb

def Effect.typeByte : Effect → U8
  | .constant => 0x00
  | .spring => 0x01
  | .damper => 0x02
  | .trapezoid => 0x06

/-- A load for an effect names the effect's default slots and carries its type. -/
def Report.loadsEffect (effect : Effect) (report : Report) : Bool :=
  report.isLoad && report.slots == effect.defaultSlot && report.typeByte == effect.typeByte

def lastLoad (effect : Effect) (reports : List Report) : Option Report :=
  (reports.filter (Report.loadsEffect effect)).getLast?

/-- Every enabled effect was last loaded with the parameters it has now. -/
def Fresh (wheel : Wheel) (reports : List Report) : Prop :=
  ∀ effect, wheel.enabled effect = true →
    ∃ load, lastLoad effect reports = some load ∧ load.payload = wheel.encoded effect

def Unloaded (effect : Effect) (reports : List Report) : Prop :=
  ∀ report ∈ reports, report.loadsEffect effect = false

theorem Report.loadsEffect_of_notLoad {report : Report} (notLoad : report.isLoad = false)
    (effect : Effect) : report.loadsEffect effect = false := by
  unfold loadsEffect
  rw [notLoad]
  rfl

theorem Unloaded.append {effect : Effect} {before after : List Report}
    (one : Unloaded effect before) (two : Unloaded effect after) :
    Unloaded effect (before ++ after) := by
  intro report member
  rcases List.mem_append.mp member with earlier | later
  · exact one report earlier
  · exact two report later

theorem Unloaded.lastLoad {effect : Effect} {reports : List Report}
    (unloaded : Unloaded effect reports) : Fffb.lastLoad effect reports = none := by
  have nothing : reports.filter (Report.loadsEffect effect) = [] := by
    rw [List.filter_eq_nil_iff]
    intro report member loads
    rw [unloaded report member] at loads
    cases loads
  unfold Fffb.lastLoad
  rw [nothing]
  rfl

namespace Wheel

theorem typeByte_of_encoded {wheel : Wheel} {effect : Effect} {report : Report}
    (carries : report.payload = wheel.encoded effect) :
    report.typeByte = effect.typeByte := by
  have opening : report.payload[0] = (wheel.encoded effect)[0] := by rw [carries]
  calc report.typeByte = (wheel.encoded effect)[0] := opening
    _ = effect.typeByte := by cases effect <;> rfl

theorem typeByte_injective {left right : Effect} (same : left.typeByte = right.typeByte) :
    left = right := by
  revert same
  cases left <;> cases right <;> decide

theorem LoadsForce.loadsEffect_of_ne {build : FfbProtocol → Force → Report}
    (loadsForce : LoadsForce build) (wheel : Wheel) {effect other : Effect}
    (different : effect ≠ other) :
    (build wheel.protocol (wheel.force effect)).loadsEffect other = false := by
  unfold Report.loadsEffect
  by_cases classic : wheel.protocol = .logitechClassic
  · have byte : (build wheel.protocol (wheel.force effect)).typeByte = effect.typeByte :=
      typeByte_of_encoded (loadsForce.payload_effect classic effect)
    have wrong : (effect.typeByte == other.typeByte) = false :=
      beq_eq_false_iff_ne.mpr fun same => different (typeByte_injective same)
    rw [byte, wrong, Bool.and_false]
  · have nowhere : (build wheel.protocol (wheel.force effect)).slots = 0 := by
      rw [loadsForce.slots, Protocol.downloadForce_of_unsupported classic]
      rfl
    have wrong : ((0 : U8) == other.defaultSlot) = false := by
      cases other <;> decide
    rw [nowhere, wrong, Bool.and_false, Bool.false_and]

theorem LoadsForce.unloaded_of_disabled {build : FfbProtocol → Force → Report}
    (loadsForce : LoadsForce build) {wheel : Wheel} {effect : Effect}
    (disabled : wheel.enabled effect = false) :
    Unloaded effect (wheel.enabledReports build) := by
  intro report member
  obtain ⟨other, enabled, rfl⟩ := (mem_enabledReports_iff build wheel report).mp member
  apply loadsForce.loadsEffect_of_ne
  intro same
  rw [same, disabled] at enabled
  cases enabled

/-- Calibration turns on the constant force and the trapezoid only. -/
theorem calibrationBatches_unloaded_damper {wheel : Wheel}
    (disabled : wheel.enabled .damper = false) :
    Unloaded .damper wheel.calibrationBatches.flatten := by
  intro report member
  rcases mem_calibrationBatches member with
    (rfl | rfl | rfl | ⟨mask, rfl⟩) | right | left | shake
  · exact Report.loadsEffect_of_notLoad (Protocol.disableAutocenter_isLoad _ _) _
  · exact Report.loadsEffect_of_notLoad (Protocol.enableAutocenter_isLoad _ _) _
  · exact Report.loadsEffect_of_notLoad (Protocol.stopForce_isLoad _ _) _
  · exact Report.loadsEffect_of_notLoad (Protocol.playForce_isLoad _ _) _
  · have off : (wheel.turning 96).enabled .damper = false := disabled
    exact downloadForce_loadsForce.unloaded_of_disabled off report right
  · have off : (wheel.turning 160).enabled .damper = false := disabled
    exact refreshForce_loadsForce.unloaded_of_disabled off report left
  · have off : (wheel.turning 160).shaking.enabled .damper = false := disabled
    exact downloadForce_loadsForce.unloaded_of_disabled off report shake

theorem construct_unloaded (devices : List HidDevice) (outcome : Nat → Bool) (effect : Effect) :
    Unloaded effect (construct devices (.idle outcome)).line.delivered := by
  intro report member
  obtain ⟨protocol, deviceId, prepares⟩ := construct_initSequence devices outcome report member
  rcases Protocol.mem_initSequence prepares with rfl | rfl
  · cases effect <;> decide
  · exact Report.loadsEffect_of_notLoad
      (Report.isLoad_of_opcode (Protocol.setRange_opcode 900) (by decide) (by decide)) effect

end Wheel

end Fffb
