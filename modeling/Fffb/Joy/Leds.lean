import Fffb.Joy.CalibrationResult

/-
The LEDs of the wheel, as its reports set them.
-/

namespace Fffb

namespace Report

def isLeds (report : Report) : Bool := report.command == 0xF8 && report.typeByte == 0x12

theorem ledByte_lt : 2 < FFFB_REPORT_MAX_LEN := by decide

/-- The third byte, which is the pattern of an LED report. -/
def ledBits (report : Report) : U8 := report.data.get ⟨2, ledByte_lt⟩

theorem isLeds_of_command {report : Report} (other : report.command ≠ 0xF8) :
    report.isLeds = false := by
  unfold isLeds
  rw [beq_eq_false_iff_ne.mpr other]
  rfl

theorem isLeds_of_opcode {report : Report} {opcode : U8} (command : report.opcode = opcode)
    (other : opcode ≠ 0x08) : report.isLeds = false := by
  apply isLeds_of_command
  intro extended
  unfold Report.opcode at command
  rw [extended] at command
  exact other (command.symm.trans (by decide))

end Report

def lastLeds (reports : List Report) : Option U8 :=
  (Selection.last? (fun report => report.isLeds = true) reports).map Report.ledBits

theorem lastLeds_append (before after : List Report) :
    lastLeds (before ++ after) = (lastLeds after).or (lastLeds before) := by
  unfold lastLeds
  rw [Selection.last?_append]
  cases Selection.last? (fun report : Report => report.isLeds = true) after with
  | none => rfl
  | some report => rfl

theorem lastLeds_of_none {reports : List Report}
    (others : ∀ report ∈ reports, report.isLeds = false) : lastLeds reports = none := by
  have absent : Selection.last? (fun report : Report => report.isLeds = true) reports = none := by
    apply Selection.last?_eq_none_iff.mpr
    intro report member
    rw [others report member]
    exact Bool.false_ne_true
  unfold lastLeds
  rw [absent]
  rfl

theorem lastLeds_append_none {before after : List Report}
    (others : ∀ report ∈ after, report.isLeds = false) :
    lastLeds (before ++ after) = lastLeds before := by
  rw [lastLeds_append, lastLeds_of_none others, Option.none_or]

/-- Of a pattern the device is told the five bits for which it has LEDs. -/
theorem lastLeds_append_set (before : List Report) (pattern : U8) :
    lastLeds (before ++ [Protocol.setLedPattern .logitechClassic pattern]) =
      some (pattern &&& 0b00011111) := by
  have sets : (Protocol.setLedPattern .logitechClassic pattern).isLeds = true := rfl
  rw [lastLeds_append]
  unfold lastLeds
  rw [Selection.last?_singleton, if_pos sets]
  rfl

namespace Wheel

theorem enabledReports_isLeds {build : FfbProtocol → Force → Report} {opcode : U8}
    (command : ∀ protocol force, (build protocol force).opcode = opcode) (other : opcode ≠ 0x08)
    (wheel : Wheel) : ∀ report ∈ wheel.enabledReports build, report.isLeds = false := by
  intro report member
  obtain ⟨effect, _, rfl⟩ := (mem_enabledReports_iff build wheel report).mp member
  exact Report.isLeds_of_opcode (command _ _) other

theorem calibrationBatches_isLeds {wheel : Wheel} (classic : wheel.protocol = .logitechClassic) :
    ∀ report ∈ wheel.calibrationBatches.flatten, report.isLeds = false := by
  intro report member
  rcases mem_calibrationBatches member with
    (rfl | rfl | rfl | ⟨mask, rfl⟩) | right | left | shake
  · rw [classic]
    exact Report.isLeds_of_opcode (Protocol.disableAutocenter_opcode _) (by decide)
  · rw [classic]
    exact Report.isLeds_of_opcode (Protocol.enableAutocenter_opcode _) (by decide)
  · rw [classic]
    exact Report.isLeds_of_opcode (Protocol.stopForce_opcode _) (by decide)
  · rw [classic]
    exact Report.isLeds_of_opcode (Protocol.playForce_opcode _) (by decide)
  · exact enabledReports_isLeds Protocol.downloadForce_opcode (by decide) _ report right
  · exact enabledReports_isLeds Protocol.refreshForce_opcode (by decide) _ report left
  · exact enabledReports_isLeds Protocol.downloadForce_opcode (by decide) _ report shake

theorem construct_isLeds (devices : List HidDevice) (outcome : Nat → Bool) :
    ∀ report ∈ (construct devices (.idle outcome)).line.delivered, report.isLeds = false := by
  have prepares : ∀ report ∈ [Report.of 0x30 0xf8 0x09 0x05 0x01,
      Protocol.setRange .logitechClassic 900], report.isLeds = false := by decide
  intro report member
  obtain ⟨protocol, deviceId, listed⟩ := construct_initSequence devices outcome report member
  unfold Protocol.initSequence at listed
  by_cases classic : protocol = .logitechClassic
  · subst classic
    rw [if_pos rfl] at listed
    split at listed
    · exact prepares report listed
    · split at listed
      · exact prepares report listed
      · cases listed
  · rw [if_neg classic] at listed
    cases listed

end Wheel

theorem AutocenterOff.append_none {before after : List Report} (off : AutocenterOff before)
    (others : ∀ report ∈ after, report.isAutocenter = false) : AutocenterOff (before ++ after) := by
  obtain ⟨report, last, disables⟩ := off
  refine ⟨report, ?_, disables⟩
  rw [lastAutocenter_append, lastAutocenter_of_none others, Option.none_or]
  exact last

theorem Wheel.calibrated_autocenterOff {rig : Rig} (classic : rig.wheel.protocol = .logitechClassic)
    (healthy : rig.line.Healthy) :
    AutocenterOff (rig.line.sendAll rig.wheel.calibrationBatches).delivered := by
  have later : (Wheel.calibrationLine rig 11).Healthy :=
    (Line.attemptAll_extends _ rig.line).healthy healthy
  have off := calibrated_autocenterOff_iff classic healthy.completes.carries
  rw [healthy.attemptAll] at off
  exact off.mpr fun _ => later.completes.carries

end Fffb
