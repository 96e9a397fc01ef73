import Fffb.Foundation.Selection
import Fffb.Joy.WheelPlaying

/-
What a calibration that reports success has done.

It checks its first two commands and its last.  The commands in between turn
the autocenter on and off again, and their results are dropped.
-/

namespace Fffb

namespace Report

def isAutocenter (report : Report) : Bool := report.opcode == 0x04 || report.opcode == 0x05

theorem isAutocenter_of_opcode {report : Report} {opcode : U8} (command : report.opcode = opcode)
    (other : (opcode == 0x04 || opcode == 0x05) = false) : report.isAutocenter = false := by
  unfold isAutocenter
  rw [command, other]

theorem empty_isAutocenter : empty.isAutocenter = false :=
  isAutocenter_of_opcode empty_opcode (by decide)

end Report

def lastAutocenter (reports : List Report) : Option Report :=
  Selection.last? (fun report => report.isAutocenter = true) reports

/-- The last autocenter report turned it off on all slots. -/
def AutocenterOff (reports : List Report) : Prop :=
  ∃ report, lastAutocenter reports = some report ∧ report.opcode = 0x05 ∧ report.slots = 0x0F

theorem lastAutocenter_append (before after : List Report) :
    lastAutocenter (before ++ after) = (lastAutocenter after).or (lastAutocenter before) :=
  Selection.last?_append _ before after

theorem lastAutocenter_of_none {reports : List Report}
    (others : ∀ report ∈ reports, report.isAutocenter = false) :
    lastAutocenter reports = none := by
  apply Selection.last?_eq_none_iff.mpr
  intro report member
  simp [others report member]

theorem autocenterOff_disabled {reports : List Report}
    (last : lastAutocenter reports = some (Protocol.disableAutocenter .logitechClassic 0x0F)) :
    AutocenterOff reports :=
  ⟨_, last, by decide, by decide⟩

theorem autocenterOff_enabled {reports : List Report}
    (last : lastAutocenter reports = some (Protocol.enableAutocenter .logitechClassic 0x0F)) :
    ¬ AutocenterOff reports := by
  rintro ⟨report, same, opcode, _⟩
  rw [last, Option.some.injEq] at same
  rw [← same] at opcode
  exact absurd opcode (by decide)

namespace Wheel

/-- What the success of a calibration stands for. -/
structure AtRest (rig : Rig) : Prop where
  autocenter : AutocenterOff rig.line.delivered
  silent : Silent rig.line.delivered
  stopped : rig.wheel.playing = false
  constant : rig.wheel.constant.enabled = false
  trapezoid : rig.wheel.trapezoid.enabled = false

theorem calibrate_succeeds_iff (rig : Rig) (present : rig.wheel.device.isPresent = true) :
    (calibrate.run rig).1 = true ↔
      rig.line.Completes ∧ (calibrationLine rig 1).Completes ∧
        (calibrationLine rig 12).Completes := by
  by_cases freed : rig.line.Completes
  · rw [and_iff_right freed]
    by_cases stopped : (calibrationLine rig 1).Completes
    · rw [and_iff_right stopped, calibrate_run_of_stopped rig present freed stopped]
      exact Line.attempt_singleton _ (calibrationLine rig 12)
    · rw [calibrate_run_of_unstopped rig present freed stopped]
      simp [stopped]
  · rw [calibrate_run_of_unfreed rig present freed]
    simp [freed]

theorem calibrate_of_succeeded {rig : Rig} (present : rig.wheel.device.isPresent = true)
    (succeeded : (calibrate.run rig).1 = true) :
    (calibrate.run rig).2 =
      { wheel := rig.wheel.calibrated
        line := rig.line.attemptAll rig.wheel.calibrationBatches } := by
  obtain ⟨freed, stopped, _⟩ := (calibrate_succeeds_iff rig present).mp succeeded
  rw [calibrate_run_of_stopped rig present freed stopped]

theorem lastAutocenter_quiet_cons {line : Line Report} {messages : List Report}
    (rest : List (List Report)) (others : ∀ report ∈ messages, report.isAutocenter = false) :
    lastAutocenter (line.carriedAll (messages :: rest)) =
      lastAutocenter ((line.attempt messages).2.carriedAll rest) := by
  have carried : lastAutocenter (line.carried messages) = none :=
    lastAutocenter_of_none fun report member => others report (Line.mem_of_mem_carried member)
  rw [Line.carriedAll, lastAutocenter_append, carried, Option.or_none]

theorem lastAutocenter_cons {line : Line Report} {report : Report} (rest : List (List Report))
    (concerns : report.isAutocenter = true) :
    lastAutocenter (line.carriedAll ([report] :: rest)) =
      (lastAutocenter ((line.attempt [report]).2.carriedAll rest)).or
        (if line.Carries then some report else none) := by
  rw [Line.carriedAll, lastAutocenter_append, Line.carried_singleton]
  congr 1
  split
  · exact (Selection.last?_singleton _ report).trans (if_pos concerns)
  · rfl

theorem downloads_isAutocenter (wheel : Wheel) :
    ∀ report ∈ wheel.enabledReports Protocol.downloadForce, report.isAutocenter = false := by
  intro report member
  obtain ⟨effect, _, rfl⟩ := (mem_enabledReports_iff _ wheel report).mp member
  exact Report.isAutocenter_of_opcode (Protocol.downloadForce_opcode _ _) (by decide)

theorem refreshes_isAutocenter (wheel : Wheel) :
    ∀ report ∈ wheel.enabledReports Protocol.refreshForce, report.isAutocenter = false := by
  intro report member
  obtain ⟨effect, _, rfl⟩ := (mem_enabledReports_iff _ wheel report).mp member
  exact Report.isAutocenter_of_opcode (Protocol.refreshForce_opcode _ _) (by decide)

/-- Of a calibration's autocenter commands the last that gets through
decides. -/
theorem lastAutocenter_calibration {rig : Rig} (classic : rig.wheel.protocol = .logitechClassic) :
    lastAutocenter (rig.line.carriedAll rig.wheel.calibrationBatches) =
      if (calibrationLine rig 11).Carries then
        some (Protocol.disableAutocenter .logitechClassic 0x0F)
      else if (calibrationLine rig 10).Carries then
        some (Protocol.enableAutocenter .logitechClassic 0x0F)
      else if rig.line.Carries then
        some (Protocol.disableAutocenter .logitechClassic 0x0F)
      else
        none := by
  have stops : ∀ report ∈ rig.wheel.stopBatch, report.isAutocenter = false := by
    intro report member
    rw [List.mem_singleton.mp member, classic]
    exact Report.isAutocenter_of_opcode (Protocol.stopForce_opcode _) (by decide)
  have plays : ∀ mask, ∀ report ∈ [Protocol.playForce rig.wheel.protocol mask],
      report.isAutocenter = false := by
    intro mask report member
    rw [List.mem_singleton.mp member, classic]
    exact Report.isAutocenter_of_opcode (Protocol.playForce_opcode _) (by decide)
  have off : (Protocol.disableAutocenter rig.wheel.protocol 0x0F).isAutocenter = true := by
    rw [classic]
    decide
  have on : (Protocol.enableAutocenter rig.wheel.protocol 0x0F).isAutocenter = true := by
    rw [classic]
    decide
  let stop := rig.wheel.stopBatch
  let right := rig.wheel.turning 96
  let left := rig.wheel.turning 160
  change lastAutocenter (rig.line.carriedAll
    [[Protocol.disableAutocenter rig.wheel.protocol 0x0F], stop,
      right.enabledReports Protocol.downloadForce,
      [Protocol.playForce rig.wheel.protocol right.enabledSlots],
      left.enabledReports Protocol.refreshForce, stop,
      left.shaking.enabledReports Protocol.downloadForce,
      [Protocol.playForce rig.wheel.protocol left.shaking.enabledSlots], stop, stop,
      [Protocol.enableAutocenter rig.wheel.protocol 0x0F],
      [Protocol.disableAutocenter rig.wheel.protocol 0x0F], stop]) = _
  rw [lastAutocenter_cons _ off, lastAutocenter_quiet_cons _ stops,
    lastAutocenter_quiet_cons _ (downloads_isAutocenter right), lastAutocenter_quiet_cons _ (plays _),
    lastAutocenter_quiet_cons _ (refreshes_isAutocenter left), lastAutocenter_quiet_cons _ stops,
    lastAutocenter_quiet_cons _ (downloads_isAutocenter left.shaking), lastAutocenter_quiet_cons _ (plays _),
    lastAutocenter_quiet_cons _ stops, lastAutocenter_quiet_cons _ stops,
    lastAutocenter_cons _ on, lastAutocenter_cons _ off, lastAutocenter_quiet_cons _ stops]
  change (((none : Option Report).or (if (calibrationLine rig 11).Carries then _ else _)).or
    (if (calibrationLine rig 10).Carries then _ else _)).or _ = _
  rw [classic]
  by_cases disabled : (calibrationLine rig 11).Carries
  · simp [disabled]
  · by_cases enabled : (calibrationLine rig 10).Carries
    · simp [disabled, enabled]
    · simp [disabled, enabled]

/-! ### The whole calibration -/

theorem calibrationBatches_isAutocenter {wheel : Wheel}
    (unsupported : wheel.protocol ≠ .logitechClassic) :
    ∀ report ∈ wheel.calibrationBatches.flatten, report.isAutocenter = false := by
  intro report member
  rcases mem_calibrationBatches member with
    (rfl | rfl | rfl | ⟨mask, rfl⟩) | right | left | shake
  · rw [Protocol.disableAutocenter_of_unsupported unsupported]
    exact Report.empty_isAutocenter
  · rw [Protocol.enableAutocenter_of_unsupported unsupported]
    exact Report.empty_isAutocenter
  · rw [Protocol.stopForce_of_unsupported unsupported]
    exact Report.empty_isAutocenter
  · rw [Protocol.playForce_of_unsupported unsupported]
    exact Report.empty_isAutocenter
  · exact downloads_isAutocenter _ report right
  · exact refreshes_isAutocenter _ report left
  · exact downloads_isAutocenter _ report shake

theorem calibrated_autocenterOff_iff {rig : Rig}
    (classic : rig.wheel.protocol = .logitechClassic) (freed : rig.line.Carries) :
    AutocenterOff (rig.line.attemptAll rig.wheel.calibrationBatches).delivered ↔
      ((calibrationLine rig 10).Carries → (calibrationLine rig 11).Carries) := by
  have last : lastAutocenter (rig.line.attemptAll rig.wheel.calibrationBatches).delivered =
      (lastAutocenter (rig.line.carriedAll rig.wheel.calibrationBatches)).or
        (lastAutocenter rig.line.delivered) := by
    rw [Line.attemptAll_delivered, lastAutocenter_append]
  rw [lastAutocenter_calibration classic, if_pos freed] at last
  by_cases disabled : (calibrationLine rig 11).Carries
  · rw [if_pos disabled] at last
    exact iff_of_true (autocenterOff_disabled last) fun _ => disabled
  · rw [if_neg disabled] at last
    by_cases enabled : (calibrationLine rig 10).Carries
    · rw [if_pos enabled] at last
      exact iff_of_false (autocenterOff_enabled last) fun kept => disabled (kept enabled)
    · rw [if_neg enabled] at last
      exact iff_of_true (autocenterOff_disabled last) fun sent => False.elim (enabled sent)

theorem calibrated_silent {rig : Rig} (classic : rig.wheel.protocol = .logitechClassic)
    (stopped : (calibrationLine rig 12).Carries) :
    Silent (rig.line.attemptAll rig.wheel.calibrationBatches).delivered := by
  have ends : rig.line.attemptAll rig.wheel.calibrationBatches =
      ((calibrationLine rig 12).attempt rig.wheel.stopBatch).2 := rfl
  rw [ends, Line.attempt_delivered]
  unfold stopBatch
  rw [Line.carried_singleton, if_pos stopped]
  apply silent_append_stop
  · exact fun unsupported => False.elim (unsupported classic)
  · exact fun report absent => by cases absent

/-- A calibration that reports success has put the wheel to rest exactly when,
on the classic protocol, its enabling of the autocenter did not get through or
the disabling after it did; on another protocol it sends nothing that could. -/
theorem calibrate_atRest_iff (rig : Rig) (present : rig.wheel.device.isPresent = true) :
    ((calibrate.run rig).1 = true → AtRest (calibrate.run rig).2) ↔
      (rig.line.Completes → (calibrationLine rig 1).Completes →
        (calibrationLine rig 12).Completes →
          if rig.wheel.protocol = .logitechClassic then
            (calibrationLine rig 10).Carries → (calibrationLine rig 11).Carries
          else
            AutocenterOff rig.line.delivered ∧ Silent rig.line.delivered) := by
  have rest : (calibrate.run rig).1 = true →
      (AtRest (calibrate.run rig).2 ↔
        AutocenterOff (rig.line.attemptAll rig.wheel.calibrationBatches).delivered ∧
          Silent (rig.line.attemptAll rig.wheel.calibrationBatches).delivered) := by
    intro succeeded
    rw [calibrate_of_succeeded present succeeded]
    constructor
    · rintro ⟨autocenter, silent, _, _, _⟩
      exact ⟨autocenter, silent⟩
    · rintro ⟨autocenter, silent⟩
      exact ⟨autocenter, silent, rfl, rfl, rfl⟩
  have outcomes : ∀ freed : rig.line.Completes,
      ∀ stopped : (calibrationLine rig 12).Completes,
      (AutocenterOff (rig.line.attemptAll rig.wheel.calibrationBatches).delivered ∧
          Silent (rig.line.attemptAll rig.wheel.calibrationBatches).delivered) ↔
        if rig.wheel.protocol = .logitechClassic then
          (calibrationLine rig 10).Carries → (calibrationLine rig 11).Carries
        else
          AutocenterOff rig.line.delivered ∧ Silent rig.line.delivered := by
    intro freed stopped
    by_cases classic : rig.wheel.protocol = .logitechClassic
    · rw [if_pos classic, ← calibrated_autocenterOff_iff classic freed.carries]
      exact and_iff_left (calibrated_silent classic stopped.carries)
    · have others : lastAutocenter (rig.line.carriedAll rig.wheel.calibrationBatches) = none :=
        lastAutocenter_of_none fun report member =>
          calibrationBatches_isAutocenter classic report (Line.mem_of_mem_carriedAll member)
      have quiet : ∀ report ∈ rig.line.carriedAll rig.wheel.calibrationBatches, report.Quiet :=
        fun report member =>
          calibrationBatches_quiet classic report (Line.mem_of_mem_carriedAll member)
      rw [if_neg classic, Line.attemptAll_delivered]
      unfold AutocenterOff Silent
      simp only [lastAutocenter_append, others, Option.none_or,
        Slot.playing_append_quiet _ _ _ quiet]
  constructor
  · intro means freed stopped last
    have succeeded := (calibrate_succeeds_iff rig present).mpr ⟨freed, stopped, last⟩
    exact (outcomes freed last).mp ((rest succeeded).mp (means succeeded))
  · intro condition succeeded
    obtain ⟨freed, stopped, last⟩ := (calibrate_succeeds_iff rig present).mp succeeded
    exact (rest succeeded).mpr ((outcomes freed last).mpr (condition freed stopped last))

/-- A wheel whose calibration fails to open the device for its second to last
command alone. -/
def recenteredRig : Rig :=
  { wheel := { initial with device := .g29 }
    line := .idle fun position => position != 33 }

/-- It reports success and leaves the autocenter on. -/
theorem recenteredRig_not_atRest :
    (calibrate.run recenteredRig).1 = true ∧ ¬ AtRest (calibrate.run recenteredRig).2 := by
  have last : lastAutocenter (calibrate.run recenteredRig).2.line.delivered =
      some (Protocol.enableAutocenter .logitechClassic 0x0F) := by
    decide +kernel
  refine ⟨by decide +kernel, ?_⟩
  rintro ⟨autocenter, _, _, _, _⟩
  exact autocenterOff_enabled last autocenter

theorem calibrate_atRest_iff_at_recenteredRig :
    ((calibrate.run recenteredRig).1 = true → AtRest (calibrate.run recenteredRig).2) ↔
      (recenteredRig.line.Completes → (calibrationLine recenteredRig 1).Completes →
        (calibrationLine recenteredRig 12).Completes →
          if recenteredRig.wheel.protocol = .logitechClassic then
            (calibrationLine recenteredRig 10).Carries → (calibrationLine recenteredRig 11).Carries
          else
            AutocenterOff recenteredRig.line.delivered ∧ Silent recenteredRig.line.delivered) :=
  calibrate_atRest_iff recenteredRig rfl

end Wheel

end Fffb
