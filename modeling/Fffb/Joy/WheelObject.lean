import Fffb.Foundation.Checked
import Fffb.Joy.Wheel

/-
What each operation does to the wheel object and to its line, whatever the
device answers.

Most operations change the object in the same way whether their calls succeed
or not, and they go on to their next transaction after one that failed; only
calibration gives up at some of the failures.
-/

namespace Fffb.Wheel

def written {α : Type} (operation : WheelM α) (rig : Rig) : List Report :=
  (operation.run rig).2.line.delivered.drop rig.line.delivered.length

/-- The operation turns the object into `change` of it under every outcome of
its calls, and the calls are those of these transactions. -/
def Makes {α : Type} (operation : WheelM α) (change : Wheel → Wheel)
    (batches : Wheel → List (List Report)) : Prop :=
  ∀ rig, (operation.run rig).2 =
    { wheel := change rig.wheel
      line := rig.line.attemptAll (batches rig.wheel) }

namespace Makes

variable {α β : Type} {operation : WheelM α} {change after : Wheel → Wheel}
variable {batches more : Wheel → List (List Report)}

theorem wheel (makes : Makes operation change batches) (rig : Rig) :
    (operation.run rig).2.wheel = change rig.wheel :=
  congrArg Rig.wheel (makes rig)

theorem line (makes : Makes operation change batches) (rig : Rig) :
    (operation.run rig).2.line = rig.line.attemptAll (batches rig.wheel) :=
  congrArg Rig.line (makes rig)

theorem extends_line (makes : Makes operation change batches) (rig : Rig) :
    rig.line.Extends (operation.run rig).2.line := by
  rw [makes.line]
  exact Line.attemptAll_extends _ rig.line

theorem delivered (makes : Makes operation change batches) (rig : Rig) :
    (operation.run rig).2.line.delivered =
      rig.line.delivered ++ rig.line.carriedAll (batches rig.wheel) := by
  rw [makes.line]
  exact Line.attemptAll_delivered _ rig.line

theorem sent (makes : Makes operation change batches) (rig : Rig) (healthy : rig.line.Healthy) :
    (operation.run rig).2 =
      { wheel := change rig.wheel
        line := rig.line.sendAll (batches rig.wheel) } := by
  rw [makes rig, healthy.attemptAll]

theorem dropped {rest : WheelM β} (one : Makes operation change batches)
    (two : Makes rest after more) :
    Makes (do
      let _ ← operation
      rest) (after ∘ change) fun wheel => batches wheel ++ more (change wheel) := by
  intro rig
  have second := two (operation.run rig).2
  rw [one rig] at second
  rw [Line.attemptAll_append]
  exact (congrArg (fun next => (rest.run next).2) (one rig)).trans second

end Makes

theorem written_of_run {α : Type} {operation : WheelM α} {rig : Rig} {result : α}
    {wheel : Wheel} {reports : List Report}
    (ends : operation.run rig = (result, { wheel := wheel, line := rig.line.send reports })) :
    written operation rig = reports := by
  unfold written
  rw [ends, Line.send_delivered, List.drop_left]

section

variable {rig : Rig} {ok : Bool} (outcome : rig.line.outcome rig.line.calls.length = ok)

include outcome

theorem placeCall_run_of_outcome (call : Bool → Call Report) :
    (placeCall call).run rig = (ok, { rig with line := rig.line.record [call ok] }) := by
  cases outcome
  rfl

theorem openDevice_run_of_outcome :
    openDevice.run rig = (ok, { rig with line := rig.line.record [.opening ok] }) :=
  placeCall_run_of_outcome outcome .opening

theorem writeDevice_run_of_outcome (report : Report) :
    (writeDevice report).run rig =
      (ok, { rig with line := rig.line.record [.writing report ok] }) :=
  placeCall_run_of_outcome outcome (.writing report)

end

theorem writeEach_attempt (rig : Rig) (reports : List Report) :
    (writeEach reports).run rig =
      ((rig.line.writeEach reports).1, { rig with line := (rig.line.writeEach reports).2 }) := by
  induction reports generalizing rig with
  | nil => rfl
  | cons report rest ih =>
      unfold writeEach Line.writeEach
      cases outcome : rig.line.outcome rig.line.calls.length with
      | false =>
          rw [Checked.run_of_false (writeDevice_run_of_outcome outcome report),
            if_neg Bool.false_ne_true]
      | true =>
          rw [Checked.run_of_true (writeDevice_run_of_outcome outcome report), ih, if_pos rfl]

theorem writeReports_attempt (rig : Rig) (reports : List Report) :
    (writeReports reports).run rig =
      ((rig.line.attempt reports).1, { rig with line := (rig.line.attempt reports).2 }) := by
  unfold writeReports Line.attempt
  cases outcome : rig.line.outcome rig.line.calls.length with
  | false =>
      rw [Checked.run_of_false (openDevice_run_of_outcome outcome), if_neg Bool.false_ne_true]
  | true =>
      let opened : Rig := { rig with line := rig.line.record [.opening true] }
      have writing := writeEach_attempt opened reports
      rw [Checked.run_of_true (openDevice_run_of_outcome outcome), if_pos rfl]
      dsimp only
      cases wrote : (opened.line.writeEach reports).1 with
      | false =>
          rw [wrote] at writing
          rw [Checked.run_of_false writing, if_neg Bool.false_ne_true, ← wrote]
      | true =>
          rw [wrote] at writing
          rw [Checked.run_of_true writing, Checked.run_of_last, if_pos rfl]
          rfl

/-- A single report is sent as a batch of one, whatever the calls return. -/
theorem writeReport_eq_writeReports (report : Report) :
    writeReport report = writeReports [report] := by
  simp only [writeReport, writeReports, writeEach, bind_assoc]
  congr 1
  funext opened
  cases opened with
  | false => rfl
  | true =>
      simp only [Bool.not_true, Bool.false_eq_true, if_false]
      congr 1
      funext written
      cases written <;> rfl

theorem writeReport_attempt (rig : Rig) (report : Report) :
    (writeReport report).run rig =
      ((rig.line.attempt [report]).1, { rig with line := (rig.line.attempt [report]).2 }) := by
  rw [writeReport_eq_writeReports]
  exact writeReports_attempt rig [report]

/-! ### Immediate operations -/

def stopBatch (wheel : Wheel) : List Report := [Protocol.stopForce wheel.protocol 0x0F]

def playBatch (wheel : Wheel) : List Report :=
  [Protocol.playForce wheel.protocol wheel.enabledSlots]

def refreshBatch (wheel : Wheel) : List Report :=
  if wheel.playing then wheel.enabledReports Protocol.refreshForce else wheel.playBatch

theorem refreshBatch_of_stopped {wheel : Wheel} (stopped : wheel.playing = false) :
    wheel.refreshBatch = wheel.playBatch := by
  unfold refreshBatch
  rw [stopped]
  rfl

theorem refreshBatch_of_playing {wheel : Wheel} (playing : wheel.playing = true) :
    wheel.refreshBatch = wheel.enabledReports Protocol.refreshForce :=
  if_pos playing

theorem return_makes {α : Type} (value : α) : Makes (return value) id fun _ => [] :=
  fun _ => rfl

theorem writeReports_makes (reports : List Report) :
    Makes (writeReports reports) id fun _ => [reports] :=
  fun rig => congrArg Prod.snd (writeReports_attempt rig reports)

theorem writeReport_makes (report : Report) : Makes (writeReport report) id fun _ => [[report]] :=
  fun rig => congrArg Prod.snd (writeReport_attempt rig report)

theorem disableAutocenter_makes :
    Makes disableAutocenter id fun wheel =>
      [[Protocol.disableAutocenter wheel.protocol 0x0F]] :=
  fun rig => writeReport_makes _ rig

theorem enableAutocenter_makes :
    Makes enableAutocenter id fun wheel =>
      [[Protocol.enableAutocenter wheel.protocol 0x0F]] :=
  fun rig => writeReport_makes _ rig

theorem setLedPattern_makes (pattern : U8) :
    Makes (setLedPattern pattern) id fun wheel =>
      [[Protocol.setLedPattern wheel.protocol pattern]] :=
  fun rig => writeReport_makes _ rig

theorem downloadForces_makes :
    Makes downloadForces id fun wheel => [wheel.enabledReports Protocol.downloadForce] :=
  fun rig => writeReports_makes _ rig

theorem playForces_makes :
    Makes playForces (fun wheel => { wheel with playing := true }) fun wheel =>
      [wheel.playBatch] :=
  fun rig => writeReport_makes _ { rig with wheel := { rig.wheel with playing := true } }

theorem stopForces_makes :
    Makes stopForces (fun wheel => { wheel with playing := false }) fun wheel =>
      [wheel.stopBatch] :=
  fun rig => writeReport_makes _ { rig with wheel := { rig.wheel with playing := false } }

theorem refreshForces_makes :
    Makes refreshForces (fun wheel => { wheel with playing := true }) fun wheel =>
      [wheel.refreshBatch] := by
  intro rig
  change _ = ({ wheel := { rig.wheel with playing := true }
                line := rig.line.attemptAll [rig.wheel.refreshBatch] } : Rig)
  unfold refreshForces
  rw [Checked.run_of_get]
  cases flag : rig.wheel.playing with
  | false =>
      rw [if_pos (by decide), refreshBatch_of_stopped flag]
      exact playForces_makes rig
  | true =>
      have same : ({ rig.wheel with playing := true } : Wheel) = rig.wheel := by
        rw [← flag]
      rw [if_neg (by decide), Checked.run_of_get, refreshBatch_of_playing flag, same]
      exact writeReports_makes _ rig

theorem flushReports_makes :
    Makes flushReports (fun wheel => { wheel with reports := [] }) fun wheel =>
      [wheel.reports] := by
  intro rig
  have wrote := writeReports_makes rig.wheel.reports rig
  exact congrArg (fun next : Rig => { next with wheel := { next.wheel with reports := [] } }) wrote

theorem enqueue_makes (report : Report) :
    Makes (enqueue report) (fun wheel => { wheel with reports := wheel.reports ++ [report] })
      fun _ => [] :=
  fun _ => rfl

/-! ### Construction -/

/-- Going through the listed devices changes the device and its protocol and
nothing else. -/
theorem foldl_consider (devices : List HidDevice) (wheel : Wheel) :
    ∃ device protocol,
      devices.foldl consider wheel = { wheel with device := device, protocol := protocol } ∧
        (device = wheel.device ∧ protocol = wheel.protocol ∨
          protocol = getSupportedProtocol device) := by
  induction devices generalizing wheel with
  | nil => exact ⟨wheel.device, wheel.protocol, rfl, Or.inl ⟨rfl, rfl⟩⟩
  | cons first rest ih =>
      have considered : consider wheel first = wheel ∨ consider wheel first = wheel.take first := by
        unfold consider knownWheelDeviceIds
        simp only [List.foldl_cons, List.foldl_nil]
        split_ifs
        all_goals first | exact Or.inl rfl | exact Or.inr rfl
      rw [List.foldl_cons]
      rcases considered with kept | taken
      · rw [kept]
        exact ih wheel
      · rw [taken]
        obtain ⟨device, protocol, folded, origin⟩ := ih (wheel.take first)
        refine ⟨device, protocol, folded, Or.inr ?_⟩
        rcases origin with ⟨rfl, rfl⟩ | supported
        · rfl
        · exact supported

theorem initProtocol_makes :
    Makes initProtocol id fun wheel =>
      if (Protocol.initSequence wheel.protocol wheel.device.deviceId).isEmpty then []
      else [Protocol.initSequence wheel.protocol wheel.device.deviceId] := by
  intro rig
  let sequence := Protocol.initSequence rig.wheel.protocol rig.wheel.device.deviceId
  let batches := if sequence.isEmpty then [] else [sequence]
  change ((if sequence.isEmpty then return true else writeReports sequence : WheelM Bool).run
    rig).2 = { wheel := rig.wheel, line := rig.line.attemptAll batches }
  dsimp only [batches]
  split
  · exact return_makes true rig
  · exact writeReports_makes sequence rig

theorem construct_eq (devices : List HidDevice) (line : Line Report) :
    construct devices line =
      if (devices.foldl consider initial).device.isPresent then
        (initProtocol.run { wheel := devices.foldl consider initial, line := line }).2
      else
        { wheel := devices.foldl consider initial, line := line } := rfl

theorem construct_wheel (devices : List HidDevice) (line : Line Report) :
    (construct devices line).wheel = devices.foldl consider initial := by
  rw [construct_eq]
  split
  · exact initProtocol_makes.wheel _
  · rfl

theorem construct_extends (devices : List HidDevice) (line : Line Report) :
    line.Extends (construct devices line).line := by
  rw [construct_eq]
  split
  · exact initProtocol_makes.extends_line _
  · exact .refl line

end Fffb.Wheel
