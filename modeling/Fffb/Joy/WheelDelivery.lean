import Fffb.Joy.WheelCalibration

/-
What each wheel operation does when every device call succeeds: its result,
the wheel object it leaves and the transactions it makes.  The queued forms
make no call, so what they do needs no assumption.
-/

namespace Fffb.Wheel

theorem writeReports_run (rig : Rig) (healthy : rig.line.Healthy) (reports : List Report) :
    (writeReports reports).run rig = (true, { rig with line := rig.line.send reports }) := by
  rw [writeReports_attempt, healthy.attempt]

theorem writeReport_run (rig : Rig) (healthy : rig.line.Healthy) (report : Report) :
    (writeReport report).run rig = (true, { rig with line := rig.line.send [report] }) := by
  rw [writeReport_attempt, healthy.attempt]

section

variable (rig : Rig) (healthy : rig.line.Healthy)

include healthy

theorem disableAutocenter_run :
    disableAutocenter.run rig =
      (true, { rig with
        line := rig.line.send [Protocol.disableAutocenter rig.wheel.protocol 0x0F] }) :=
  writeReport_run rig healthy _

theorem setLedPattern_run (pattern : U8) :
    (setLedPattern pattern).run rig =
      (true, { rig with
        line := rig.line.send [Protocol.setLedPattern rig.wheel.protocol pattern] }) :=
  writeReport_run rig healthy _

theorem downloadForces_run :
    downloadForces.run rig =
      (true, { rig with
        line := rig.line.send (rig.wheel.enabledReports Protocol.downloadForce) }) :=
  writeReports_run rig healthy _

theorem playForces_run :
    playForces.run rig =
      (true,
        { wheel := { rig.wheel with playing := true }
          line := rig.line.send
            [Protocol.playForce rig.wheel.protocol rig.wheel.enabledSlots] }) :=
  writeReport_run { rig with wheel := { rig.wheel with playing := true } } healthy _

theorem stopForces_run :
    stopForces.run rig =
      (true,
        { wheel := { rig.wheel with playing := false }
          line := rig.line.send [Protocol.stopForce rig.wheel.protocol 0x0F] }) :=
  writeReport_run { rig with wheel := { rig.wheel with playing := false } } healthy _

theorem refreshForces_run_of_playing (playing : rig.wheel.playing = true) :
    refreshForces.run rig =
      (true, { rig with
        line := rig.line.send (rig.wheel.enabledReports Protocol.refreshForce) }) := by
  have skipped : ¬ (!rig.wheel.playing) = true := by
    rw [playing]
    decide
  unfold refreshForces
  rw [Checked.run_of_get, if_neg skipped, Checked.run_of_get]
  exact writeReports_run rig healthy _

/-- After a stop, a refresh sends the play report and nothing else. -/
theorem refreshForces_run_of_stopped (stopped : rig.wheel.playing = false) :
    refreshForces.run rig =
      (true,
        { wheel := { rig.wheel with playing := true }
          line := rig.line.send
            [Protocol.playForce rig.wheel.protocol rig.wheel.enabledSlots] }) := by
  have entered : (!rig.wheel.playing) = true := by
    rw [stopped]
    decide
  unfold refreshForces
  rw [Checked.run_of_get, if_pos entered]
  exact playForces_run rig healthy

theorem flushReports_run :
    flushReports.run rig =
      (true,
        { wheel := { rig.wheel with reports := [] }
          line := rig.line.send rig.wheel.reports }) := by
  unfold flushReports
  rw [Checked.run_of_get, Checked.run_of_result (writeReports_run rig healthy _)]
  rfl

end

theorem enqueueEach_run (rig : Rig) (reports : List Report) :
    (enqueueEach reports).run rig =
      ((), { rig with
        wheel := { rig.wheel with reports := rig.wheel.reports ++ reports } }) := by
  induction reports generalizing rig with
  | nil =>
      rw [List.append_nil]
      rfl
  | cons report rest ih =>
      have remaining := ih
        { rig with wheel := { rig.wheel with reports := rig.wheel.reports ++ [report] } }
      rw [List.append_assoc] at remaining
      exact remaining

theorem qRefreshForces_run_of_playing (rig : Rig) (playing : rig.wheel.playing = true) :
    qRefreshForces.run rig =
      ((), { rig with
        wheel := { rig.wheel with
          reports := rig.wheel.reports ++ rig.wheel.enabledReports Protocol.refreshForce } }) := by
  have skipped : ¬ (!rig.wheel.playing) = true := by
    rw [playing]
    decide
  unfold qRefreshForces
  rw [Checked.run_of_get, if_neg skipped, Checked.run_of_get]
  exact enqueueEach_run rig _

theorem qRefreshForces_run_of_stopped (rig : Rig) (stopped : rig.wheel.playing = false) :
    qRefreshForces.run rig =
      ((), { rig with
        wheel := { rig.wheel with
          playing := true
          reports := rig.wheel.reports ++
            Protocol.playForce rig.wheel.protocol rig.wheel.enabledSlots ::
              rig.wheel.enabledReports Protocol.refreshForce } }) := by
  have queued := enqueueEach_run
    { rig with
      wheel := { rig.wheel with
        playing := true
        reports := rig.wheel.reports ++
          [Protocol.playForce rig.wheel.protocol rig.wheel.enabledSlots] } }
    (rig.wheel.enabledReports Protocol.refreshForce)
  rw [List.append_assoc] at queued
  have entered : (!rig.wheel.playing) = true := by
    rw [stopped]
    decide
  unfold qRefreshForces
  rw [Checked.run_of_get, if_pos entered]
  exact queued

theorem calibrate_run (rig : Rig) (healthy : rig.line.Healthy)
    (present : rig.wheel.device.isPresent = true) :
    calibrate.run rig =
      (true,
        { wheel := rig.wheel.calibrated
          line := rig.line.sendAll rig.wheel.calibrationBatches }) := by
  have stopped : (rig.line.attemptAll (rig.wheel.calibrationBatches.take 1)).Completes := by
    rw [healthy.attemptAll]
    exact (healthy.sendAll _).completes
  rw [calibrate_run_of_stopped rig present healthy.completes stopped, healthy.attemptAll,
    healthy.attemptAll, (healthy.sendAll _).attempt]

end Fffb.Wheel
