import Fffb.Joy.WheelObject

/-
What a calibration does under every outcome of its calls.

It gives up when there is no wheel, or when its first or its second command
fails.  After these two it goes all the way, whatever fails.
-/

namespace Fffb.Wheel

def turning (amplitude : U8) (wheel : Wheel) : Wheel :=
  { wheel with
    constant := { wheel.constant with enabled := true, amplitude := amplitude }
    playing := true }

def shaking (wheel : Wheel) : Wheel :=
  { wheel with
    constant := { wheel.constant with enabled := false }
    trapezoid :=
      { wheel.trapezoid with
        enabled := true
        amplitudeMax := 96
        amplitudeMin := 160
        tAtMax := 32
        tAtMin := 32
        slopeStepX := 6
        slopeStepY := 6 }
    playing := true }

def shaken (wheel : Wheel) : Wheel :=
  { wheel.shaking with
    trapezoid := { wheel.shaking.trapezoid with enabled := false }
    playing := false }

/-- The wheel object that calibration leaves unless it gives up early. -/
def calibrated (wheel : Wheel) : Wheel := (wheel.turning 160).shaken

def turnRightBatches (wheel : Wheel) : List (List Report) :=
  [(wheel.turning 96).enabledReports Protocol.downloadForce, (wheel.turning 96).playBatch]

def turnLeftBatches (wheel : Wheel) : List (List Report) :=
  [(wheel.turning 160).enabledReports Protocol.refreshForce]

def shakeItBatches (wheel : Wheel) : List (List Report) :=
  [wheel.stopBatch, wheel.shaking.enabledReports Protocol.downloadForce,
    wheel.shaking.playBatch, wheel.stopBatch]

def returnToCenterBatches (wheel : Wheel) : List (List Report) :=
  [wheel.stopBatch, [Protocol.enableAutocenter wheel.protocol 0x0F],
    [Protocol.disableAutocenter wheel.protocol 0x0F]]

/-- The transactions of a calibration that nothing interrupts. -/
def calibrationBatches (wheel : Wheel) : List (List Report) :=
  [[Protocol.disableAutocenter wheel.protocol 0x0F], wheel.stopBatch] ++
    wheel.turnRightBatches ++ wheel.turnLeftBatches ++
    (wheel.turning 160).shakeItBatches ++ wheel.returnToCenterBatches ++ [wheel.stopBatch]

theorem mem_calibrationBatches {wheel : Wheel} {report : Report}
    (member : report ∈ wheel.calibrationBatches.flatten) :
    (report = Protocol.disableAutocenter wheel.protocol 0x0F ∨
      report = Protocol.enableAutocenter wheel.protocol 0x0F ∨
      report = Protocol.stopForce wheel.protocol 0x0F ∨
      ∃ mask, report = Protocol.playForce wheel.protocol mask) ∨
    report ∈ (wheel.turning 96).enabledReports Protocol.downloadForce ∨
    report ∈ (wheel.turning 160).enabledReports Protocol.refreshForce ∨
    report ∈ (wheel.turning 160).shaking.enabledReports Protocol.downloadForce := by
  unfold calibrationBatches turnRightBatches turnLeftBatches shakeItBatches
    returnToCenterBatches stopBatch playBatch at member
  simp only [List.cons_append, List.nil_append, List.flatten_cons, List.flatten_nil,
    List.mem_append, List.mem_cons, List.not_mem_nil, or_false] at member
  rcases member with free | stop | right | play | left | stop | shake | play | stop | stop |
    center | free | stop
  · exact Or.inl (Or.inl free)
  · exact Or.inl (Or.inr (Or.inr (Or.inl stop)))
  · exact Or.inr (Or.inl right)
  · exact Or.inl (Or.inr (Or.inr (Or.inr ⟨_, play⟩)))
  · exact Or.inr (Or.inr (Or.inl left))
  · exact Or.inl (Or.inr (Or.inr (Or.inl stop)))
  · exact Or.inr (Or.inr (Or.inr shake))
  · exact Or.inl (Or.inr (Or.inr (Or.inr ⟨_, play⟩)))
  · exact Or.inl (Or.inr (Or.inr (Or.inl stop)))
  · exact Or.inl (Or.inr (Or.inr (Or.inl stop)))
  · exact Or.inl (Or.inr (Or.inl center))
  · exact Or.inl (Or.inl free)
  · exact Or.inl (Or.inr (Or.inr (Or.inl stop)))

theorem modifyConstant_makes (change : ConstantForceParams → ConstantForceParams) :
    Makes (modifyConstant change) (fun wheel =>
      { wheel with constant := change wheel.constant }) fun _ => [] :=
  fun _ => rfl

theorem modifyTrapezoid_makes (change : TrapezoidForceParams → TrapezoidForceParams) :
    Makes (modifyTrapezoid change) (fun wheel =>
      { wheel with trapezoid := change wheel.trapezoid }) fun _ => [] :=
  fun _ => rfl

theorem turnRight_makes : Makes turnRight (turning 96) turnRightBatches :=
  (modifyConstant_makes _).dropped (downloadForces_makes.dropped
    (playForces_makes.dropped (return_makes ())))

theorem turnLeft_makes :
    Makes turnLeft (fun wheel =>
      { wheel with
        constant := { wheel.constant with amplitude := 160 }
        playing := true }) fun wheel =>
      [({ wheel with constant := { wheel.constant with amplitude := 160 } } :
        Wheel).refreshBatch] :=
  (modifyConstant_makes _).dropped (refreshForces_makes.dropped (return_makes ()))

theorem shakeIt_makes : Makes shakeIt shaken shakeItBatches :=
  stopForces_makes.dropped ((modifyConstant_makes _).dropped ((modifyTrapezoid_makes _).dropped
    (downloadForces_makes.dropped (playForces_makes.dropped (stopForces_makes.dropped
      (modifyTrapezoid_makes _))))))

theorem returnToCenter_makes :
    Makes returnToCenter (fun wheel => { wheel with playing := false }) returnToCenterBatches :=
  stopForces_makes.dropped (enableAutocenter_makes.dropped
    (disableAutocenter_makes.dropped (return_makes ())))

def motions : WheelM Unit := do
  turnRight
  turnLeft
  shakeIt
  returnToCenter

theorem motions_makes :
    Makes motions calibrated fun wheel =>
      wheel.turnRightBatches ++ wheel.turnLeftBatches ++
        (wheel.turning 160).shakeItBatches ++ wheel.returnToCenterBatches :=
  turnRight_makes.dropped (turnLeft_makes.dropped (shakeIt_makes.dropped returnToCenter_makes))

theorem disableAutocenter_attempt (rig : Rig) :
    disableAutocenter.run rig =
      ((rig.line.attempt [Protocol.disableAutocenter rig.wheel.protocol 0x0F]).1,
        { rig with
          line := (rig.line.attempt [Protocol.disableAutocenter rig.wheel.protocol 0x0F]).2 }) :=
  writeReport_attempt rig _

theorem stopForces_attempt (rig : Rig) :
    stopForces.run rig =
      ((rig.line.attempt rig.wheel.stopBatch).1,
        { wheel := { rig.wheel with playing := false }
          line := (rig.line.attempt rig.wheel.stopBatch).2 }) :=
  writeReport_attempt { rig with wheel := { rig.wheel with playing := false } } _

/-! ### The whole of it -/

theorem calibrate_eq :
    calibrate = (do
      if !(← get).wheel.device.isPresent then return false
      if !(← disableAutocenter) then return false
      if !(← stopForces) then return false
      motions
      if !(← stopForces) then return false
      return true) := by
  unfold calibrate motions
  simp only [bind_assoc]

theorem calibrate_run_of_absent (rig : Rig) (absent : rig.wheel.device.isPresent = false) :
    calibrate.run rig = (false, rig) := by
  have entered : (!rig.wheel.device.isPresent) = true := by
    rw [absent]
    decide
  unfold calibrate
  rw [Checked.run_of_get, if_pos entered]
  rfl

section

variable (rig : Rig) (present : rig.wheel.device.isPresent = true)

include present

theorem calibrate_run_of_present :
    calibrate.run rig =
      (do
        if !(← disableAutocenter) then return false
        if !(← stopForces) then return false
        motions
        if !(← stopForces) then return false
        return true).run rig := by
  have skipped : ¬ (!rig.wheel.device.isPresent) = true := by
    rw [present]
    decide
  rw [calibrate_eq, Checked.run_of_get, if_neg skipped]

theorem calibrate_run_of_unfreed (failed : ¬ rig.line.Completes) :
    calibrate.run rig =
      (false, { rig with line := rig.line.attemptAll (rig.wheel.calibrationBatches.take 1) }) := by
  have freeing := disableAutocenter_attempt rig
  rw [Line.attempt_singleton_of_not failed] at freeing
  rw [calibrate_run_of_present rig present, Checked.run_of_false freeing]
  rfl

variable (freed : rig.line.Completes)

include freed

omit present in
theorem disableAutocenter_run_of_completes :
    disableAutocenter.run rig =
      (true, { rig with line := rig.line.attemptAll (rig.wheel.calibrationBatches.take 1) }) := by
  have freeing := disableAutocenter_attempt rig
  rw [(Line.attempt_singleton _ rig.line).mpr freed] at freeing
  exact freeing

theorem calibrate_run_of_unstopped
    (failed : ¬ (rig.line.attemptAll (rig.wheel.calibrationBatches.take 1)).Completes) :
    calibrate.run rig =
      (false,
        { wheel := { rig.wheel with playing := false }
          line := rig.line.attemptAll (rig.wheel.calibrationBatches.take 2) }) := by
  have freeing := disableAutocenter_run_of_completes rig freed
  have stopping := stopForces_attempt
    { rig with line := rig.line.attemptAll (rig.wheel.calibrationBatches.take 1) }
  have refused : ((rig.line.attemptAll (rig.wheel.calibrationBatches.take 1)).attempt
      rig.wheel.stopBatch).1 = false := Line.attempt_singleton_of_not failed _
  rw [refused] at stopping
  rw [calibrate_run_of_present rig present, Checked.run_of_true freeing]
  exact Checked.run_of_false stopping _

theorem calibrate_run_of_stopped
    (stopped : (rig.line.attemptAll (rig.wheel.calibrationBatches.take 1)).Completes) :
    calibrate.run rig =
      (((rig.line.attemptAll (rig.wheel.calibrationBatches.take 12)).attempt
          rig.wheel.stopBatch).1,
        { wheel := rig.wheel.calibrated
          line := rig.line.attemptAll rig.wheel.calibrationBatches }) := by
  have freeing := disableAutocenter_run_of_completes rig freed
  have stopping := stopForces_attempt
    { rig with line := rig.line.attemptAll (rig.wheel.calibrationBatches.take 1) }
  have accepted : ((rig.line.attemptAll (rig.wheel.calibrationBatches.take 1)).attempt
      rig.wheel.stopBatch).1 = true := (Line.attempt_singleton _ _).mpr stopped
  rw [accepted] at stopping
  let started : Rig :=
    { wheel := { rig.wheel with playing := false }
      line := rig.line.attemptAll (rig.wheel.calibrationBatches.take 2) }
  let moved : Rig :=
    { wheel := rig.wheel.calibrated
      line := rig.line.attemptAll (rig.wheel.calibrationBatches.take 12) }
  have batches : rig.wheel.calibrationBatches.take 2 ++ (started.wheel.turnRightBatches ++
      started.wheel.turnLeftBatches ++ (started.wheel.turning 160).shakeItBatches ++
        started.wheel.returnToCenterBatches) = rig.wheel.calibrationBatches.take 12 := rfl
  have moving : motions.run started = ((), moved) := by
    have line : (motions.run started).2.line = moved.line := by
      rw [motions_makes.line started, ← Line.attemptAll_append, batches]
    exact Prod.ext rfl (congrArg₂ Rig.mk (motions_makes.wheel started) line)
  calc calibrate.run rig
      = _ := calibrate_run_of_present rig present
    _ = _ := Checked.run_of_true freeing _
    _ = _ := Checked.run_of_true stopping _
    _ = _ := Checked.run_of_dropped moving _
    _ = _ := Checked.run_of_last stopForces
    _ = _ := stopForces_attempt moved
    _ = _ := rfl

end

/-- Calibration leaves the rig alone, gives up after its first or its second
command, or goes all the way. -/
theorem calibrate_cases (rig : Rig) :
    (calibrate.run rig).2 = rig ∨
      (calibrate.run rig).2 =
        { rig with line := rig.line.attemptAll (rig.wheel.calibrationBatches.take 1) } ∨
      (calibrate.run rig).2 =
        { wheel := { rig.wheel with playing := false }
          line := rig.line.attemptAll (rig.wheel.calibrationBatches.take 2) } ∨
      (calibrate.run rig).2 =
        { wheel := rig.wheel.calibrated
          line := rig.line.attemptAll rig.wheel.calibrationBatches } := by
  cases present : rig.wheel.device.isPresent with
  | false =>
      rw [calibrate_run_of_absent rig present]
      exact Or.inl rfl
  | true =>
      by_cases freed : rig.line.Completes
      · by_cases stopped : (rig.line.attemptAll (rig.wheel.calibrationBatches.take 1)).Completes
        · rw [calibrate_run_of_stopped rig present freed stopped]
          exact Or.inr (Or.inr (Or.inr rfl))
        · rw [calibrate_run_of_unstopped rig present freed stopped]
          exact Or.inr (Or.inr (Or.inl rfl))
      · rw [calibrate_run_of_unfreed rig present freed]
        exact Or.inr (Or.inl rfl)

end Fffb.Wheel
