import Fffb.Foundation.CallLog
import Fffb.Joy.WheelPlaying

/-
Whether an operation leaves the device open.

Both write functions return at a failed write without the close that ends them
otherwise.  The device then stays open until a later transaction closes it.
-/

namespace Fffb.Wheel

/-- The transactions that a calibration makes before it gives up. -/
def calibrationMade (rig : Rig) : List (List Report) :=
  if rig.wheel.device.isPresent then
    if rig.line.Completes then
      if (calibrationLine rig 1).Completes then rig.wheel.calibrationBatches
      else rig.wheel.calibrationBatches.take 2
    else
      rig.wheel.calibrationBatches.take 1
  else
    []

def Operation.transactions (rig : Rig) : Operation → List (List Report)
  | .calibrate => calibrationMade rig
  | .disableAutocenter => [[Protocol.disableAutocenter rig.wheel.protocol 0x0F]]
  | .enableAutocenter => [[Protocol.enableAutocenter rig.wheel.protocol 0x0F]]
  | .downloadForces => [rig.wheel.enabledReports Protocol.downloadForce]
  | .playForces => [rig.wheel.playBatch]
  | .stopForces => [rig.wheel.stopBatch]
  | .refreshForces => [rig.wheel.refreshBatch]
  | .setLedPattern pattern => [[Protocol.setLedPattern rig.wheel.protocol pattern]]
  | .assign _ _ _ _ => []
  | .batch queued => [((Queued.performEach queued).run rig).2.wheel.reports]

def initTransactions (devices : List HidDevice) : List (List Report) :=
  let wheel := devices.foldl consider initial
  let sequence := Protocol.initSequence wheel.protocol wheel.device.deviceId
  if wheel.device.isPresent && !sequence.isEmpty then [sequence] else []

/-- Each transaction that is opened and breaks off at a write is followed by
one that is opened and comes to its close. -/
def Reclosed (line : Line Report) (transactions : List (List Report)) : Prop :=
  ∀ before turn after, line.turns transactions = before ++ turn :: after →
    Line.breaks turn = true → ∃ later ∈ after, Line.finishes later = true

theorem calibrate_line (rig : Rig) :
    (calibrate.run rig).2.line = rig.line.attemptAll (calibrationMade rig) := by
  unfold calibrationMade
  cases present : rig.wheel.device.isPresent with
  | false =>
      rw [calibrate_run_of_absent rig present]
      rfl
  | true =>
      rw [if_pos rfl]
      by_cases freed : rig.line.Completes
      · rw [if_pos freed]
        by_cases stopped : (calibrationLine rig 1).Completes
        · rw [if_pos stopped, calibrate_run_of_stopped rig present freed stopped]
        · rw [if_neg stopped, calibrate_run_of_unstopped rig present freed stopped]
      · rw [if_neg freed, calibrate_run_of_unfreed rig present freed]

theorem Operation.perform_line (operation : Operation) (rig : Rig) :
    (operation.perform rig).line = rig.line.attemptAll (operation.transactions rig) := by
  cases operation with
  | calibrate => exact calibrate_line rig
  | disableAutocenter => exact disableAutocenter_makes.line rig
  | enableAutocenter => exact enableAutocenter_makes.line rig
  | downloadForces => exact downloadForces_makes.line rig
  | playForces => exact playForces_makes.line rig
  | stopForces => exact stopForces_makes.line rig
  | refreshForces => exact refreshForces_makes.line rig
  | setLedPattern pattern => exact (setLedPattern_makes pattern).line rig
  | assign constant spring damper trapezoid => rfl
  | batch queued =>
      have flushed := flushReports_makes.line ((Queued.performEach queued).run rig).2
      have sameLine := congrArg Rig.line (Queued.performEach_run queued rig)
      rw [sameLine] at flushed
      exact flushed

theorem construct_line (devices : List HidDevice) (line : Line Report) :
    (construct devices line).line = line.attemptAll (initTransactions devices) := by
  rw [construct_eq]
  unfold initTransactions
  dsimp only
  cases (devices.foldl consider initial).device.isPresent with
  | false =>
      rw [if_neg Bool.false_ne_true, Bool.false_and, if_neg Bool.false_ne_true]
      rfl
  | true =>
      rw [if_pos rfl, initProtocol_makes.line, Bool.true_and]
      dsimp only
      cases (Protocol.initSequence (devices.foldl consider initial).protocol
        (devices.foldl consider initial).device.deviceId).isEmpty with
      | false => rfl
      | true => rfl

/-- Under every pattern of outcomes an operation and the constructor close the
device after every successful open exactly when each transaction that breaks
off at a write is followed by one that comes to its close. -/
theorem closesDevice_iff (rig : Rig) (operation : Operation) (devices : List HidDevice)
    (line : Line Report) :
    (Line.Closes (rig.line.made (operation.perform rig).line) ↔
        Reclosed rig.line (operation.transactions rig)) ∧
      (Line.Closes (line.made (construct devices line).line) ↔
        Reclosed line (initTransactions devices)) := by
  rw [operation.perform_line, construct_line]
  exact ⟨Line.attemptAll_closes_iff _ _, Line.attemptAll_closes_iff _ _⟩

/-- A wheel on which only the second call, a write, fails. -/
def leftOpenRig : Rig :=
  { wheel := { initial with device := .g29 }
    line := .idle fun position => position != 1 }

/-- A stop whose write fails opens the device and does not close it. -/
theorem leftOpenRig_stays_open :
    leftOpenRig.wheel.device.isPresent = true ∧
      leftOpenRig.line.made (Operation.stopForces.perform leftOpenRig).line =
        [.opening true, .writing (Protocol.stopForce .logitechClassic 0x0F) false] ∧
      ¬ Line.Closes (leftOpenRig.line.made (Operation.stopForces.perform leftOpenRig).line) := by
  have calls : leftOpenRig.line.made (Operation.stopForces.perform leftOpenRig).line =
      [.opening true, .writing (Protocol.stopForce .logitechClassic 0x0F) false] := by
    decide +kernel
  refine ⟨rfl, calls, ?_⟩
  rw [calls]
  intro closed
  obtain ⟨ok, member⟩ := closed [] _ rfl
  simp at member

end Fffb.Wheel
