import Fffb.Joy.Effects
import Fffb.Joy.WheelDelivery

/-
Sequences of wheel operations: the immediate ones, and batches of queued forms
that end in a flush.

`Queued.perform_run` says once what a queued form does: which reports it
appends and what it changes besides.
-/

namespace Fffb.Wheel

inductive Queued where
  | disableAutocenter
  | enableAutocenter
  | downloadForces
  | playForces
  | stopForces
  | refreshForces
  | setLedPattern (pattern : U8)
  | assign (constant : ConstantForceParams) (spring : SpringForceParams)
      (damper : DamperForceParams) (trapezoid : TrapezoidForceParams)

/-- The immediate operations, and batches that end in a flush. -/
inductive Operation where
  | calibrate
  | disableAutocenter
  | enableAutocenter
  | downloadForces
  | playForces
  | stopForces
  | refreshForces
  | setLedPattern (pattern : U8)
  | assign (constant : ConstantForceParams) (spring : SpringForceParams)
      (damper : DamperForceParams) (trapezoid : TrapezoidForceParams)
  | batch (queued : List Queued)

/-- The callers write to the effects through the references that
`constant_force` and its siblings return. -/
def assignEffects (constant : ConstantForceParams) (spring : SpringForceParams)
    (damper : DamperForceParams) (trapezoid : TrapezoidForceParams) : WheelM Unit :=
  modify fun rig =>
    { rig with
      wheel :=
        { rig.wheel with
          constant := constant
          spring := spring
          damper := damper
          trapezoid := trapezoid } }

namespace Queued

def perform : Queued → WheelM Unit
  | disableAutocenter => qDisableAutocenter
  | enableAutocenter => qEnableAutocenter
  | downloadForces => qDownloadForces
  | playForces => qPlayForces
  | stopForces => qStopForces
  | refreshForces => qRefreshForces
  | setLedPattern pattern => qSetLedPattern pattern
  | assign constant spring damper trapezoid => assignEffects constant spring damper trapezoid

def performEach : List Queued → WheelM Unit
  | [] => return ()
  | queued :: rest => do
      queued.perform
      performEach rest

end Queued

def Operation.perform (operation : Operation) (rig : Rig) : Rig :=
  match operation with
  | .calibrate => (Wheel.calibrate.run rig).2
  | .disableAutocenter => (Wheel.disableAutocenter.run rig).2
  | .enableAutocenter => (Wheel.enableAutocenter.run rig).2
  | .downloadForces => (Wheel.downloadForces.run rig).2
  | .playForces => (Wheel.playForces.run rig).2
  | .stopForces => (Wheel.stopForces.run rig).2
  | .refreshForces => (Wheel.refreshForces.run rig).2
  | .setLedPattern pattern => ((Wheel.setLedPattern pattern).run rig).2
  | .assign constant spring damper trapezoid =>
      ((assignEffects constant spring damper trapezoid).run rig).2
  | .batch queued => (flushReports.run ((Queued.performEach queued).run rig).2).2

def Operation.performAll (operations : List Operation) (rig : Rig) : Rig :=
  operations.foldl (fun current operation => operation.perform current) rig

def queueing (reports : List Report) (wheel : Wheel) : Wheel := { wheel with reports := reports }

namespace Queued

def change (queued : Queued) (wheel : Wheel) : Wheel :=
  match queued with
  | playForces => { wheel with playing := true }
  | stopForces => { wheel with playing := false }
  | refreshForces => { wheel with playing := true }
  | assign constant spring damper trapezoid =>
      { wheel with
        constant := constant
        spring := spring
        damper := damper
        trapezoid := trapezoid }
  | _ => wheel

def added (queued : Queued) (wheel : Wheel) : List Report :=
  match queued with
  | disableAutocenter => [Protocol.disableAutocenter wheel.protocol 0x0F]
  | enableAutocenter => [Protocol.enableAutocenter wheel.protocol 0x0F]
  | downloadForces => wheel.enabledReports Protocol.downloadForce
  | playForces => wheel.playBatch
  | stopForces => wheel.stopBatch
  | refreshForces =>
      (if wheel.playing then [] else wheel.playBatch) ++ wheel.enabledReports Protocol.refreshForce
  | setLedPattern pattern => [Protocol.setLedPattern wheel.protocol pattern]
  | assign _ _ _ _ => []

def changeEach (queued : List Queued) (wheel : Wheel) : Wheel :=
  queued.foldl (fun current operation => operation.change current) wheel

def addedEach : List Queued → Wheel → List Report
  | [], _ => []
  | queued :: rest, wheel => queued.added wheel ++ addedEach rest (queued.change wheel)

theorem change_queueing (queued : Queued) (reports : List Report) (wheel : Wheel) :
    queued.change (queueing reports wheel) = queueing reports (queued.change wheel) := by
  cases queued <;> rfl

theorem changeEach_queueing (queued : List Queued) (reports : List Report) (wheel : Wheel) :
    changeEach queued (queueing reports wheel) = queueing reports (changeEach queued wheel) := by
  induction queued generalizing wheel with
  | nil => rfl
  | cons first rest ih =>
      unfold changeEach at *
      rw [List.foldl_cons, List.foldl_cons, change_queueing, ih]

theorem added_queueing (queued : Queued) (reports : List Report) (wheel : Wheel) :
    queued.added (queueing reports wheel) = queued.added wheel := by
  cases queued <;> rfl

theorem addedEach_queueing (queued : List Queued) (reports : List Report) (wheel : Wheel) :
    addedEach queued (queueing reports wheel) = addedEach queued wheel := by
  induction queued generalizing wheel with
  | nil => rfl
  | cons first rest ih =>
      rw [addedEach, addedEach, added_queueing, change_queueing, ih]

theorem perform_run (queued : Queued) (rig : Rig) :
    (queued.perform.run rig).2 =
      { rig with
        wheel := queueing (rig.wheel.reports ++ queued.added rig.wheel)
          (queued.change rig.wheel) } := by
  cases queued with
  | disableAutocenter => rfl
  | enableAutocenter => rfl
  | downloadForces =>
      change ((enqueueEach _).run rig).2 = _
      rw [enqueueEach_run]
      rfl
  | playForces => rfl
  | stopForces => rfl
  | refreshForces =>
      change (qRefreshForces.run rig).2 = _
      unfold added
      cases flag : rig.wheel.playing with
      | false =>
          rw [qRefreshForces_run_of_stopped rig flag]
          rfl
      | true =>
          have same : change .refreshForces rig.wheel = rig.wheel := by
            unfold change
            rw [← flag]
          rw [qRefreshForces_run_of_playing rig flag, same]
          rfl
  | setLedPattern pattern => rfl
  | assign constant spring damper trapezoid =>
      unfold added
      rw [List.append_nil]
      rfl

theorem performEach_run (queued : List Queued) (rig : Rig) :
    ((performEach queued).run rig).2 =
      { rig with
        wheel := queueing (rig.wheel.reports ++ addedEach queued rig.wheel)
          (changeEach queued rig.wheel) } := by
  induction queued generalizing rig with
  | nil =>
      rw [addedEach, List.append_nil]
      rfl
  | cons first rest ih =>
      have ran := ih (first.perform.run rig).2
      rw [first.perform_run rig] at ran
      change ((performEach rest).run (first.perform.run rig).2).2 = _
      rw [first.perform_run rig, ran, addedEach_queueing, changeEach_queueing, addedEach,
        ← List.append_assoc]
      rfl

end Queued

theorem calibrate_reports (rig : Rig) :
    (calibrate.run rig).2.wheel.reports = rig.wheel.reports := by
  cases present : rig.wheel.device.isPresent with
  | false => rw [calibrate_run_of_absent rig present]
  | true =>
      by_cases freed : rig.line.Completes
      · by_cases stopped :
          (rig.line.attemptAll (rig.wheel.calibrationBatches.take 1)).Completes
        · rw [calibrate_run_of_stopped rig present freed stopped]
          rfl
        · rw [calibrate_run_of_unstopped rig present freed stopped]
      · rw [calibrate_run_of_unfreed rig present freed]

/-- Immediate operations leave the queue alone, and a batch empties it. -/
theorem Operation.perform_reports (operation : Operation) {rig : Rig}
    (emptyQueue : rig.wheel.reports = []) : (operation.perform rig).wheel.reports = [] := by
  cases operation with
  | calibrate => exact (calibrate_reports rig).trans emptyQueue
  | disableAutocenter =>
      exact (congrArg reports (disableAutocenter_makes.wheel rig)).trans emptyQueue
  | enableAutocenter =>
      exact (congrArg reports (enableAutocenter_makes.wheel rig)).trans emptyQueue
  | downloadForces => exact (congrArg reports (downloadForces_makes.wheel rig)).trans emptyQueue
  | playForces => exact (congrArg reports (playForces_makes.wheel rig)).trans emptyQueue
  | stopForces => exact (congrArg reports (stopForces_makes.wheel rig)).trans emptyQueue
  | refreshForces => exact (congrArg reports (refreshForces_makes.wheel rig)).trans emptyQueue
  | setLedPattern pattern =>
      exact (congrArg reports ((setLedPattern_makes pattern).wheel rig)).trans emptyQueue
  | assign constant spring damper trapezoid => exact emptyQueue
  | batch queued => exact congrArg reports (flushReports_makes.wheel _)

theorem Operation.performAll_reports (operations : List Operation) {rig : Rig}
    (emptyQueue : rig.wheel.reports = []) :
    (Operation.performAll operations rig).wheel.reports = [] := by
  induction operations generalizing rig with
  | nil => exact emptyQueue
  | cons first rest ih => exact ih (first.perform_reports emptyQueue)

end Fffb.Wheel
