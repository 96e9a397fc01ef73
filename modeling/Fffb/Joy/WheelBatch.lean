import Fffb.Foundation.CallLog
import Fffb.Joy.WheelPlaying

/-
A batch of queued operations against the operations themselves.

All queued forms but the refresh append what the immediate form would write and
change the object in the same way.  A queue flushed once therefore holds what the
immediate operations write one after the other.
-/

namespace Fffb.Wheel

namespace Queued

/-- The operation whose queued form this is. -/
def immediate : Queued → WheelM Unit
  | disableAutocenter => do let _ ← Wheel.disableAutocenter
  | enableAutocenter => do let _ ← Wheel.enableAutocenter
  | downloadForces => do let _ ← Wheel.downloadForces
  | playForces => do let _ ← Wheel.playForces
  | stopForces => do let _ ← Wheel.stopForces
  | refreshForces => do let _ ← Wheel.refreshForces
  | setLedPattern pattern => do let _ ← Wheel.setLedPattern pattern
  | assign constant spring damper trapezoid => assignEffects constant spring damper trapezoid

def immediateEach : List Queued → WheelM Unit
  | [] => return ()
  | queued :: rest => do
      queued.immediate
      immediateEach rest

def transactions (queued : Queued) (wheel : Wheel) : List (List Report) :=
  match queued with
  | disableAutocenter => [[Protocol.disableAutocenter wheel.protocol 0x0F]]
  | enableAutocenter => [[Protocol.enableAutocenter wheel.protocol 0x0F]]
  | downloadForces => [wheel.enabledReports Protocol.downloadForce]
  | playForces => [wheel.playBatch]
  | stopForces => [wheel.stopBatch]
  | refreshForces => [wheel.refreshBatch]
  | setLedPattern pattern => [[Protocol.setLedPattern wheel.protocol pattern]]
  | assign _ _ _ _ => []

def transactionsEach : List Queued → Wheel → List (List Report)
  | [], _ => []
  | queued :: rest, wheel => queued.transactions wheel ++ transactionsEach rest (queued.change wheel)

theorem immediate_makes (queued : Queued) :
    Makes queued.immediate queued.change queued.transactions := by
  cases queued with
  | disableAutocenter => exact disableAutocenter_makes
  | enableAutocenter => exact enableAutocenter_makes
  | downloadForces => exact downloadForces_makes
  | playForces => exact playForces_makes
  | stopForces => exact stopForces_makes
  | refreshForces => exact refreshForces_makes
  | setLedPattern pattern => exact setLedPattern_makes pattern
  | assign constant spring damper trapezoid => exact fun _ => rfl

theorem immediateEach_makes (queued : List Queued) :
    Makes (immediateEach queued) (changeEach queued) (transactionsEach queued) := by
  induction queued with
  | nil => exact return_makes ()
  | cons first rest ih => exact first.immediate_makes.dropped ih

/-- A queued form appends the reports of the immediate one. -/
theorem added_eq_transactions (queued : Queued) (paired : queued ≠ .refreshForces)
    (wheel : Wheel) : queued.added wheel = (queued.transactions wheel).flatten := by
  cases queued with
  | refreshForces => exact absurd rfl paired
  | assign constant spring damper trapezoid => rfl
  | disableAutocenter | enableAutocenter | downloadForces | playForces | stopForces
  | setLedPattern pattern => exact List.flatten_singleton.symm

theorem addedEach_eq_transactions (queued : List Queued) (paired : .refreshForces ∉ queued)
    (wheel : Wheel) : addedEach queued wheel = (transactionsEach queued wheel).flatten := by
  induction queued generalizing wheel with
  | nil => rfl
  | cons first rest ih =>
      have firstPaired : first ≠ .refreshForces := fun same =>
        paired (same ▸ List.mem_cons_self)
      have restPaired : .refreshForces ∉ rest := fun member =>
        paired (List.mem_cons_of_mem first member)
      rw [addedEach, transactionsEach, List.flatten_append,
        first.added_eq_transactions firstPaired, ih restPaired]

def batch (queued : List Queued) : WheelM Bool := do
  performEach queued
  flushReports

theorem batch_run (queued : List Queued) (paired : .refreshForces ∉ queued) (rig : Rig)
    (emptyQueue : rig.wheel.reports = []) :
    (batch queued).run rig =
      ((rig.line.attempt (transactionsEach queued rig.wheel).flatten).1,
        { wheel := queueing [] (changeEach queued rig.wheel)
          line := (rig.line.attempt (transactionsEach queued rig.wheel).flatten).2 }) := by
  let filled : Rig :=
    { rig with
      wheel := queueing (transactionsEach queued rig.wheel).flatten
        (changeEach queued rig.wheel) }
  have ran := performEach_run queued rig
  rw [emptyQueue, List.nil_append, addedEach_eq_transactions queued paired] at ran
  have performed : (performEach queued).run rig = ((), filled) := Prod.ext rfl ran
  have flushed : flushReports.run filled =
      ((rig.line.attempt filled.wheel.reports).1,
        { wheel := queueing [] (changeEach queued rig.wheel)
          line := (rig.line.attempt filled.wheel.reports).2 }) := by
    unfold flushReports
    rw [Checked.run_of_get, Checked.run_of_result (writeReports_attempt filled _)]
    rfl
  exact (Checked.run_of_dropped performed flushReports).trans flushed

end Queued

/-- A batch writes the front of what the immediate operations write on a line
without failures, all of it if it reports success, as it does when none of its
calls fails, and leaves the queue empty and the flag as they do. -/
structure FaithfulBatch (queued : List Queued) (rig : Rig) (healthy : Line Report) : Prop where
  front : written (Queued.batch queued) rig <+:
    written (Queued.immediateEach queued) { rig with line := healthy }
  whole : ((Queued.batch queued).run rig).1 = true →
    written (Queued.batch queued) rig =
      written (Queued.immediateEach queued) { rig with line := healthy }
  served : (∀ call ∈ rig.line.made ((Queued.batch queued).run rig).2.line, call.ok = true) →
    ((Queued.batch queued).run rig).1 = true
  emptied : ((Queued.batch queued).run rig).2.wheel.reports = []
  flag : ((Queued.batch queued).run rig).2.wheel.playing =
    ((Queued.immediateEach queued).run { rig with line := healthy }).2.wheel.playing

theorem batch_written (queued : List Queued) (paired : .refreshForces ∉ queued) (rig : Rig)
    (emptyQueue : rig.wheel.reports = []) :
    written (Queued.batch queued) rig =
      rig.line.carried (Queued.transactionsEach queued rig.wheel).flatten := by
  unfold written
  rw [Queued.batch_run queued paired rig emptyQueue, Line.attempt_delivered, List.drop_left]

theorem immediateEach_written (queued : List Queued) (rig : Rig) (healthy : rig.line.Healthy) :
    written (Queued.immediateEach queued) rig =
      (Queued.transactionsEach queued rig.wheel).flatten := by
  unfold written
  rw [(Queued.immediateEach_makes queued).sent rig healthy, Line.sendAll_delivered,
    List.drop_left]

/-- Queueing is a faithful batch of the immediate operations, whatever calls of
the flush fail. -/
theorem batch_faithful (queued : List Queued) (paired : .refreshForces ∉ queued) (rig : Rig)
    (emptyQueue : rig.wheel.reports = []) (line : Line Report) (healthy : line.Healthy) :
    FaithfulBatch queued rig line := by
  have ran := Queued.batch_run queued paired rig emptyQueue
  have batched := batch_written queued paired rig emptyQueue
  have immediate := immediateEach_written queued { rig with line := line } healthy
  constructor
  · rw [batched, immediate]
    exact Line.carried_prefix rig.line _
  · intro succeeded
    rw [ran] at succeeded
    rw [batched, immediate]
    exact Line.carried_of_succeeded succeeded
  · intro allOk
    rw [ran] at allOk ⊢
    obtain ⟨succeeds, served⟩ := Line.attempt_succeeds_iff
      (Queued.transactionsEach queued rig.wheel).flatten rig.line
    exact succeeds.mpr (served.mp allOk)
  · rw [ran]
    rfl
  · rw [ran, (Queued.immediateEach_makes queued).wheel]
    rfl

/-- Three queued operations with an assignment between them, on a line whose
third call, the second write, fails. -/
theorem batch_faithful_at_failingWrite :
    FaithfulBatch
      [.disableAutocenter, .assign { defaultConstF with enabled := true } defaultSpringF
        defaultDamperF defaultTrapF, .downloadForces, .playForces]
      { wheel := { initial with device := .g29 }, line := .idle fun position => position != 2 }
      (.idle fun _ => true) :=
  batch_faithful _ (by simp) _ rfl _ Line.idle_healthy

end Fffb.Wheel
