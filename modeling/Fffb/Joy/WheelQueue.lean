import Fffb.Joy.Effects
import Fffb.Joy.WheelDelivery

/-
The queued operations against the immediate ones.
-/

namespace Fffb.Wheel

def refreshByQueue : WheelM Bool := do
  qRefreshForces
  flushReports

/-- Both ways to refresh write the same reports and leave the same object. -/
def RefreshesAgree (rig : Rig) : Prop :=
  (refreshForces.run rig).2.line.delivered = (refreshByQueue.run rig).2.line.delivered ∧
    (refreshForces.run rig).2.wheel = (refreshByQueue.run rig).2.wheel

instance (rig : Rig) : Decidable (RefreshesAgree rig) :=
  inferInstanceAs (Decidable (_ ∧ _))

theorem refreshByQueue_run_of_playing (rig : Rig) (healthy : rig.line.Healthy)
    (emptyQueue : rig.wheel.reports = []) (playing : rig.wheel.playing = true) :
    refreshByQueue.run rig =
      (true, { rig with
        line := rig.line.send (rig.wheel.enabledReports Protocol.refreshForce) }) := by
  let filled : Rig :=
    { rig with wheel := { rig.wheel with
        reports := rig.wheel.reports ++ rig.wheel.enabledReports Protocol.refreshForce } }
  have sent := flushReports_run filled healthy
  calc refreshByQueue.run rig
      = _ := Checked.run_of_dropped (qRefreshForces_run_of_playing rig playing) _
    _ = _ := sent
    _ = _ := by
      rcases rig with ⟨⟨device, protocol, constant, spring, damper, trapezoid, _, _⟩, line⟩
      cases emptyQueue
      rfl

theorem refreshByQueue_run_of_stopped (rig : Rig) (healthy : rig.line.Healthy)
    (emptyQueue : rig.wheel.reports = []) (stopped : rig.wheel.playing = false) :
    refreshByQueue.run rig =
      (true,
        { wheel := { rig.wheel with playing := true }
          line := rig.line.send
            (Protocol.playForce rig.wheel.protocol rig.wheel.enabledSlots ::
              rig.wheel.enabledReports Protocol.refreshForce) }) := by
  let filled : Rig :=
    { rig with wheel := { rig.wheel with
        playing := true
        reports := rig.wheel.reports ++
          Protocol.playForce rig.wheel.protocol rig.wheel.enabledSlots ::
            rig.wheel.enabledReports Protocol.refreshForce } }
  have sent := flushReports_run filled healthy
  calc refreshByQueue.run rig
      = _ := Checked.run_of_dropped (qRefreshForces_run_of_stopped rig stopped) _
    _ = _ := sent
    _ = _ := by
      rcases rig with ⟨⟨device, protocol, constant, spring, damper, trapezoid, _, _⟩, line⟩
      cases emptyQueue
      rfl

/-- The queued refresh lacks the early return of the immediate one, so the two
agree exactly while forces play or when there is no effect to refresh. -/
theorem refreshesAgree_iff (rig : Rig) (healthy : rig.line.Healthy)
    (emptyQueue : rig.wheel.reports = []) :
    RefreshesAgree rig ↔ rig.wheel.playing = true ∨ ∀ effect, rig.wheel.enabled effect = false := by
  cases flag : rig.wheel.playing with
  | true =>
      have same : RefreshesAgree rig := by
        unfold RefreshesAgree
        rw [refreshForces_run_of_playing rig healthy flag,
          refreshByQueue_run_of_playing rig healthy emptyQueue flag]
        exact ⟨rfl, rfl⟩
      exact ⟨fun _ => Or.inl rfl, fun _ => same⟩
  | false =>
      unfold RefreshesAgree
      rw [refreshForces_run_of_stopped rig healthy flag,
        refreshByQueue_run_of_stopped rig healthy emptyQueue flag,
        ← enabledReports_eq_nil_iff Protocol.refreshForce]
      simp only [Line.send_delivered, List.append_cancel_left_eq, List.cons.injEq, true_and,
        and_true, Bool.false_eq_true, false_or]
      exact eq_comm

def enabledRig : Rig :=
  { wheel :=
      { initial with
        device := .g29
        constant := { defaultConstF with enabled := true } }
    line := .idle fun _ => true }

theorem enabledRig_refreshes_differ :
    enabledRig.line.Healthy ∧ enabledRig.wheel.reports = [] ∧ ¬ RefreshesAgree enabledRig :=
  ⟨Line.idle_healthy, rfl, by decide +kernel⟩

theorem refreshesAgree_iff_at_enabledRig :
    RefreshesAgree enabledRig ↔ enabledRig.wheel.playing = true ∨ ∀ effect, enabledRig.wheel.enabled effect = false :=
  refreshesAgree_iff enabledRig Line.idle_healthy rfl

end Fffb.Wheel
