import Fffb.Foundation.CallLog
import Fffb.Plugin.Entry

/-
Which failed device calls the plugin reports.

`update_forces` returns nothing and the result of `update_leds` is dropped, so
`update_ffb` fails only where there is no wheel.
-/

namespace Fffb

open FloatArith

variable {F : Type} [FloatArith F]

namespace Line

variable {Message : Type}

def Failed (first second : Line Message) : Prop := ∃ call ∈ first.made second, call.ok = false

theorem not_failed_self (line : Line Message) : ¬ line.Failed line := by
  simp [Failed, made]

theorem failed_attemptAll_iff (line : Line Message) (batches : List (List Message)) :
    line.Failed (line.attemptAll batches) ↔ ¬ ∀ turn ∈ line.turns batches, turn.1.Serves turn.2 := by
  rw [← attemptAll_ok_iff]
  simp [Failed]

theorem carriedAll_pair_iff (line : Line Message) (first second : Message) :
    line.carriedAll [[first], [second]] = [first, second] ↔
      line.Carries ∧ (line.attempt [first]).2.Carries := by
  unfold carriedAll carriedAll carriedAll
  rw [carried_singleton, carried_singleton]
  by_cases opens : line.Carries
  · by_cases reopens : (line.attempt [first]).2.Carries
    · rw [if_pos opens, if_pos reopens]
      exact iff_of_true rfl ⟨opens, reopens⟩
    · rw [if_pos opens, if_neg reopens]
      simp [reopens]
  · rw [if_neg opens]
    have short : ∀ reports : List Message, reports.length ≤ 1 → reports ≠ [first, second] := by
      intro reports few same
      rw [same] at few
      simp at few
    split
    · exact iff_of_false (short _ (by simp)) (fun both => opens both.1)
    · exact iff_of_false (short _ (by simp)) (fun both => opens both.1)

end Line

namespace Simulator

def initialReports (wheel : Wheel) : List Report :=
  [Protocol.disableAutocenter wheel.protocol 0x0F, Protocol.stopForce wheel.protocol 0x0F]

/-- The initialization succeeds only if both of its reports are delivered. -/
def InitializationReported (session : Session F) : Prop :=
  (initializeWheel.run session).1 = true →
    (initializeWheel.run session).2.line.delivered =
      session.line.delivered ++ initialReports session.simulator.wheel

def InitializationServed (session : Session F) : Prop :=
  session.line.Carries ∧
    (session.line.attempt
      [Protocol.disableAutocenter session.simulator.wheel.protocol 0x0F]).2.Carries

omit [FloatArith F] in
theorem initializeWheel_run_of_absent (session : Session F)
    (absent : session.simulator.wheel.device.isPresent = false) :
    initializeWheel.run session = (false, session) := by
  unfold initializeWheel
  rw [Checked.run_of_get, if_pos (by rw [absent]; decide)]
  rfl

omit [FloatArith F] in
theorem initializeWheel_run_of_present (session : Session F)
    (present : session.simulator.wheel.device.isPresent = true) :
    (initializeWheel.run session).1 = true ∧
      (initializeWheel.run session).2.line =
        session.line.attemptAll
          [[Protocol.disableAutocenter session.simulator.wheel.protocol 0x0F],
            [Protocol.stopForce session.simulator.wheel.protocol 0x0F]] := by
  let rig : Rig := { wheel := session.simulator.wheel, line := session.line }
  have made := (Wheel.disableAutocenter_makes.dropped Wheel.stopForces_makes).line rig
  unfold initializeWheel
  rw [Checked.run_of_get, if_neg (by rw [present]; decide)]
  exact ⟨rfl, made⟩

omit [FloatArith F] in
theorem initializationReported_iff (session : Session F) :
    InitializationReported session ↔
      (session.simulator.wheel.device.isPresent = true → InitializationServed session) := by
  unfold InitializationReported
  cases present : session.simulator.wheel.device.isPresent with
  | false =>
      rw [initializeWheel_run_of_absent session present]
      simp
  | true =>
      obtain ⟨succeeded, line⟩ := initializeWheel_run_of_present session present
      rw [succeeded, line, Line.attemptAll_delivered, forall_prop_of_true rfl,
        forall_prop_of_true rfl, List.append_cancel_left_eq]
      exact Line.carriedAll_pair_iff session.line _ _

end Simulator

namespace Plugin

def UpdateServed (plugin : Plugin F) : Prop :=
  ∀ turn ∈ plugin.line.turns plugin.updateTransactions, turn.1.Serves turn.2

instance (plugin : Plugin F) : Decidable plugin.UpdateServed :=
  inferInstanceAs (Decidable (∀ turn ∈ _, _))

/-- At a frame end at this state, a failed call of the device makes `update_ffb`
fail and is logged. -/
structure FailureReported (plugin : Plugin F) : Prop where
  returned : plugin.telemetryPaused = false → ∀ result next,
    (updateFfb plugin.telemetryState).run plugin = some (result, next) →
      plugin.line.Failed next.line → result = false
  logged : ∀ next, step plugin .frameEnd = some next → plugin.line.Failed next.line →
    (.error, "fffb::error : failed updating force feedback!") ∈
      next.logged.drop plugin.logged.length

theorem failed_updated_iff (plugin : Plugin F) :
    plugin.line.Failed plugin.updated.line ↔ ¬ plugin.UpdateServed := by
  rw [updated_attempts]
  exact Line.failed_attemptAll_iff _ _

theorem failureReported_of_not_due {plugin : Plugin F} (early : ¬ plugin.UpdateDue) :
    plugin.FailureReported := by
  constructor
  · intro running result next ran failed
    cases present : plugin.simulator.wheel.device.isPresent with
    | false =>
        rw [updateFfb_run_of_absent plugin _ present] at ran
        cases ran
        rfl
    | true =>
        have waiting : plugin.ffbRateCount - 1 ≠ 0 := fun reached =>
          early ⟨running, present, reached⟩
        rw [updateFfb_run_of_waiting plugin _ present waiting] at ran
        cases ran
        exact False.elim (Line.not_failed_self plugin.line failed)
  · intro next stepped failed
    rcases frameEnd_cases stepped with ⟨_, rfl⟩ | ⟨_, rfl⟩ | ⟨due, _⟩
    · exact False.elim (Line.not_failed_self plugin.line failed)
    · exact False.elim (Line.not_failed_self plugin.line failed)
    · exact False.elim (early due)

/-- An update returns success and logs nothing, whatever its calls return. -/
theorem failureReported_of_due {plugin : Plugin F} (due : plugin.UpdateDue) :
    plugin.FailureReported ↔ plugin.UpdateServed := by
  have update := updateFfb_run_of_due plugin due
  have frame := step_frameEnd_of_due plugin due
  constructor
  · intro reported
    by_contra broken
    have impossible := reported.returned due.1 true plugin.updated update
      ((failed_updated_iff plugin).mpr broken)
    cases impossible
  · intro served
    constructor
    · intro _ result next ran failed
      rw [update] at ran
      cases ran
      exact absurd served ((failed_updated_iff plugin).mp failed)
    · intro next stepped failed
      rw [frame] at stepped
      cases stepped
      exact absurd served ((failed_updated_iff plugin).mp failed)

theorem failureReported_iff (plugin : Plugin F) :
    plugin.FailureReported ↔ (plugin.UpdateDue → plugin.UpdateServed) := by
  by_cases due : plugin.UpdateDue
  · rw [failureReported_of_due due, forall_prop_of_true due]
  · exact iff_of_true (failureReported_of_not_due due) fun reached => absurd reached due

/-- In every run, failed device calls are reported at all frame ends exactly
when none of the updates made there has one; and the initialization of the
simulator reports what it could not deliver exactly when there is nothing to
report. -/
theorem failuresReported_iff (first : Plugin F) (callbacks : List (Callback F))
    (session : Simulator.Session F) :
    ((∀ before after now, callbacks = before ++ .frameEnd :: after →
        run first before = some now → now.FailureReported) ↔
      ∀ before after now, callbacks = before ++ .frameEnd :: after →
        run first before = some now → now.UpdateDue → now.UpdateServed) ∧
    (Simulator.InitializationReported session ↔
      (session.simulator.wheel.device.isPresent = true →
        Simulator.InitializationServed session)) := by
  constructor
  · constructor
    · intro reported before after now split reached
      exact (failureReported_iff now).mp (reported before after now split reached)
    · intro served before after now split reached
      exact (failureReported_iff now).mpr (served before after now split reached)
  · exact Simulator.initializationReported_iff session

def unopenedUpdate : List (Callback ℚ) :=
  [.telemetryInit SCS_TELEMETRY_VERSION_1_01 acceptingGame, .started] ++
    List.replicate 3 .frameEnd

/-- The device cannot be opened for the play report of the first update. -/
theorem unopenedUpdate_unreported :
    ∃ now : Plugin ℚ, run (load [.g29] fun position => position != 49) unopenedUpdate = some now ∧
      ¬ now.FailureReported := by
  have fails : (run (load [.g29] fun position => position != 49) unopenedUpdate).any
      (fun now : Plugin ℚ => decide now.UpdateDue && !decide now.UpdateServed) = true := by
    decide +kernel
  obtain ⟨now, reached, holds⟩ := (Option.any_eq_true _ _).mp fails
  simp only [Bool.and_eq_true, decide_eq_true_eq, Bool.not_eq_true', decide_eq_false_iff_not]
    at holds
  refine ⟨now, reached, ?_⟩
  rw [failureReported_of_due holds.1]
  exact holds.2

end Plugin

end Fffb
