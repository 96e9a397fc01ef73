import Fffb.Foundation.Unread
import Fffb.Plugin.Alike
import Fffb.Plugin.Silence

/-
The plugin between two initializations never learns what became of its
reports.

Only the calibration reads the results of its transactions.  All other entry
points make the same transactions on every line, so what a failing wheel
receives is a part of what a working one would have received.
-/

namespace Fffb

variable {F : Type}

def Callback.Initializes : Callback F → Prop
  | .telemetryInit _ _ => True
  | _ => False

namespace Plugin

open FloatArith

def onLine (line : Line Report) (plugin : Plugin F) : Plugin F :=
  { plugin with line := line }

def resetTransactions (plugin : Plugin F) : List (List Report) :=
  if plugin.simulator.wheel.device.isPresent then
    [plugin.simulator.wheel.reports ++ resetReports plugin.simulator.wheel.protocol]
  else
    []

theorem resetRig_onLine (line : Line Report) (plugin : Plugin F) :
    (plugin.onLine line).resetRig =
      { wheel := plugin.resetRig.wheel
        line := line.attemptAll plugin.resetTransactions } := by
  have placed : (plugin.onLine line).simulator = plugin.simulator := rfl
  unfold resetRig resetTransactions
  rw [placed]
  cases plugin.simulator.wheel.device.isPresent with
  | false => rfl
  | true =>
      rw [if_pos rfl, if_pos rfl, if_pos rfl, resetByQueue_makes, resetByQueue_makes]
      rfl

variable [FloatArith F]

theorem updated_onLine (line : Line Report) (plugin : Plugin F) :
    (plugin.onLine line).updated =
      plugin.updated.onLine (line.attemptAll plugin.updateTransactions) := by
  have attempts : (plugin.onLine line).updated.line =
      line.attemptAll plugin.updateTransactions := updated_attempts (plugin.onLine line)
  have simulator : (plugin.onLine line).updated.simulator = plugin.updated.simulator := by
    rw [updated_simulator, updated_simulator]
    rfl
  calc (plugin.onLine line).updated
      = { plugin with
          simulator := (plugin.onLine line).updated.simulator
          line := (plugin.onLine line).updated.line
          ffbRateCount := ffbRate } := rfl
    _ = _ := by
      rw [attempts, simulator]
      rfl

theorem frameEnd_unread (plugin : Plugin F) :
    ∃ batches, Transition.Unread step onLine plugin .frameEnd batches := by
  rcases Bool.eq_false_or_eq_true plugin.telemetryPaused with paused | running
  · refine ⟨[], fun line => ?_⟩
    rw [step_frameEnd_of_paused plugin paused, step_frameEnd_of_paused (plugin.onLine line) paused]
    rfl
  · cases present : plugin.simulator.wheel.device.isPresent with
    | false =>
        refine ⟨[], fun line => ?_⟩
        rw [step_frameEnd_of_running plugin running (updateFfb_run_of_absent plugin _ present),
          step_frameEnd_of_running (plugin.onLine line) running
            (updateFfb_run_of_absent (plugin.onLine line) _ present)]
        cases logging : plugin.gameLog with
        | false =>
            have relogging : (plugin.onLine line).gameLog = false := logging
            rw [if_neg Bool.false_ne_true, gameLogPrint_run_of_null logging,
              gameLogPrint_run_of_null relogging]
            rfl
        | true =>
            have relogging : (plugin.onLine line).gameLog = true := logging
            rw [if_neg Bool.false_ne_true, gameLogPrint_run logging, gameLogPrint_run relogging]
            rfl
    | true =>
        by_cases reached : plugin.ffbRateCount - 1 = 0
        · refine ⟨plugin.updateTransactions, fun line => ?_⟩
          rw [step_frameEnd_of_due plugin ⟨running, present, reached⟩,
            step_frameEnd_of_due (plugin.onLine line) ⟨running, present, reached⟩,
            updated_onLine]
          rfl
        · refine ⟨[], fun line => ?_⟩
          rw [step_frameEnd_of_waiting plugin running present reached,
            step_frameEnd_of_waiting (plugin.onLine line) running present reached]
          rfl

theorem paused_unread (plugin : Plugin F) :
    ∃ batches, Transition.Unread step onLine plugin .paused batches := by
  refine ⟨plugin.resetTransactions, fun line => ?_⟩
  cases logging : plugin.gameLog with
  | false =>
      rw [step_paused_of_null plugin logging, step_paused_of_null (plugin.onLine line) logging]
      rfl
  | true =>
      rw [step_paused plugin logging, step_paused (plugin.onLine line) logging, resetRig_onLine]
      rfl

theorem started_unread (plugin : Plugin F) :
    ∃ batches, Transition.Unread step onLine plugin .started batches := by
  refine ⟨[], fun line => ?_⟩
  cases logging : plugin.gameLog with
  | false =>
      rw [step_started_of_null plugin logging, step_started_of_null (plugin.onLine line) logging]
      rfl
  | true =>
      rw [step_started plugin logging, step_started (plugin.onLine line) logging]
      rfl

/-- Outside an initialization no step depends on the line or on what it
answers. -/
theorem step_unread (plugin : Plugin F) {callback : Callback F}
    (other : ¬ callback.Initializes) :
    ∃ batches, Transition.Unread step onLine plugin callback batches := by
  cases callback with
  | telemetryInit version params => exact False.elim (other trivial)
  | telemetryShutdown => exact ⟨[], fun _ => rfl⟩
  | frameStart info => exact ⟨[], fun _ => rfl⟩
  | frameEnd => exact frameEnd_unread plugin
  | paused => exact paused_unread plugin
  | started => exact started_unread plugin
  | channel registration value =>
      refine ⟨[], fun line => ?_⟩
      rw [step_channel, step_channel, Option.map_map]
      rfl

/-- Until the next initialization the plugin runs on every line as it runs on
any other, and it makes one list of transactions on all of them: what a line
delivers is a part of their reports, and all of them if nothing fails. -/
theorem run_on_every_line (plugin : Plugin F) {callbacks : List (Callback F)}
    (uninterrupted : ∀ callback ∈ callbacks, ¬ callback.Initializes) :
    ∃ batches : List (List Report), ∀ line : Line Report,
      run (plugin.onLine line) callbacks =
          (run plugin callbacks).map (onLine (line.attemptAll batches)) ∧
        ∃ received, (line.attemptAll batches).delivered = line.delivered ++ received ∧
          received.Sublist batches.flatten ∧ (line.Healthy → received = batches.flatten) := by
  obtain ⟨batches, ran⟩ :=
    Transition.run_unread (fun state _ other => step_unread state other) uninterrupted plugin
  refine ⟨batches, fun line => ⟨ran line, ?_⟩⟩
  refine ⟨line.carriedAll batches, Line.attemptAll_delivered _ _,
    Line.carriedAll_sublist _ _, fun healthy => ?_⟩
  have sent := Line.attemptAll_delivered batches line
  rw [healthy.attemptAll, Line.sendAll_delivered] at sent
  exact (List.append_cancel_left sent).symm

theorem pausedDrive_uninterrupted : ∀ callback ∈ pausedDrive, ¬ callback.Initializes := by
  intro callback member initializes
  have inSession := pausedDrive_inSession callback member
  cases callback with
  | telemetryInit version params => exact inSession
  | _ => exact initializes

theorem run_on_every_line_in_pausedDrive :
    ∃ started : Plugin ℚ,
      (scsTelemetryInit SCS_TELEMETRY_VERSION_1_01 acceptingGame).run
        (load [.g29] fun _ => true) = some (.ok, started) ∧
      ∃ batches : List (List Report), ∀ line : Line Report,
        run (started.onLine line) pausedDrive =
            (run started pausedDrive).map (onLine (line.attemptAll batches)) ∧
          ∃ received, (line.attemptAll batches).delivered = line.delivered ++ received ∧
            received.Sublist batches.flatten ∧ (line.Healthy → received = batches.flatten) := by
  obtain ⟨started, initialized⟩ := acceptingGame_opens
  exact ⟨started, initialized, run_on_every_line started pausedDrive_uninterrupted⟩

end Plugin

end Fffb
