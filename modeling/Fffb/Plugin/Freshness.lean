import Fffb.Joy.WheelLoads
import Fffb.Plugin.Tracking

/-
What the effects were last loaded with when `update_forces` plays them.

An update that plays sends no load before it.  Every update enables the damper,
and nothing before the first update of a run loads it.
-/

namespace Fffb.Plugin

open FloatArith

variable {F : Type} [FloatArith F]

/-- Every play report that `update_forces` sends at this state finds the
enabled effects loaded with the parameters that they have then. -/
def PlaysFresh (plugin : Plugin F) : Prop :=
  ∀ before play after,
    plugin.forcesUpdated.line.delivered = plugin.line.delivered ++ before ++ play :: after →
      play.isPlay = true →
        Fresh plugin.forcesUpdated.simulator.wheel (plugin.line.delivered ++ before)

def NothingStale (devices : List HidDevice) (callbacks : List (Callback F)) : Prop :=
  ∀ earlier later plugin, callbacks = earlier ++ .frameEnd :: later →
    run (load devices fun _ => true) earlier = some plugin →
      plugin.UpdateDue → plugin.PlaysFresh

structure Untouched (rig : Rig) : Prop where
  healthy : rig.line.Healthy
  emptyQueue : rig.wheel.reports = []
  stopped : rig.wheel.playing = false
  undamped : rig.wheel.enabled .damper = false
  unloaded : Unloaded .damper rig.line.delivered

theorem Untouched.calibrate {rig : Rig} (untouched : Untouched rig) :
    Untouched (Wheel.calibrate.run rig).2 := by
  cases present : rig.wheel.device.isPresent with
  | false =>
      rw [Wheel.calibrate_run_of_absent rig present]
      exact untouched
  | true =>
      rw [Wheel.calibrate_run rig untouched.healthy present]
      constructor
      · exact untouched.healthy.sendAll _
      · exact untouched.emptyQueue
      · rfl
      · exact untouched.undamped
      · rw [Line.sendAll_delivered]
        exact untouched.unloaded.append
          (Wheel.calibrationBatches_unloaded_damper untouched.undamped)

omit [FloatArith F] in
theorem Untouched.reset {plugin : Plugin F} (untouched : Untouched plugin.rig) :
    Untouched plugin.resetRig := by
  unfold resetRig
  split
  · rw [resetByQueue_sent plugin.rig untouched.healthy]
    constructor
    · exact untouched.healthy.send _
    · rfl
    · rfl
    · exact untouched.undamped
    · rw [Line.send_delivered, untouched.emptyQueue]
      apply untouched.unloaded.append
      intro report member
      exact Report.loadsEffect_of_notLoad (resetReports_isLoad member) _
  · exact untouched

theorem load_untouched (devices : List HidDevice) :
    Untouched (load devices fun _ => true : Plugin F).rig := by
  obtain ⟨device, protocol, folded, _⟩ := Wheel.foldl_consider devices Wheel.initial
  have wheel : (load devices fun _ => true : Plugin F).rig.wheel = _ :=
    (load_wheel devices fun _ => true).trans folded
  constructor
  · exact (load_extends devices _).healthy Line.idle_healthy
  · rw [wheel]
    rfl
  · rw [wheel]
    rfl
  · rw [wheel]
    rfl
  · have constructed := Wheel.construct_unloaded devices (fun _ => true) .damper
    obtain ⟨sent, delivered, rfl | ⟨protocol, rfl⟩⟩ := load_delivered (F := F) devices
    · rw [rig_line, delivered, List.append_nil]
      exact constructed
    · rw [rig_line, delivered]
      apply constructed.append
      intro report member
      simp only [List.mem_cons, List.not_mem_nil, or_false] at member
      rcases member with rfl | rfl
      · exact Report.loadsEffect_of_notLoad (Protocol.disableAutocenter_isLoad _ _) _
      · exact Report.loadsEffect_of_notLoad (Protocol.stopForce_isLoad _ _) _

theorem Untouched.step {plugin next : Plugin F} {callback : Callback F}
    (untouched : Untouched plugin.rig) (stepped : Plugin.step plugin callback = some next) :
    Untouched next.rig ∨ callback = .frameEnd ∧ plugin.UpdateDue := by
  rcases step_rig stepped with ⟨_, same⟩ | ⟨_, _, _, calibrated⟩ | ⟨_, reset⟩ | ⟨ended, due, _⟩
  · rw [same]
    exact Or.inl untouched
  · rw [calibrated]
    exact Or.inl untouched.calibrate
  · rw [reset]
    exact Or.inl untouched.reset
  · exact Or.inr ⟨ended, due⟩

/-- The first update plays the damper, which nothing has loaded. -/
theorem Untouched.plays_stale {plugin : Plugin F} (untouched : Untouched plugin.rig)
    (classic : plugin.simulator.wheel.protocol = .logitechClassic) : ¬ plugin.PlaysFresh := by
  intro fresh
  have after := forcesUpdated_rig_of_stopped plugin untouched.healthy untouched.stopped
  have line : plugin.forcesUpdated.line = _ := congrArg Rig.line after
  have wheel : plugin.forcesUpdated.simulator.wheel = _ := congrArg Rig.wheel after
  have sent : plugin.forcesUpdated.line.delivered = plugin.line.delivered ++ [] ++
      Protocol.playForce .logitechClassic plugin.telemetryState.playMask :: [] := by
    rw [line, Line.send_delivered, classic, List.append_nil]
  have played := fresh [] _ [] sent (Protocol.playForce_isPlay _)
  have damped : plugin.forcesUpdated.simulator.wheel.enabled .damper = true := by
    rw [wheel]
    exact Simulator.updateEffects_enabled plugin.telemetryState plugin.simulator .damper
  obtain ⟨load, last, _⟩ := played .damper damped
  have never : lastLoad .damper plugin.line.delivered = none := untouched.unloaded.lastLoad
  rw [List.append_nil, never] at last
  cases last

theorem playsFresh_of_unsupported {plugin : Plugin F} (healthy : plugin.line.Healthy)
    (unsupported : plugin.simulator.wheel.protocol ≠ .logitechClassic) : plugin.PlaysFresh := by
  have quiet : ∃ sent, plugin.forcesUpdated.line.delivered = plugin.line.delivered ++ sent ∧
      ∀ report ∈ sent, report.Quiet := by
    cases playing : plugin.simulator.wheel.playing with
    | false =>
        have after := forcesUpdated_rig_of_stopped plugin healthy playing
        have line : plugin.forcesUpdated.line = _ := congrArg Rig.line after
        refine ⟨_, (congrArg Line.delivered line).trans (Line.send_delivered _ _), ?_⟩
        rw [Protocol.playForce_of_unsupported unsupported]
        exact Report.quiet_singleton Report.empty_quiet
    | true =>
        have after := forcesUpdated_rig_of_playing plugin healthy playing
        have line : plugin.forcesUpdated.line = _ := congrArg Rig.line after
        refine ⟨_, (congrArg Line.delivered line).trans (Line.send_delivered _ _), ?_⟩
        exact Wheel.enabledReports_quiet _ Protocol.refreshForce_quiet
  obtain ⟨sent, delivered, silent⟩ := quiet
  intro before play after split plays
  rw [delivered, List.append_assoc] at split
  have member : play ∈ sent := by
    rw [List.append_cancel_left split]
    exact List.mem_append_right before List.mem_cons_self
  rw [(silent play member).1] at plays
  cases plays

/-- A run without failures plays nothing stale exactly when it makes no update
on a wheel of the classic protocol: its first one would be stale. -/
theorem nothingStale_iff (devices : List HidDevice) (callbacks : List (Callback F)) :
    NothingStale devices callbacks ↔
      ∀ earlier later plugin, callbacks = earlier ++ .frameEnd :: later →
        run (load devices fun _ => true) earlier = some plugin →
          plugin.UpdateDue → plugin.simulator.wheel.protocol ≠ .logitechClassic := by
  constructor
  · intro fresh earlier later plugin split reached due classic
    have untilUpdate : ∀ (before : Plugin F) (callback : Callback F) (after : Plugin F),
        Untouched before.rig → Plugin.step before callback = some after →
          Untouched after.rig ∨ callback = .frameEnd ∧ before.UpdateDue :=
      fun _ _ _ untouched stepped => untouched.step stepped
    have loaded : Untouched (load devices fun _ => true : Plugin F).rig := load_untouched devices
    rcases Transition.run_preserves_or_breaks untilUpdate loaded reached with
      untouched | ⟨before, callback, after, first, split', begun, untouched, rfl, firstDue⟩
    · exact untouched.plays_stale classic (fresh earlier later plugin split reached due)
    · have sameProtocol : first.simulator.wheel.protocol = plugin.simulator.wheel.protocol :=
        (run_sameDevice begun).2.1.trans (run_sameDevice reached).2.1.symm
      have whole : callbacks = before ++ .frameEnd :: (after ++ .frameEnd :: later) := by
        rw [split, split', List.append_assoc, List.cons_append]
      exact untouched.plays_stale (sameProtocol.trans classic)
        (fresh before _ first whole begun firstDue)
  · intro unsupported earlier later plugin split reached due
    obtain ⟨note, tracked⟩ := exists_tracked reached
    exact playsFresh_of_unsupported tracked.healthy
      (unsupported earlier later plugin split reached due)

def firstUpdate : List (Callback ℚ) :=
  [.telemetryInit SCS_TELEMETRY_VERSION_1_01 acceptingGame, .started] ++
    List.replicate 4 .frameEnd

theorem firstUpdate_plays_stale : ¬ NothingStale [.g29] firstUpdate := by
  let earlier : List (Callback ℚ) :=
    [.telemetryInit SCS_TELEMETRY_VERSION_1_01 acceptingGame, .started] ++
      List.replicate 3 .frameEnd
  have played : (run (load [.g29] fun _ => true) earlier).any (fun plugin =>
      decide plugin.UpdateDue &&
        (decide (plugin.forcesUpdated.line.delivered = plugin.line.delivered ++ [] ++
            Protocol.playForce .logitechClassic FFFB_FORCE_SLOT_DAMPER :: []) &&
          (plugin.forcesUpdated.simulator.wheel.enabled .damper &&
            (lastLoad .damper plugin.line.delivered).isNone))) = true := by
    decide +kernel
  obtain ⟨plugin, reached, holds⟩ := (Option.any_eq_true _ _).mp played
  simp only [Bool.and_eq_true, decide_eq_true_eq, Option.isNone_iff_eq_none] at holds
  obtain ⟨due, sent, damped, never⟩ := holds
  intro fresh
  have plays := fresh earlier [] plugin rfl reached due [] _ [] sent (Protocol.playForce_isPlay _)
  obtain ⟨load, last, _⟩ := plays .damper damped
  rw [List.append_nil, never] at last
  cases last

end Fffb.Plugin
