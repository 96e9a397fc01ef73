import Fffb.Plugin.Silence

/-
The wheel when the telemetry shuts down.

`deinit_wheel` is empty, so a shutdown sends nothing: what played before it
plays after it.  Within a session an update starts the forces and only a pause
stops them, so it is the last of these that decides.
-/

namespace Fffb.Plugin

open FloatArith

variable {F : Type} [FloatArith F]

def Updates (plugin : Plugin F) (callback : Callback F) : Prop :=
  callback = .frameEnd ∧ plugin.UpdateDue

def PausedAfterUpdates (started : Plugin F) (callbacks : List (Callback F)) : Prop :=
  ∀ before after now, callbacks = before ++ .frameEnd :: after →
    run started before = some now → now.UpdateDue → .paused ∈ after

/-- Within a session an update raises the flag, a pause lowers it, and nothing
else touches it. -/
theorem Seated.playing_step {plugin next : Plugin F} {callback : Callback F}
    (seated : Seated plugin) (inSession : callback.InSession)
    (stepped : Plugin.step plugin callback = some next) :
    next.simulator.wheel.playing = true ↔
      plugin.Updates callback ∨ plugin.simulator.wheel.playing = true ∧ ¬ callback = .paused := by
  by_cases updates : plugin.Updates callback
  · obtain ⟨rfl, due⟩ := updates
    rw [step_frameEnd_of_due plugin due] at stepped
    cases stepped
    rw [updated_wheel, forcesUpdated_wheel]
    exact iff_of_true rfl (Or.inl ⟨rfl, due⟩)
  · rw [← rig_wheel]
    rcases step_rig stepped with ⟨notPaused, same⟩ | ⟨_, _, rfl, _⟩ | ⟨rfl, reset⟩ | ⟨rfl, due, _⟩
    · rw [same, rig_wheel]
      simp [updates, notPaused]
    · exact False.elim inSession
    · rw [reset]
      unfold resetRig
      rw [if_pos seated.present, resetByQueue_makes.wheel]
      simp [updates]
    · exact False.elim (updates ⟨rfl, due⟩)

theorem Seated.playing_run_iff {started now : Plugin F} {callbacks : List (Callback F)}
    (seated : Seated started) (stopped : started.simulator.wheel.playing = false)
    (inSession : ∀ callback ∈ callbacks, callback.InSession)
    (ends : Plugin.run started callbacks = some now) :
    now.simulator.wheel.playing = false ↔ PausedAfterUpdates started callbacks := by
  have kept : ∀ (plugin : Plugin F) (callback : Callback F) (next : Plugin F),
      callback.InSession → Seated plugin → Plugin.step plugin callback = some next →
        Seated next ∧ (next.simulator.wheel.playing = true ↔
          plugin.Updates callback ∨
            plugin.simulator.wheel.playing = true ∧ ¬ callback = .paused) :=
    fun _ _ _ inside held stepped => ⟨held.step inside stepped, held.playing_step inside stepped⟩
  have flag := Transition.run_flag_iff kept inSession seated ends
  rw [stopped] at flag
  constructor
  · intro lowered before after middle split reached due
    by_contra unpaused
    have since : ∀ later ∈ after, ¬ later = .paused := by
      rintro later member rfl
      exact unpaused member
    have raised := flag.mpr (Or.inr
      ⟨before, .frameEnd, after, middle, split, reached, ⟨rfl, due⟩, since⟩)
    rw [lowered] at raised
    cases raised
  · intro paused
    cases raised : now.simulator.wheel.playing with
    | false => rfl
    | true =>
        rcases flag.mp raised with ⟨impossible, _⟩ | raisedSince
        · cases impossible
        · obtain ⟨before, event, after, middle, split, reached, ⟨rfl, due⟩, since⟩ := raisedSince
          exact False.elim (since .paused (paused before after middle split reached due) rfl)

theorem Tracked.silent_iff {plugin : Plugin F} {note : Option (TelemetryState F)}
    (tracked : Tracked plugin note) :
    Silent plugin.line.delivered ↔
      (plugin.simulator.wheel.protocol = .logitechClassic →
        plugin.simulator.wheel.playing = false) := by
  constructor
  · intro silent classic
    rw [← tracked.flag]
    cases note with
    | none => rfl
    | some begun =>
        have damped : begun.playMask.getLsbD (2 : Fin 4) = true :=
          (TelemetryState.playMask_names begun 2).mpr ⟨.damper, rfl, by decide⟩
        have plays := tracked.slots 2
        rw [silent 2] at plays
        unfold startedMask at plays
        dsimp only at plays
        rw [if_pos classic, damped] at plays
        cases plays
  · intro stopped
    by_cases classic : plugin.simulator.wheel.protocol = .logitechClassic
    · have absent := tracked.note_of_stopped (stopped classic)
      subst absent
      exact tracked.silent_of_none
    · exact tracked.silent_of_unsupported classic

/-- When a session without failures shuts down, no slot plays exactly when the
wheel does not speak the classic protocol or a pause followed every update. -/
theorem shutdown_silent_iff {devices : List HidDevice} {earlier callbacks : List (Callback F)}
    {loaded started ended : Plugin F} {version : U32} {params : InitParams}
    (reached : run (load devices fun _ => true) earlier = some loaded)
    (initialized : (scsTelemetryInit version params).run loaded = some (.ok, started))
    (inSession : ∀ callback ∈ callbacks, callback.InSession)
    (shutDown : run started (callbacks ++ [.telemetryShutdown]) = some ended) :
    Silent ended.line.delivered ↔
      (started.simulator.wheel.protocol = .logitechClassic →
        PausedAfterUpdates started callbacks) := by
  unfold run at shutDown
  rw [Transition.run_append] at shutDown
  obtain ⟨last, session, closing⟩ := Option.bind_eq_some_iff.mp shutDown
  have unchanged : ended.line = last.line := by
    rw [Transition.run_cons, step_telemetryShutdown] at closing
    cases closing
    rfl
  obtain ⟨_, trackedLoaded⟩ := exists_tracked reached
  obtain ⟨_, tracked⟩ := exists_tracked
    (Transition.run_through reached (step_of_telemetryInit initialized) session)
  have seated := seated_of_initialized trackedLoaded.healthy initialized
  have stopped : started.simulator.wheel.playing = false := by
    obtain ⟨_, _, texts, rfl⟩ := initialized_of_ok trackedLoaded.healthy initialized
    rfl
  obtain ⟨_, protocol, _⟩ := run_sameDevice session
  rw [rig_wheel, rig_wheel] at protocol
  rw [unchanged, tracked.silent_iff, protocol, seated.playing_run_iff stopped inSession session]

def cutShort : List (Callback ℚ) :=
  .started :: List.replicate 4 .frameEnd

theorem cutShort_inSession : ∀ callback ∈ cutShort, callback.InSession := by
  intro callback member
  simp only [cutShort, List.replicate, List.mem_cons, List.not_mem_nil, or_false] at member
  rcases member with rfl | rfl | rfl | rfl | rfl
  · trivial
  · trivial
  · trivial
  · trivial
  · trivial

/-- The damper that this update started still plays. -/
theorem cutShort_still_plays :
    ∃ started ended : Plugin ℚ,
      (scsTelemetryInit SCS_TELEMETRY_VERSION_1_01 acceptingGame).run
        (load [.g29] fun _ => true) = some (.ok, started) ∧
      (∀ callback ∈ cutShort, callback.InSession) ∧
      run started (cutShort ++ [.telemetryShutdown]) = some ended ∧
      ¬ Silent ended.line.delivered := by
  have plays : ((scsTelemetryInit SCS_TELEMETRY_VERSION_1_01 acceptingGame).run
      (load [.g29] fun _ => true : Plugin ℚ)).any (fun started =>
        decide (started.1 = .ok) &&
          (run started.2 (cutShort ++ [.telemetryShutdown])).any fun ended =>
            Slot.playing 2 ended.line.delivered) = true := by
    decide +kernel
  obtain ⟨⟨result, started⟩, initialized, holds⟩ := (Option.any_eq_true _ _).mp plays
  simp only [Bool.and_eq_true, decide_eq_true_eq] at holds
  obtain ⟨rfl, later⟩ := holds
  obtain ⟨ended, shutDown, damped⟩ := (Option.any_eq_true _ _).mp later
  refine ⟨started, ended, initialized, cutShort_inSession, shutDown, ?_⟩
  intro silent
  rw [silent 2] at damped
  cases damped

theorem shutdown_silent_iff_in_cutShort :
    ∃ started ended : Plugin ℚ,
      run (load [.g29] fun _ => true) [] = some (load [.g29] fun _ => true : Plugin ℚ) ∧
      run started (cutShort ++ [.telemetryShutdown]) = some ended ∧
      (Silent ended.line.delivered ↔
        (started.simulator.wheel.protocol = .logitechClassic →
          PausedAfterUpdates started cutShort)) := by
  have loaded : run (load [.g29] fun _ => true) [] =
      some (load [.g29] fun _ => true : Plugin ℚ) := rfl
  have runs : ((scsTelemetryInit SCS_TELEMETRY_VERSION_1_01 acceptingGame).run
      (load [.g29] fun _ => true : Plugin ℚ)).any (fun started =>
        decide (started.1 = .ok) &&
          (run started.2 (cutShort ++ [.telemetryShutdown])).isSome) = true := by
    decide +kernel
  obtain ⟨⟨result, started⟩, initialized, holds⟩ := (Option.any_eq_true _ _).mp runs
  simp only [Bool.and_eq_true, decide_eq_true_eq] at holds
  obtain ⟨rfl, later⟩ := holds
  obtain ⟨ended, shutDown⟩ := Option.isSome_iff_exists.mp later
  exact ⟨started, ended, loaded, shutDown,
    shutdown_silent_iff loaded initialized cutShort_inSession shutDown⟩

end Fffb.Plugin
