import Fffb.Plugin.Silence

/-
The update cycle.

The counter of `update_ffb` goes down by one with every frame that ends while
the telemetry runs, and the update that is due at zero sets it back.  So its
place in the cycle and the number of these frames always tell each other,
whatever the device answers and however the telemetry was paused in between.
-/

namespace Fffb

open FloatArith

variable {F : Type}

/-- Is this the end of a frame that is driven, and not paused? -/
def Callback.drives (paused : Bool) : Callback F → Bool
  | .frameEnd => !paused
  | _ => false

namespace Plugin

def pausedAfter (paused : Bool) (callbacks : List (Callback F)) : Bool :=
  callbacks.foldl Callback.pauses paused

def drivenFrames (paused : Bool) : List (Callback F) → Nat
  | [] => 0
  | callback :: rest =>
      (if callback.drives paused then 1 else 0) + drivenFrames (callback.pauses paused) rest

/-- The wheel is there, and so many frames have been driven that the counter
stands where it does. -/
structure InCycle (plugin : Plugin F) (driven : Nat) : Prop where
  present : plugin.simulator.wheel.device.isPresent = true
  count : plugin.ffbRateCount + (driven % 4 : Nat) = ffbRate

/-- A driven frame updates when it completes a cycle of four. -/
theorem InCycle.updateDue_iff {plugin : Plugin F} {driven : Nat} (cycle : InCycle plugin driven)
    (running : plugin.telemetryPaused = false) :
    plugin.UpdateDue ↔ (driven + 1) % 4 = 0 := by
  have count := cycle.count
  unfold ffbRate at count
  constructor
  · rintro ⟨_, _, reached⟩
    omega
  · intro completes
    exact ⟨running, cycle.present, by omega⟩

variable [FloatArith F]

theorem InCycle.step {plugin next : Plugin F} {driven : Nat} {callback : Callback F}
    (cycle : InCycle plugin driven) (inSession : callback.InSession)
    (stepped : Plugin.step plugin callback = some next) :
    InCycle next (driven + if callback.drives plugin.telemetryPaused then 1 else 0) := by
  obtain ⟨device, _, _⟩ := step_sameDevice stepped
  have present : next.simulator.wheel.device.isPresent = true := by
    rw [← rig_wheel, device]
    exact cycle.present
  refine ⟨present, ?_⟩
  have count := cycle.count
  cases callback with
  | telemetryInit version params => exact False.elim inSession
  | telemetryShutdown => exact False.elim inSession
  | frameStart info =>
      cases stepped
      exact count
  | frameEnd =>
      cases paused : plugin.telemetryPaused with
      | true =>
          rw [step_frameEnd_of_paused plugin paused] at stepped
          cases stepped
          exact count
      | false =>
          have driving : (Callback.frameEnd : Callback F).drives false = true := rfl
          rw [if_pos driving]
          by_cases due : plugin.UpdateDue
          · have completes := (cycle.updateDue_iff paused).mp due
            rw [step_frameEnd_of_due plugin due] at stepped
            cases stepped
            rw [completes]
            rfl
          · have waiting : plugin.ffbRateCount - 1 ≠ 0 :=
              fun reached => due ⟨paused, cycle.present, reached⟩
            rw [step_frameEnd_of_waiting plugin paused cycle.present waiting] at stepped
            cases stepped
            unfold ffbRate at count ⊢
            dsimp only
            omega
  | paused =>
      obtain ⟨_, rfl⟩ := paused_cases stepped
      exact count
  | started =>
      obtain ⟨_, rfl⟩ := started_cases stepped
      exact count
  | channel registration value =>
      obtain ⟨_, _, rfl⟩ := channel_cases stepped
      exact count

theorem InCycle.run {plugin last : Plugin F} {driven : Nat} {callbacks : List (Callback F)}
    (cycle : InCycle plugin driven) (inSession : ∀ callback ∈ callbacks, callback.InSession)
    (ends : Plugin.run plugin callbacks = some last) :
    InCycle last (driven + drivenFrames plugin.telemetryPaused callbacks) ∧
      last.telemetryPaused = pausedAfter plugin.telemetryPaused callbacks := by
  induction callbacks generalizing plugin driven with
  | nil =>
      cases ends
      exact ⟨cycle, rfl⟩
  | cons callback rest ih =>
      obtain ⟨next, stepped, continued⟩ := Transition.run_cons_cases ends
      have inside := inSession callback List.mem_cons_self
      have later := ih (cycle.step inside stepped)
        (fun other member => inSession other (List.mem_cons_of_mem callback member)) continued
      rw [step_telemetryPaused inside stepped, Nat.add_assoc] at later
      exact later

def Unstarted (plugin : Plugin F) : Prop :=
  plugin.telemetryPaused = true ∧ plugin.ffbRateCount = ffbRate

theorem Unstarted.step {plugin next : Plugin F} {callback : Callback F}
    (unstarted : Unstarted plugin) (notStarted : callback ≠ .started)
    (stepped : Plugin.step plugin callback = some next) : Unstarted next := by
  cases callback with
  | telemetryInit version params =>
      obtain ⟨result, initialized⟩ := step_telemetryInit stepped
      rcases telemetryInit_cases initialized with
        ⟨_, _, _, rfl⟩ | ⟨_, _, ⟨_, rfl⟩ | ⟨_, rfl⟩⟩
      · exact unstarted
      · exact unstarted
      · exact ⟨rfl, unstarted.2⟩
  | telemetryShutdown =>
      cases stepped
      exact unstarted
  | frameStart info =>
      cases stepped
      exact unstarted
  | frameEnd =>
      rw [step_frameEnd_of_paused plugin unstarted.1] at stepped
      cases stepped
      exact unstarted
  | paused =>
      obtain ⟨_, rfl⟩ := paused_cases stepped
      exact ⟨rfl, unstarted.2⟩
  | started => exact False.elim (notStarted rfl)
  | channel registration value =>
      obtain ⟨_, _, rfl⟩ := channel_cases stepped
      exact unstarted

theorem inCycle_of_initialized {devices : List HidDevice} {outcome : Nat → Bool}
    {earlier : List (Callback F)} {loaded started : Plugin F} {version : U32}
    {params : InitParams} (reached : run (load devices outcome) earlier = some loaded)
    (first : .started ∉ earlier)
    (initialized : (scsTelemetryInit version params).run loaded = some (.ok, started)) :
    InCycle started 0 ∧ started.telemetryPaused = true := by
  have unstarted : Unstarted loaded := Transition.run_preserves_of_forall
    (fun _ _ _ notStarted held stepped => Unstarted.step held notStarted stepped)
    (fun callback member same => first (same ▸ member)) ⟨rfl, rfl⟩ reached
  have stepped := step_of_telemetryInit initialized
  have present := present_of_ok initialized
  obtain ⟨device, _, _⟩ := step_sameDevice stepped
  have notStarted : (Callback.telemetryInit version params : Callback F) ≠ .started := nofun
  have opened := unstarted.step notStarted stepped
  constructor
  · constructor
    · rw [← rig_wheel, device]
      exact present
    · rw [opened.2]
      rfl
  · exact opened.1

/-- In a session every fourth driven frame makes an update and the LED report
after it, whatever the device answers; the frames between do not touch the
device, and a frame that ends while paused changes nothing at all. -/
theorem updates_every_fourth_frame {devices : List HidDevice} {outcome : Nat → Bool}
    {earlier callbacks : List (Callback F)} {loaded started : Plugin F} {version : U32}
    {params : InitParams} (reached : run (load devices outcome) earlier = some loaded)
    (first : .started ∉ earlier)
    (initialized : (scsTelemetryInit version params).run loaded = some (.ok, started))
    (inSession : ∀ callback ∈ callbacks, callback.InSession) :
    ∀ before after now, callbacks = before ++ .frameEnd :: after →
      run started before = some now →
        (pausedAfter true before = true → step now .frameEnd = some now) ∧
        (pausedAfter true before = false → (drivenFrames true before + 1) % 4 = 0 →
          step now .frameEnd = some now.updated ∧
            now.updated.line = now.line.attemptAll now.updateTransactions) ∧
        (pausedAfter true before = false → (drivenFrames true before + 1) % 4 ≠ 0 →
          ∃ next, step now .frameEnd = some next ∧ next.rig = now.rig) := by
  rintro before after now rfl ends
  obtain ⟨cycle, opened⟩ := inCycle_of_initialized reached first initialized
  obtain ⟨inCycle, flag⟩ := cycle.run
    (fun callback member => inSession callback (List.mem_append_left _ member)) ends
  rw [opened, Nat.zero_add] at inCycle
  rw [opened] at flag
  refine ⟨?_, ?_, ?_⟩
  · intro paused
    exact step_frameEnd_of_paused now (flag.trans paused)
  · intro running completes
    have due := (inCycle.updateDue_iff (flag.trans running)).mpr completes
    exact ⟨step_frameEnd_of_due now due, updated_attempts now⟩
  · intro running between
    have waiting : now.ffbRateCount - 1 ≠ 0 := by
      intro reached
      have due : now.UpdateDue := ⟨flag.trans running, inCycle.present, reached⟩
      exact between ((inCycle.updateDue_iff (flag.trans running)).mp due)
    exact ⟨_, step_frameEnd_of_waiting now (flag.trans running) inCycle.present waiting, rfl⟩

theorem updates_every_fourth_frame_in_pausedDrive :
    ∃ loaded started : Plugin ℚ,
      run (load [.g29] fun _ => true) [] = some loaded ∧
      (scsTelemetryInit SCS_TELEMETRY_VERSION_1_01 acceptingGame).run loaded =
        some (.ok, started) ∧
      ∀ before after now, pausedDrive = before ++ .frameEnd :: after →
        run started before = some now →
          (pausedAfter true before = true → step now .frameEnd = some now) ∧
          (pausedAfter true before = false → (drivenFrames true before + 1) % 4 = 0 →
            step now .frameEnd = some now.updated ∧
              now.updated.line = now.line.attemptAll now.updateTransactions) ∧
          (pausedAfter true before = false → (drivenFrames true before + 1) % 4 ≠ 0 →
            ∃ next, step now .frameEnd = some next ∧ next.rig = now.rig) := by
  obtain ⟨started, initialized⟩ := acceptingGame_opens
  have loaded : run (load [.g29] fun _ => true) [] =
      some (load [.g29] fun _ => true : Plugin ℚ) := rfl
  exact ⟨_, started, loaded, initialized,
    updates_every_fourth_frame loaded List.not_mem_nil initialized pausedDrive_inSession⟩

end Plugin

end Fffb
