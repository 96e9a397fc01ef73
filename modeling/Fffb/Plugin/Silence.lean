import Fffb.Plugin.Tracking

/-
A paused session is silent.

After a successful initialization the wheel is stopped, and whenever the
telemetry is paused it has been stopped since the last update.  Until the
telemetry goes on no update is made, and a repeated pause sends only what
silences the wheel once more.
-/

namespace Fffb

open FloatArith

variable {F : Type}

def Callback.InSession : Callback F → Prop
  | .telemetryInit _ _ => False
  | .telemetryShutdown => False
  | _ => True

def Callback.pauses (before : Bool) : Callback F → Bool
  | .paused => true
  | .started => false
  | _ => before

/-- The report is neither a download nor a refresh nor a play report.  Without
builders every report is the empty one. -/
def Report.Inert (protocol : FfbProtocol) (report : Report) : Prop :=
  if protocol = .logitechClassic then
    report.opcode ≠ 0x00 ∧ report.opcode ≠ 0x0C ∧ report.opcode ≠ 0x02
  else
    report = .empty

theorem Report.inert_of_opcode {report : Report} {opcode : U8} (command : report.opcode = opcode)
    (others : opcode ≠ 0x00 ∧ opcode ≠ 0x0C ∧ opcode ≠ 0x02) :
    report.Inert .logitechClassic := by
  unfold Inert
  rw [if_pos rfl, command]
  exact others

namespace Plugin

variable [FloatArith F]

theorem step_telemetryPaused {plugin next : Plugin F} {callback : Callback F}
    (inSession : callback.InSession) (stepped : step plugin callback = some next) :
    next.telemetryPaused = callback.pauses plugin.telemetryPaused := by
  cases callback with
  | telemetryInit version params => exact False.elim inSession
  | telemetryShutdown => exact False.elim inSession
  | frameStart info =>
      cases stepped
      rfl
  | frameEnd =>
      rcases frameEnd_cases stepped with ⟨_, rfl⟩ | ⟨_, rfl⟩ | ⟨_, rfl⟩
      · rfl
      · rfl
      · rfl
  | paused =>
      obtain ⟨_, rfl⟩ := paused_cases stepped
      rfl
  | started =>
      obtain ⟨_, rfl⟩ := started_cases stepped
      rfl
  | channel registration value =>
      obtain ⟨_, _, rfl⟩ := channel_cases stepped
      rfl

/-- There is a wheel, and it is stopped while the telemetry is paused. -/
structure Seated (plugin : Plugin F) : Prop where
  present : plugin.simulator.wheel.device.isPresent = true
  stopped : plugin.telemetryPaused = true → plugin.simulator.wheel.playing = false

theorem Seated.step {plugin next : Plugin F} {callback : Callback F} (seated : Seated plugin)
    (inSession : callback.InSession) (stepped : Plugin.step plugin callback = some next) :
    Seated next := by
  have paused := step_telemetryPaused inSession stepped
  obtain ⟨device, _, _⟩ := step_sameDevice stepped
  constructor
  · rw [← rig_wheel, device]
    exact seated.present
  · intro nowPaused
    rw [paused] at nowPaused
    rw [← rig_wheel]
    rcases step_rig stepped with ⟨notPaused, same⟩ | ⟨_, _, rfl, _⟩ | ⟨_, reset⟩ | ⟨rfl, due, _⟩
    · rw [same]
      cases callback with
      | paused => exact False.elim (notPaused rfl)
      | started => cases nowPaused
      | _ => exact seated.stopped nowPaused
    · exact False.elim inSession
    · rw [reset]
      unfold resetRig
      rw [if_pos seated.present, resetByQueue_makes.wheel]
    · have running : plugin.telemetryPaused = true := nowPaused
      rw [due.1] at running
      cases running

theorem seated_of_initialized {plugin next : Plugin F} {version : U32} {params : InitParams}
    (healthy : plugin.line.Healthy)
    (succeeded : (scsTelemetryInit version params).run plugin = some (.ok, next)) :
    Seated next := by
  obtain ⟨_, present, texts, rfl⟩ := initialized_of_ok healthy succeeded
  exact ⟨present, fun _ => rfl⟩

theorem Seated.run {started now : Plugin F} {callbacks : List (Callback F)}
    (seated : Seated started) (inSession : ∀ callback ∈ callbacks, callback.InSession)
    (ends : Plugin.run started callbacks = some now) : Seated now :=
  Transition.run_preserves_of_forall
    (fun _ _ _ inside held stepped => Seated.step held inside stepped) inSession seated ends

/-! ### What a paused session sends -/

/-- The reports since `base` neither load parameters nor play. -/
structure PausedSince (base plugin : Plugin F) : Prop where
  paused : plugin.telemetryPaused = true
  tracked : ∃ note, Tracked plugin note
  protocol : plugin.simulator.wheel.protocol = base.simulator.wheel.protocol
  sent : ∃ reports, plugin.line.delivered = base.line.delivered ++ reports ∧
    ∀ report ∈ reports, report.Inert base.simulator.wheel.protocol

theorem resetReports_inert {protocol : FfbProtocol} {report : Report}
    (member : report ∈ resetReports protocol) : report.Inert protocol := by
  unfold resetReports at member
  simp only [List.mem_cons, List.not_mem_nil, or_false] at member
  by_cases classic : protocol = .logitechClassic
  · subst classic
    rcases member with rfl | rfl | rfl
    · exact Report.inert_of_opcode (Protocol.disableAutocenter_opcode _) (by decide)
    · exact Report.inert_of_opcode (Protocol.stopForce_opcode _) (by decide)
    · exact Report.inert_of_opcode (Protocol.setLedPattern_opcode _) (by decide)
  · unfold Report.Inert
    rw [if_neg classic]
    rcases member with rfl | rfl | rfl
    · exact Protocol.disableAutocenter_of_unsupported classic _
    · exact Protocol.stopForce_of_unsupported classic _
    · exact Protocol.setLedPattern_of_unsupported classic _

/-- A step that pauses, or that is made while paused, sends at most a reset. -/
theorem step_inert {plugin next : Plugin F} {note : Option (TelemetryState F)}
    {callback : Callback F} (tracked : Tracked plugin note) (inSession : callback.InSession)
    (paused : callback = .paused ∨ plugin.telemetryPaused = true)
    (stepped : step plugin callback = some next) :
    ∃ reports, next.line.delivered = plugin.line.delivered ++ reports ∧
      ∀ report ∈ reports, report.Inert plugin.simulator.wheel.protocol := by
  rcases step_rig stepped with ⟨_, same⟩ | ⟨_, _, rfl, _⟩ | ⟨_, reset⟩ | ⟨rfl, due, _⟩
  · refine ⟨[], ?_, fun _ absent => by cases absent⟩
    rw [List.append_nil, ← rig_line, same]
    rfl
  · exact False.elim inSession
  · obtain ⟨sent, delivered, ends⟩ :=
      resetRig_delivered plugin tracked.healthy tracked.emptyQueue
    refine ⟨sent, ?_, ?_⟩
    · rw [← rig_line, reset, delivered]
    · rcases ends with rfl | rfl
      · exact fun _ absent => by cases absent
      · exact fun _ member => resetReports_inert member
  · rcases paused with impossible | paused
    · cases impossible
    · rw [due.1] at paused
      cases paused

theorem PausedSince.step {base plugin next : Plugin F} {callback : Callback F}
    (since : PausedSince base plugin) (inSession : callback.InSession)
    (still : callback ≠ .started) (stepped : Plugin.step plugin callback = some next) :
    PausedSince base next := by
  obtain ⟨note, tracked⟩ := since.tracked
  obtain ⟨before, delivered, inert⟩ := since.sent
  obtain ⟨after, longer, alsoInert⟩ := step_inert tracked inSession (Or.inr since.paused) stepped
  constructor
  · rw [step_telemetryPaused inSession stepped, since.paused]
    cases callback with
    | started => exact False.elim (still rfl)
    | _ => rfl
  · exact ⟨_, tracked.step stepped⟩
  · exact (step_sameDevice stepped).2.1.trans since.protocol
  · refine ⟨before ++ after, ?_, ?_⟩
    · rw [longer, delivered, List.append_assoc]
    · intro report member
      rcases List.mem_append.mp member with earlier | later
      · exact inert report earlier
      · rw [← since.protocol]
        exact alsoInert report later

theorem inert_since_pause {first last : Plugin F} {note : Option (TelemetryState F)}
    {quiet : List (Callback F)} (tracked : Tracked first note)
    (inSession : ∀ callback ∈ quiet, callback.InSession) (still : .started ∉ quiet)
    (continued : run first (.paused :: quiet) = some last) :
    ∃ reports, last.line.delivered = first.line.delivered ++ reports ∧
      ∀ report ∈ reports, report.Inert first.simulator.wheel.protocol := by
  obtain ⟨middle, pausing, continued⟩ := Transition.run_cons_cases continued
  have pausedThere : (.paused : Callback F).InSession := trivial
  have since : PausedSince first middle :=
    { paused := step_telemetryPaused pausedThere pausing
      tracked := ⟨_, tracked.step pausing⟩
      protocol := (step_sameDevice pausing).2.1
      sent := step_inert tracked pausedThere (Or.inl rfl) pausing }
  have allowed : ∀ callback ∈ quiet, callback.InSession ∧ callback ≠ .started := by
    intro callback member
    refine ⟨inSession callback member, ?_⟩
    rintro rfl
    exact still member
  have ended : PausedSince first last := Transition.run_preserves_of_forall
    (fun _ _ _ inside held stepped => held.step inside.1 inside.2 stepped) allowed since continued
  exact ended.sent

/-- In a session without failures nothing plays, no report waits and the flag
is down whenever the telemetry is paused, and between a pause and the next
start no report loads parameters or plays. -/
theorem paused_silent {devices : List HidDevice} {earlier callbacks : List (Callback F)}
    {loaded started : Plugin F} {version : U32} {params : InitParams}
    (reached : run (load devices fun _ => true) earlier = some loaded)
    (initialized : (scsTelemetryInit version params).run loaded = some (.ok, started))
    (inSession : ∀ callback ∈ callbacks, callback.InSession) :
    (∀ before after now, callbacks = before ++ after → run started before = some now →
      now.telemetryPaused = true →
        Silent now.line.delivered ∧ now.simulator.wheel.playing = false ∧
          now.simulator.wheel.reports = []) ∧
    (∀ before quiet after first last, callbacks = before ++ .paused :: quiet ++ after →
      .started ∉ quiet → run started before = some first →
        run first (.paused :: quiet) = some last →
          ∃ reports, last.line.delivered = first.line.delivered ++ reports ∧
            ∀ report ∈ reports, report.Inert first.simulator.wheel.protocol) := by
  have trackedAt : ∀ before now, run started before = some now → ∃ note, Tracked now note :=
    fun _ _ ends =>
      exists_tracked (Transition.run_through reached (step_of_telemetryInit initialized) ends)
  constructor
  · intro before after now split ends paused
    have allowed : ∀ callback ∈ before, callback.InSession := by
      intro callback member
      apply inSession callback
      rw [split]
      exact List.mem_append_left after member
    obtain ⟨note, trackedLoaded⟩ := exists_tracked reached
    have seated := (seated_of_initialized trackedLoaded.healthy initialized).run allowed ends
    obtain ⟨latest, tracked⟩ := trackedAt before now ends
    have stopped := seated.stopped paused
    have absent := tracked.note_of_stopped stopped
    subst absent
    exact ⟨tracked.silent_of_none, stopped, tracked.emptyQueue⟩
  · intro before quiet after first last split still ends continued
    have allowed : ∀ callback ∈ quiet, callback.InSession := by
      intro callback member
      apply inSession callback
      rw [split]
      exact List.mem_append_left after
        (List.mem_append_right before (List.mem_cons_of_mem _ member))
    obtain ⟨note, tracked⟩ := trackedAt before first ends
    exact inert_since_pause tracked allowed still continued

def pausedDrive : List (Callback ℚ) :=
  .started :: List.replicate 4 .frameEnd ++ [.paused, .frameEnd, .paused] ++ [.started]

theorem pausedDrive_inSession : ∀ callback ∈ pausedDrive, callback.InSession := by
  intro callback member
  simp only [pausedDrive, List.replicate, List.cons_append, List.nil_append, List.mem_cons,
    List.not_mem_nil, or_false] at member
  rcases member with rfl | rfl | rfl | rfl | rfl | rfl | rfl | rfl | rfl <;> trivial

theorem acceptingGame_opens :
    ∃ started : Plugin ℚ, (scsTelemetryInit SCS_TELEMETRY_VERSION_1_01 acceptingGame).run
      (load [.g29] fun _ => true) = some (.ok, started) := by
  have opens : ((scsTelemetryInit SCS_TELEMETRY_VERSION_1_01 acceptingGame).run
      (load [.g29] fun _ => true : Plugin ℚ)).any (fun ended => decide (ended.1 = .ok)) = true := by
    decide +kernel
  obtain ⟨⟨result, started⟩, initialized, succeeded⟩ := (Option.any_eq_true _ _).mp opens
  simp only [decide_eq_true_eq] at succeeded
  subst succeeded
  exact ⟨started, initialized⟩

theorem paused_silent_in_pausedDrive :
    ∃ loaded started : Plugin ℚ,
      run (load [.g29] fun _ => true) [] = some loaded ∧
      (scsTelemetryInit SCS_TELEMETRY_VERSION_1_01 acceptingGame).run loaded =
        some (.ok, started) ∧
      (∀ before after now, pausedDrive = before ++ after → run started before = some now →
        now.telemetryPaused = true →
          Silent now.line.delivered ∧ now.simulator.wheel.playing = false ∧
            now.simulator.wheel.reports = []) ∧
      (∀ before quiet after first last, pausedDrive = before ++ .paused :: quiet ++ after →
        .started ∉ quiet → run started before = some first →
          run first (.paused :: quiet) = some last →
            ∃ reports, last.line.delivered = first.line.delivered ++ reports ∧
              ∀ report ∈ reports, report.Inert first.simulator.wheel.protocol) := by
  obtain ⟨started, initialized⟩ := acceptingGame_opens
  have loaded : run (load [.g29] fun _ => true) [] =
      some (load [.g29] fun _ => true : Plugin ℚ) := rfl
  exact ⟨_, started, loaded, initialized,
    paused_silent loaded initialized pausedDrive_inSession⟩

end Plugin

end Fffb
