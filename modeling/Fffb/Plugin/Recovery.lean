import Fffb.Plugin.OpenLoop
import Fffb.Plugin.Outline
import Fffb.Plugin.Reachable
import Fffb.Plugin.Reporting

/-
What is left of earlier failures.

A pause and an initialization put the wheel to rest, whatever became of the
reports before, so from there on a line that works again gives a session that
follows its outline.  Between two rests nothing is made good: the first update
sends the one play report, and what plays up to the next rest is what that
report could start.
-/

namespace Fffb

open FloatArith

variable {F : Type}

namespace Callback

def Rests : Callback F → Prop
  | .telemetryInit version params => Plugin.Accepted version params
  | .paused => True
  | _ => False

end Callback

namespace Plugin

def outline (plugin : Plugin F) : Outline F :=
  { paused := plugin.telemetryPaused
    logging := plugin.gameLog
    lastTimestamp := plugin.lastTimestamp
    telemetry := plugin.telemetryState
    framesLeft := plugin.ffbRateCount.toNat
    begun := none
    leds := lastLeds plugin.line.delivered }

structure AtRest (plugin : Plugin F) : Prop where
  stopped : plugin.simulator.wheel.playing = false
  silent : Silent plugin.line.delivered
  autocenter : AutocenterOff plugin.line.delivered

variable [FloatArith F]

theorem AtRest.outlined {plugin : Plugin F} (rest : AtRest plugin) (healthy : plugin.line.Healthy)
    (kept : WellKept plugin.simulator.wheel) (counting : Counting plugin)
    (present : plugin.simulator.wheel.device.isPresent = true)
    (classic : plugin.simulator.wheel.protocol = .logitechClassic) :
    Outlined plugin plugin.outline := by
  have positive := counting.1
  constructor
  · rfl
  · rfl
  · rfl
  · rfl
  · exact (Int.toNat_of_nonneg (Int.le_of_lt positive)).symm
  · exact Int.lt_toNat.mpr positive
  · exact present
  · exact classic
  · exact tracked_of_silent healthy kept.emptyQueue rest.stopped rest.silent
  · rfl
  · exact rest.autocenter

omit [FloatArith F] in
theorem atRest_of_reset {plugin next : Plugin F} (healthy : plugin.line.Healthy)
    (emptyQueue : plugin.simulator.wheel.reports = [])
    (present : plugin.simulator.wheel.device.isPresent = true)
    (classic : plugin.simulator.wheel.protocol = .logitechClassic)
    (reset : next.rig = plugin.resetRig) :
    AtRest next ∧ lastLeds next.line.delivered = some 0 := by
  rw [resetRig_eq healthy emptyQueue present] at reset
  have wheel : next.simulator.wheel = _ := congrArg Rig.wheel reset
  have line : next.line = _ := congrArg Rig.line reset
  have delivered : next.line.delivered =
      plugin.line.delivered ++ resetReports plugin.simulator.wheel.protocol := by
    rw [line]
    unfold resetBatches
    rw [Line.sendAll_delivered, List.flatten_singleton]
  obtain ⟨dark, released⟩ := resetReports_shown classic plugin.line.delivered
  rw [← delivered] at dark released
  refine ⟨⟨?_, ?_, released⟩, dark⟩
  · rw [wheel]
  · rw [delivered, classic]
    unfold resetReports
    rw [← List.singleton_append, ← List.append_assoc]
    apply silent_append_stop
    · intro unsupported
      exact False.elim (unsupported rfl)
    · exact Report.quiet_singleton (Protocol.setLedPattern_quiet _ _)

theorem atRest_of_initialized {plugin : Plugin F} (healthy : plugin.line.Healthy)
    (present : plugin.simulator.wheel.device.isPresent = true)
    (classic : plugin.simulator.wheel.protocol = .logitechClassic)
    (texts : List (ScsLogType × String)) : AtRest (plugin.initialized.log texts) where
  stopped := rfl
  silent := by
    have silent := Wheel.calibrate_silent plugin.rig healthy
      (fun unsupported => False.elim (unsupported classic)) present
    rw [Wheel.calibrate_run plugin.rig healthy present] at silent
    exact silent
  autocenter := @Wheel.calibrated_autocenterOff plugin.rig classic healthy

theorem atRest_of_rests {plugin next : Plugin F} {callback : Callback F}
    (healthy : plugin.line.Healthy) (emptyQueue : plugin.simulator.wheel.reports = [])
    (present : plugin.simulator.wheel.device.isPresent = true)
    (classic : plugin.simulator.wheel.protocol = .logitechClassic) (rests : callback.Rests)
    (stepped : step plugin callback = some next) :
    AtRest next ∧ (callback = .paused → lastLeds next.line.delivered = some 0) := by
  cases callback with
  | telemetryInit version params =>
      obtain ⟨texts, opened⟩ := scsTelemetryInit_run_of_healthy rests plugin healthy present
      rw [step_of_telemetryInit opened] at stepped
      cases stepped
      exact ⟨atRest_of_initialized healthy present classic texts, nofun⟩
  | paused =>
      obtain ⟨_, ended⟩ := paused_cases stepped
      have reset : next.rig = plugin.resetRig := by
        rw [ended]
        rfl
      obtain ⟨rest, dark⟩ := atRest_of_reset healthy emptyQueue present classic reset
      exact ⟨rest, fun _ => dark⟩
  | telemetryShutdown => exact False.elim rests
  | frameStart info => exact False.elim rests
  | frameEnd => exact False.elim rests
  | started => exact False.elim rests
  | channel registration value => exact False.elim rests

/-- However many calls of the device failed before: from the first pause or
initialization on a line that works again, the plugin is its outline, with no
force playing at first, and after a pause with its LEDs off. -/
theorem recovers_at_rest {devices : List HidDevice} {outcome : Nat → Bool}
    {earlier : List (Callback F)} {broken rested : Plugin F} {callback : Callback F}
    (reached : run (load devices outcome) earlier = some broken) (repaired : broken.line.Healthy)
    (present : broken.simulator.wheel.device.isPresent = true)
    (classic : broken.simulator.wheel.protocol = .logitechClassic) (rests : callback.Rests)
    (stepped : step broken callback = some rested) :
    (callback = .paused → rested.outline.leds = some 0) ∧
      ∀ callbacks, Option.Rel Shows (run rested callbacks)
        (Transition.run Outline.step rested.outline callbacks) := by
  obtain ⟨kept, counting⟩ := Reachable.kept ⟨devices, outcome, earlier, reached⟩
  obtain ⟨rest, dark⟩ :=
    atRest_of_rests repaired kept.emptyQueue present classic rests stepped
  obtain ⟨device, protocol, extends_line⟩ := step_sameDevice stepped
  have outlined : Outlined rested rested.outline := by
    apply rest.outlined
    · exact extends_line.healthy repaired
    · exact kept.step stepped
    · exact counting.step stepped
    · rw [← rig_wheel, device]
      exact present
    · exact protocol.trans classic
  refine ⟨dark, fun callbacks => ?_⟩
  have follows := Transition.run_simulated
    (fun _ _ callback held => Outlined.step held callback) outlined callbacks
  exact Simulation.rel_imp follows fun _ _ held => held.shows

def unopened (position : Nat) : Bool := position != 49

/-- The wheel misses that report, and at a pause all is well again. -/
theorem recovers_at_rest_after_unopenedUpdate :
    ∃ broken rested : Plugin ℚ,
      run (load [.g29] unopened) (unopenedUpdate ++ [.frameEnd]) = some broken ∧
      broken.simulator.wheel.playing = true ∧ step broken .paused = some rested ∧
      (Callback.paused (F := ℚ) = .paused → rested.outline.leds = some 0) ∧
      ∀ callbacks, Option.Rel Shows (run rested callbacks)
        (Transition.run Outline.step rested.outline callbacks) := by
  have breaks : (run (load [.g29] unopened) (unopenedUpdate ++ [.frameEnd])).any
      (fun broken : Plugin ℚ => broken.simulator.wheel.playing &&
        broken.simulator.wheel.device.isPresent &&
        decide (broken.simulator.wheel.protocol = .logitechClassic) && broken.gameLog &&
        decide (49 < broken.line.calls.length)) = true := by
    decide +kernel
  obtain ⟨broken, reached, holds⟩ := (Option.any_eq_true _ _).mp breaks
  simp only [Bool.and_eq_true, decide_eq_true_eq] at holds
  obtain ⟨⟨⟨⟨playing, present⟩, classic⟩, logging⟩, passed⟩ := holds
  have repaired : broken.line.Healthy := by
    obtain ⟨more, line⟩ := (load_extends [.g29] unopened).trans (run_sameDevice reached).2.2
    have outcome : broken.line.outcome = unopened := congrArg Line.outcome line
    intro position later
    rw [outcome]
    unfold unopened
    exact bne_iff_ne.mpr (by omega)
  have pausing := step_paused broken logging
  exact ⟨broken, _, reached, playing, pausing,
    recovers_at_rest reached repaired present classic trivial pausing⟩

/-! ### What plays between two rests -/

def PlaysAs (there now : Plugin F) : Prop :=
  now.simulator.wheel.playing = true ∧
    ∀ slot, Slot.playing slot now.line.delivered = Slot.playing slot there.line.delivered

theorem step_playing {plugin next : Plugin F} {callback : Callback F}
    (restless : ¬ callback.Rests) (stepped : step plugin callback = some next)
    (playing : plugin.simulator.wheel.playing = true) : PlaysAs plugin next := by
  have unmoved : next.rig = plugin.rig → PlaysAs plugin next := by
    intro same
    unfold PlaysAs
    rw [← rig_wheel, ← rig_line, same]
    exact ⟨playing, fun _ => rfl⟩
  rcases step_rig stepped with ⟨_, same⟩ | ⟨version, params, rfl, _⟩ | ⟨rfl, _⟩ | ⟨_, _, rfl⟩
  · exact unmoved same
  · obtain ⟨result, initialized⟩ := step_telemetryInit stepped
    rcases telemetryInit_cases initialized with ⟨_, _, _, rfl⟩ | ⟨accepted, _⟩
    · exact unmoved rfl
    · exact False.elim (restless accepted)
  · exact False.elim (restless trivial)
  · constructor
    · rw [updated_wheel, forcesUpdated_wheel]
    · intro slot
      rw [updated_attempts, Line.attemptAll_delivered]
      apply Slot.playing_append_quiet
      intro report member
      have up : (Simulator.updateEffects plugin.telemetryState
          plugin.simulator).wheel.playing = true := playing
      have sent := Line.mem_of_mem_carriedAll member
      unfold updateTransactions at sent
      rw [Wheel.refreshBatch_of_playing up] at sent
      rcases List.mem_append.mp sent with refresh | led
      · exact Wheel.enabledReports_quiet _ Protocol.refreshForce_quiet report refresh
      · exact Report.quiet_singleton (Protocol.setLedPattern_quiet _ _) report led

omit [FloatArith F] in
theorem playing_append_carried (slot : Fin 4) (line : Line Report) (before : List Report)
    (protocol : FfbProtocol) (mask : U8) :
    Slot.playing slot (before ++ line.carried [Protocol.playForce protocol mask]) =
      (Slot.playing slot before ||
        decide (line.Carries ∧ protocol = .logitechClassic) && mask.getLsbD slot) := by
  rw [Line.carried_singleton]
  by_cases carries : line.Carries
  · rw [if_pos carries]
    by_cases classic : protocol = .logitechClassic
    · rw [decide_eq_true ⟨carries, classic⟩, Bool.true_and, classic,
        Slot.playing_append_started]
    · rw [decide_eq_false fun both => classic both.2, Bool.false_and, Bool.or_false,
        Protocol.playForce_of_unsupported classic]
      exact Slot.playing_append_quiet slot before _ (Report.quiet_singleton Report.empty_quiet)
  · rw [if_neg carries, decide_eq_false fun both => carries both.1, Bool.false_and, Bool.or_false,
      List.append_nil]

theorem updated_playing {plugin : Plugin F} (stopped : plugin.simulator.wheel.playing = false)
    (slot : Fin 4) :
    Slot.playing slot plugin.updated.line.delivered =
      (Slot.playing slot plugin.line.delivered ||
        decide (plugin.line.Carries ∧ plugin.simulator.wheel.protocol = .logitechClassic) &&
          plugin.telemetryState.playMask.getLsbD slot) := by
  let wheel := (Simulator.updateEffects plugin.telemetryState plugin.simulator).wheel
  have down : wheel.playing = false := stopped
  have plays : wheel.refreshBatch =
      [Protocol.playForce plugin.simulator.wheel.protocol plugin.telemetryState.playMask] := by
    rw [Wheel.refreshBatch_of_stopped down]
    unfold Wheel.playBatch
    rw [Simulator.updateEffects_enabledSlots]
    rfl
  rw [updated_attempts, Line.attemptAll_delivered]
  unfold updateTransactions Line.carriedAll
  rw [plays, ← List.append_assoc, Slot.playing_append_quiet, playing_append_carried]
  intro report member
  exact Report.quiet_singleton (Protocol.setLedPattern_quiet _ _) report
    (Line.mem_of_mem_carriedAll member)

/-- What plays from the first update after a rest up to the next one is what
played before and, if its play report is written, the forces that the telemetry
wanted then; a play report that is lost is not made good, though the flag is
up. -/
theorem plays_until_rest {first last : Plugin F} {callbacks : List (Callback F)}
    (due : first.UpdateDue) (stopped : first.simulator.wheel.playing = false)
    (restless : ∀ callback ∈ callbacks, ¬ callback.Rests)
    (ends : run first (.frameEnd :: callbacks) = some last) :
    last.simulator.wheel.playing = true ∧
      ∀ slot, Slot.playing slot last.line.delivered = true ↔
        Slot.playing slot first.line.delivered = true ∨
          (first.line.Carries ∧ first.simulator.wheel.protocol = .logitechClassic) ∧
            ∃ effect, first.telemetryState.wants effect = true ∧
              effect.defaultSlot.getLsbD slot = true := by
  obtain ⟨begun, stepped, continued⟩ := Transition.run_cons_cases ends
  rw [step_frameEnd_of_due first due] at stepped
  cases stepped
  have up : first.updated.simulator.wheel.playing = true := by
    rw [updated_wheel, forcesUpdated_wheel]
  have keeps : ∀ (before : Plugin F) (callback : Callback F) (after : Plugin F),
      ¬ callback.Rests → PlaysAs first.updated before → step before callback = some after →
        PlaysAs first.updated after := by
    intro before callback after restless held stepped
    obtain ⟨still, same⟩ := step_playing restless stepped held.1
    exact ⟨still, fun slot => (same slot).trans (held.2 slot)⟩
  have kept : PlaysAs first.updated last :=
    Transition.run_preserves_of_forall keeps restless ⟨up, fun _ => rfl⟩ continued
  refine ⟨kept.1, fun slot => ?_⟩
  rw [kept.2, updated_playing stopped, Bool.or_eq_true, Bool.and_eq_true, decide_eq_true_iff,
    TelemetryState.playMask_names]

/-- No force plays in the frames that follow, though the flag is up. -/
theorem plays_until_rest_after_unopenedUpdate :
    ∃ first last : Plugin ℚ, run (load [.g29] unopened) unopenedUpdate = some first ∧
      ¬ first.line.Carries ∧
      run first (.frameEnd :: List.replicate 8 .frameEnd) = some last ∧
      last.simulator.wheel.playing = true ∧
      ∀ slot, Slot.playing slot last.line.delivered = true ↔
        Slot.playing slot first.line.delivered = true ∨
          (first.line.Carries ∧ first.simulator.wheel.protocol = .logitechClassic) ∧
            ∃ effect, first.telemetryState.wants effect = true ∧
              effect.defaultSlot.getLsbD slot = true := by
  have fails : (run (load [.g29] unopened) unopenedUpdate).any
      (fun first : Plugin ℚ => decide first.UpdateDue && !first.simulator.wheel.playing &&
        !decide first.line.Carries &&
        (run first (.frameEnd :: List.replicate 8 .frameEnd)).isSome) = true := by
    decide +kernel
  obtain ⟨first, reached, holds⟩ := (Option.any_eq_true _ _).mp fails
  simp only [Bool.and_eq_true, Bool.not_eq_true', decide_eq_true_eq, decide_eq_false_iff_not]
    at holds
  obtain ⟨⟨⟨due, stopped⟩, lost⟩, survives⟩ := holds
  obtain ⟨last, ends⟩ := Option.isSome_iff_exists.mp survives
  have restless : ∀ callback ∈ List.replicate 8 (.frameEnd : Callback ℚ), ¬ callback.Rests := by
    intro callback member
    rw [List.eq_of_mem_replicate member]
    exact not_false
  exact ⟨first, last, reached, lost, ends, plays_until_rest due stopped restless ends⟩

end Plugin

end Fffb
