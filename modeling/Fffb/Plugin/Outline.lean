import Fffb.Foundation.Simulation
import Fffb.Joy.Leds
import Fffb.Plugin.Alike
import Fffb.Plugin.Progress

/-
The plugin in outline: what it is for, without a wheel object, slots, a queue or
reports.

A session runs or is paused.  While it runs, every fourth frame lights the LEDs
by the engine and lets the forces play that the telemetry wanted when they
began; a pause and an initialization stop them.  On a line that does not fail
the plugin is its outline, and the wheel plays and shows what the outline says.
-/

namespace Fffb

open FloatArith

structure Outline (F : Type) where
  paused : Bool
  logging : Bool
  lastTimestamp : U64
  telemetry : TelemetryState F
  /-- Frames up to the next update, this one included. -/
  framesLeft : Nat
  /-- The telemetry at which the forces began, while they play. -/
  begun : Option (TelemetryState F)
  /-- The pattern last shown, if there was one. -/
  leds : Option U8

namespace Outline

variable {F : Type} [FloatArith F]

/-- The wheel has been found, and nothing has been told to it but to be still. -/
def loaded : Outline F :=
  { paused := true
    logging := false
    lastTimestamp := -1
    telemetry := .initial
    framesLeft := 4
    begun := none
    leds := none }

def opened (outline : Outline F) : Outline F :=
  { outline with
    paused := true
    logging := true
    lastTimestamp := -1
    telemetry := .zeroed
    begun := none }

def frameStart (info : FrameStart) (outline : Outline F) : Outline F :=
  let last := if outline.lastTimestamp = -1 then info.pausedSimulationTime
    else outline.lastTimestamp
  let last := if info.flags &&& SCS_TELEMETRY_FRAME_START_FLAG_timer_restart ≠ 0 then 0 else last
  { outline with
    lastTimestamp := info.pausedSimulationTime
    telemetry :=
      { outline.telemetry with
        timestamp := outline.telemetry.timestamp + (info.pausedSimulationTime - last)
        rawRenderingTimestamp := info.renderTime
        rawSimulationTimestamp := info.simulationTime
        rawPausedSimulationTimestamp := info.pausedSimulationTime } }

def frameEnd (outline : Outline F) : Outline F :=
  if outline.paused then outline
  else if outline.framesLeft = 1 then
    { outline with
      framesLeft := 4
      begun := some (outline.begun.getD outline.telemetry)
      leds := some (Plugin.ledPattern outline.telemetry.rpm) }
  else
    { outline with framesLeft := outline.framesLeft - 1 }

def step (outline : Outline F) : Callback F → Option (Outline F)
  | .telemetryInit version params =>
      some (if version ≠ SCS_TELEMETRY_VERSION_1_01 then outline
        else if Plugin.eventsRegistered params then outline.opened
        else { outline with logging := true })
  | .telemetryShutdown => some { outline with logging := false }
  | .frameStart info => some (outline.frameStart info)
  | .frameEnd => some outline.frameEnd
  | .paused =>
      if outline.logging then some { outline with paused := true, begun := none, leds := some 0 }
      else none
  | .started => if outline.logging then some { outline with paused := false } else none
  | .channel registration value =>
      (registration.invoke value outline.telemetry).map fun telemetry =>
        { outline with telemetry := telemetry }

def plays (outline : Outline F) (slot : Fin 4) : Prop :=
  ∃ begun effect, outline.begun = some begun ∧ begun.wants effect = true ∧
    effect.defaultSlot.getLsbD slot = true

end Outline

namespace Plugin

variable {F : Type} [FloatArith F]

/-- The plugin stands where the outline does, and its wheel plays and shows what
the outline says. -/
structure Shows (plugin : Plugin F) (outline : Outline F) : Prop where
  paused : plugin.telemetryPaused = outline.paused
  logging : plugin.gameLog = outline.logging
  lastTimestamp : plugin.lastTimestamp = outline.lastTimestamp
  telemetry : plugin.telemetryState = outline.telemetry
  framesLeft : plugin.ffbRateCount = outline.framesLeft
  playing : plugin.simulator.wheel.playing = outline.begun.isSome
  plays : ∀ slot, Slot.playing slot plugin.line.delivered = true ↔ outline.plays slot
  leds : lastLeds plugin.line.delivered = outline.leds
  autocenter : AutocenterOff plugin.line.delivered

/-- The outline of a plugin with a wheel, and what carries it from step to
step. -/
structure Outlined (plugin : Plugin F) (outline : Outline F) : Prop where
  paused : plugin.telemetryPaused = outline.paused
  logging : plugin.gameLog = outline.logging
  lastTimestamp : plugin.lastTimestamp = outline.lastTimestamp
  telemetry : plugin.telemetryState = outline.telemetry
  framesLeft : plugin.ffbRateCount = outline.framesLeft
  waiting : 0 < outline.framesLeft
  present : plugin.simulator.wheel.device.isPresent = true
  classic : plugin.simulator.wheel.protocol = .logitechClassic
  tracked : Tracked plugin outline.begun
  leds : lastLeds plugin.line.delivered = outline.leds
  autocenter : AutocenterOff plugin.line.delivered

variable {plugin : Plugin F} {outline : Outline F}

theorem Outlined.shows (outlined : Outlined plugin outline) : Shows plugin outline where
  paused := outlined.paused
  logging := outlined.logging
  lastTimestamp := outlined.lastTimestamp
  telemetry := outlined.telemetry
  framesLeft := outlined.framesLeft
  playing := outlined.tracked.flag.symm
  plays slot := by
    have slots := outlined.tracked.slots slot
    rw [outlined.classic] at slots
    rw [slots]
    unfold Outline.plays
    cases outline.begun with
    | none =>
        have silent : (startedMask .logitechClassic
            (none : Option (TelemetryState F))).getLsbD slot = false := BitVec.getLsbD_zero
        rw [silent]
        constructor
        · intro named
          cases named
        · rintro ⟨_, _, impossible, _⟩
          cases impossible
    | some begun =>
        have mask : startedMask .logitechClassic (some begun) = begun.playMask := rfl
        rw [mask, TelemetryState.playMask_names]
        constructor
        · rintro ⟨effect, wanted, named⟩
          exact ⟨begun, effect, rfl, wanted, named⟩
        · rintro ⟨_, effect, same, wanted, named⟩
          cases same
          exact ⟨effect, wanted, named⟩
  leds := outlined.leds
  autocenter := outlined.autocenter

/-! ### One step -/

theorem Outlined.log (outlined : Outlined plugin outline) (texts : List (ScsLogType × String)) :
    Outlined (plugin.log texts) outline where
  paused := outlined.paused
  logging := outlined.logging
  lastTimestamp := outlined.lastTimestamp
  telemetry := outlined.telemetry
  framesLeft := outlined.framesLeft
  waiting := outlined.waiting
  present := outlined.present
  classic := outlined.classic
  tracked :=
    { healthy := outlined.tracked.healthy
      emptyQueue := outlined.tracked.emptyQueue
      flag := outlined.tracked.flag
      slots := outlined.tracked.slots }
  leds := outlined.leds
  autocenter := outlined.autocenter

theorem Outlined.initialized (outlined : Outlined plugin outline) :
    Outlined plugin.initialized outline.opened := by
  have tracked := outlined.tracked
  have healthy := tracked.healthy
  have ran := Wheel.calibrate_run plugin.rig healthy outlined.present
  have calibrated : Tracked plugin.initialized
      (reviseBegun outline.begun plugin plugin.initialized) :=
    tracked.of_calibrated (congrArg Prod.snd ran).symm
  have stopped : plugin.initialized.simulator.wheel.playing = false := rfl
  rw [reviseBegun_of_stopped _ _ stopped] at calibrated
  have quiet := Wheel.calibrationBatches_isLeds outlined.classic
  constructor
  · rfl
  · rfl
  · rfl
  · rfl
  · exact outlined.framesLeft
  · exact outlined.waiting
  · exact outlined.present
  · exact outlined.classic
  · exact calibrated
  · change lastLeds (plugin.line.sendAll plugin.simulator.wheel.calibrationBatches).delivered = _
    rw [Line.sendAll_delivered, lastLeds_append_none quiet]
    exact outlined.leds
  · exact @Wheel.calibrated_autocenterOff plugin.rig outlined.classic healthy

omit [FloatArith F] in
theorem resetReports_shown {protocol : FfbProtocol} (classic : protocol = .logitechClassic)
    (before : List Report) :
    lastLeds (before ++ resetReports protocol) = some 0 ∧
      AutocenterOff (before ++ resetReports protocol) := by
  subst classic
  constructor
  · rw [lastLeds_append]
    rfl
  · apply autocenterOff_disabled
    rw [lastAutocenter_append]
    rfl

theorem Outlined.reset (outlined : Outlined plugin outline) :
    Outlined (({ plugin with telemetryPaused := true } : Plugin F).withRig plugin.resetRig)
      { outline with paused := true, begun := none, leds := some 0 } := by
  have tracked := outlined.tracked
  let next := ({ plugin with telemetryPaused := true } : Plugin F).withRig plugin.resetRig
  have rig : next.rig = plugin.resetRig := rfl
  have reset := resetRig_eq tracked.healthy tracked.emptyQueue outlined.present
  have stopped : next.simulator.wheel.playing = false := by
    rw [← rig_wheel, rig, reset]
  have silenced : Tracked next (reviseBegun outline.begun plugin next) := tracked.of_reset rig
  rw [reviseBegun_of_stopped _ _ stopped] at silenced
  have delivered : next.line.delivered =
      plugin.line.delivered ++ resetReports plugin.simulator.wheel.protocol := by
    rw [← rig_line, rig, reset]
    unfold resetBatches
    rw [Line.sendAll_delivered, List.flatten_singleton]
  obtain ⟨dark, released⟩ := resetReports_shown outlined.classic plugin.line.delivered
  constructor
  · rfl
  · exact outlined.logging
  · exact outlined.lastTimestamp
  · exact outlined.telemetry
  · exact outlined.framesLeft
  · exact outlined.waiting
  · change next.rig.wheel.device.isPresent = true
    rw [rig, reset]
    exact outlined.present
  · change next.rig.wheel.protocol = _
    rw [rig, reset]
    exact outlined.classic
  · exact silenced
  · change lastLeds next.line.delivered = _
    rw [delivered]
    exact dark
  · change AutocenterOff next.line.delivered
    rw [delivered]
    exact released

theorem ledPattern_short (rpm : F) : ledPattern rpm &&& 0b00011111 = ledPattern rpm := by
  unfold ledPattern
  split_ifs <;> rfl

theorem forces_shown (classic : plugin.simulator.wheel.protocol = .logitechClassic) :
    ∃ forces, plugin.updateBatches =
        [forces, [Protocol.setLedPattern .logitechClassic (ledPattern plugin.telemetryState.rpm)]] ∧
      ∀ report ∈ forces, report.isLeds = false ∧ report.isAutocenter = false := by
  let wheel := (Simulator.updateEffects plugin.telemetryState plugin.simulator).wheel
  have protocol : wheel.protocol = .logitechClassic := classic
  unfold updateBatches
  dsimp only
  rw [protocol]
  refine ⟨_, rfl, fun report member => ?_⟩
  split at member
  · exact ⟨Wheel.enabledReports_isLeds Protocol.refreshForce_opcode (by decide) wheel report member,
      Wheel.refreshes_isAutocenter wheel report member⟩
  · rw [List.mem_singleton.mp member]
    exact ⟨Report.isLeds_of_opcode (Protocol.playForce_opcode _) (by decide),
      Report.isAutocenter_of_opcode (Protocol.playForce_opcode _) (by decide)⟩

theorem Outlined.updated (outlined : Outlined plugin outline)
    (running : outline.paused = false) (due : outline.framesLeft = 1) :
    Outlined plugin.updated outline.frameEnd := by
  have tracked := outlined.tracked
  have felt : outline.frameEnd =
      { outline with
        framesLeft := 4
        begun := some (outline.begun.getD outline.telemetry)
        leds := some (ledPattern outline.telemetry.rpm) } := by
    unfold Outline.frameEnd
    rw [running, if_neg Bool.false_ne_true, if_pos due]
  have begun : reviseBegun outline.begun plugin plugin.updated =
      some (outline.begun.getD plugin.telemetryState) := by
    have plays : plugin.updated.simulator.wheel.playing = true := by
      rw [updated_wheel, forcesUpdated_wheel]
    unfold reviseBegun
    rw [plays, if_pos rfl, ← tracked.flag]
    cases outline.begun with
    | none => rfl
    | some telemetry => rfl
  obtain ⟨forces, batches, others⟩ := forces_shown outlined.classic
  have delivered : plugin.updated.line.delivered = plugin.line.delivered ++ forces ++
      [Protocol.setLedPattern .logitechClassic (ledPattern plugin.telemetryState.rpm)] := by
    rw [updated_line plugin tracked.healthy, batches, Line.sendAll_delivered, List.append_assoc]
    rfl
  rw [felt]
  constructor
  · exact outlined.paused
  · exact outlined.logging
  · exact outlined.lastTimestamp
  · exact outlined.telemetry
  · rfl
  · exact Nat.succ_pos 3
  · rw [updated_wheel, forcesUpdated_wheel]
    exact outlined.present
  · rw [updated_wheel, forcesUpdated_wheel]
    exact outlined.classic
  · have updated := tracked.of_updated
    rw [begun, outlined.telemetry] at updated
    exact updated
  · rw [delivered, lastLeds_append_set, ledPattern_short, outlined.telemetry]
  · rw [delivered]
    have kept := outlined.autocenter.append_none fun report member => (others report member).2
    apply kept.append_none
    intro report member
    rw [List.mem_singleton.mp member]
    exact Report.isAutocenter_of_opcode (Protocol.setLedPattern_opcode _) (by decide)

theorem Outlined.frameEnd (outlined : Outlined plugin outline) :
    ∃ next, Plugin.step plugin .frameEnd = some next ∧ Outlined next outline.frameEnd := by
  cases paused : outline.paused with
  | true =>
      have same : outline.frameEnd = outline := by
        unfold Outline.frameEnd
        rw [paused, if_pos rfl]
      rw [same]
      exact ⟨plugin, step_frameEnd_of_paused plugin (outlined.paused.trans paused), outlined⟩
  | false =>
      have running := outlined.paused.trans paused
      have count := outlined.framesLeft
      have waiting := outlined.waiting
      by_cases due : outline.framesLeft = 1
      · have reached : plugin.ffbRateCount - 1 = 0 := by omega
        exact ⟨plugin.updated, step_frameEnd_of_due plugin ⟨running, outlined.present, reached⟩,
          outlined.updated paused due⟩
      · have unreached : plugin.ffbRateCount - 1 ≠ 0 := by omega
        have counted : outline.frameEnd = { outline with framesLeft := outline.framesLeft - 1 } := by
          unfold Outline.frameEnd
          rw [paused, if_neg Bool.false_ne_true, if_neg due]
        refine ⟨_, step_frameEnd_of_waiting plugin running outlined.present unreached, ?_⟩
        rw [counted]
        constructor
        · exact running.trans paused.symm
        · exact outlined.logging
        · exact outlined.lastTimestamp
        · exact outlined.telemetry
        · change plugin.ffbRateCount - 1 = ((outline.framesLeft - 1 : Nat) : Int)
          omega
        · change 0 < outline.framesLeft - 1
          omega
        · exact outlined.present
        · exact outlined.classic
        · exact
            { healthy := outlined.tracked.healthy
              emptyQueue := outlined.tracked.emptyQueue
              flag := outlined.tracked.flag
              slots := outlined.tracked.slots }
        · exact outlined.leds
        · exact outlined.autocenter

theorem Outlined.of_same_rig {next : Plugin F} {after : Outline F}
    (outlined : Outlined plugin outline) (rig : next.rig = plugin.rig)
    (felt : after.begun = outline.begun ∧ after.leds = outline.leds ∧
      after.framesLeft = outline.framesLeft)
    (count : next.ffbRateCount = plugin.ffbRateCount) (paused : next.telemetryPaused = after.paused)
    (logging : next.gameLog = after.logging) (last : next.lastTimestamp = after.lastTimestamp)
    (telemetry : next.telemetryState = after.telemetry) : Outlined next after := by
  obtain ⟨begun, leds, framesLeft⟩ := felt
  have wheel : next.simulator.wheel = plugin.simulator.wheel := congrArg Rig.wheel rig
  have line : next.line = plugin.line := congrArg Rig.line rig
  have tracked := outlined.tracked
  constructor
  · exact paused
  · exact logging
  · exact last
  · exact telemetry
  · rw [count, outlined.framesLeft, framesLeft]
  · rw [framesLeft]
    exact outlined.waiting
  · rw [wheel]
    exact outlined.present
  · rw [wheel]
    exact outlined.classic
  · rw [begun]
    constructor
    · rw [line]
      exact tracked.healthy
    · rw [wheel]
      exact tracked.emptyQueue
    · rw [wheel]
      exact tracked.flag
    · rw [line, wheel]
      exact tracked.slots
  · rw [line, leds]
    exact outlined.leds
  · rw [line]
    exact outlined.autocenter

theorem Outlined.telemetryInit (outlined : Outlined plugin outline) (version : U32)
    (params : InitParams) :
    Option.Rel Outlined (Plugin.step plugin (.telemetryInit version params))
      (outline.step (.telemetryInit version params)) := by
  unfold Outline.step
  dsimp only
  by_cases supported : version = SCS_TELEMETRY_VERSION_1_01
  · rw [if_neg (not_not_intro supported)]
    cases registered : eventsRegistered params with
    | false =>
        obtain ⟨texts, refused⟩ := scsTelemetryInit_run_of_refused supported registered plugin
        rw [step_of_telemetryInit refused, if_neg Bool.false_ne_true]
        refine .some (Outlined.log ?_ texts)
        exact outlined.of_same_rig rfl ⟨rfl, rfl, rfl⟩ rfl outlined.paused rfl
          outlined.lastTimestamp outlined.telemetry
    | true =>
        have accepted : Accepted version params := ⟨supported, registered⟩
        obtain ⟨texts, opened⟩ :=
          scsTelemetryInit_run_of_healthy accepted plugin outlined.tracked.healthy outlined.present
        rw [step_of_telemetryInit opened, if_pos rfl]
        exact .some (outlined.initialized.log texts)
  · rw [step_of_telemetryInit (scsTelemetryInit_run_of_unsupported supported params plugin),
      if_pos supported]
    exact .some outlined

theorem Outlined.step (outlined : Outlined plugin outline) (callback : Callback F) :
    Option.Rel Outlined (Plugin.step plugin callback) (outline.step callback) := by
  cases callback with
  | telemetryInit version params => exact outlined.telemetryInit version params
  | telemetryShutdown =>
      exact .some (outlined.of_same_rig rfl ⟨rfl, rfl, rfl⟩ rfl outlined.paused rfl
        outlined.lastTimestamp outlined.telemetry)
  | frameStart info =>
      refine .some (outlined.of_same_rig rfl ⟨rfl, rfl, rfl⟩ rfl outlined.paused outlined.logging
        rfl ?_)
      change (frameStarted info plugin).telemetryState = (outline.frameStart info).telemetry
      unfold frameStarted Outline.frameStart
      rw [outlined.lastTimestamp, outlined.telemetry]
  | frameEnd =>
      obtain ⟨next, stepped, outlinedNext⟩ := outlined.frameEnd
      rw [stepped]
      exact .some outlinedNext
  | paused =>
      unfold Outline.step
      dsimp only
      cases logging : outline.logging with
      | false =>
          rw [step_paused_of_null plugin (outlined.logging.trans logging),
            if_neg Bool.false_ne_true]
          exact .none
      | true =>
          rw [step_paused plugin (outlined.logging.trans logging), if_pos rfl]
          have reset := outlined.reset.log
            [(.message, "fffb::info : telemetry paused, force feedback stopped")]
          rw [logging] at reset
          exact .some reset
  | started =>
      unfold Outline.step
      dsimp only
      cases logging : outline.logging with
      | false =>
          rw [step_started_of_null plugin (outlined.logging.trans logging),
            if_neg Bool.false_ne_true]
          exact .none
      | true =>
          rw [step_started plugin (outlined.logging.trans logging), if_pos rfl]
          refine .some (Outlined.log ?_ _)
          exact outlined.of_same_rig rfl ⟨rfl, rfl, rfl⟩ rfl rfl (outlined.logging.trans logging)
            outlined.lastTimestamp outlined.telemetry
  | channel registration value =>
      rw [step_channel]
      unfold Outline.step
      dsimp only
      rw [outlined.telemetry]
      cases registration.invoke value outline.telemetry with
      | none => exact .none
      | some telemetry =>
          exact .some (outlined.of_same_rig rfl ⟨rfl, rfl, rfl⟩ rfl outlined.paused
            outlined.logging outlined.lastTimestamp rfl)

/-! ### Whole runs -/

theorem load_released {devices : List HidDevice}
    (present : (load devices fun _ => true : Plugin F).simulator.wheel.device.isPresent = true) :
    (load devices fun _ => true : Plugin F).line.delivered =
      (Wheel.construct devices (.idle fun _ => true)).line.delivered ++
        [Protocol.disableAutocenter
            (load devices fun _ => true : Plugin F).simulator.wheel.protocol 0x0F,
          Protocol.stopForce
            (load devices fun _ => true : Plugin F).simulator.wheel.protocol 0x0F] := by
  let rig := Wheel.construct devices (.idle fun _ => true)
  have healthy : rig.line.Healthy :=
    (Wheel.construct_extends devices _).healthy Line.idle_healthy
  have held : (load devices fun _ => true : Plugin F).simulator.wheel = rig.wheel :=
    (load_wheel devices _).trans (Wheel.construct_wheel devices _).symm
  have found : rig.wheel.device.isPresent = true := by
    rw [← held]
    exact present
  rw [held, ← rig_line, load_rig]
  unfold initializedRig
  rw [if_pos found, Wheel.disableAutocenter_run rig healthy, Wheel.stopForces_run _ (healthy.send _)]
  change ((rig.line.send _).send _).delivered = _
  rw [Line.send_delivered, Line.send_delivered, List.append_assoc]
  rfl

theorem load_outlined {devices : List HidDevice}
    (present : (load devices fun _ => true : Plugin F).simulator.wheel.device.isPresent = true)
    (classic : (load devices fun _ => true : Plugin F).simulator.wheel.protocol =
      .logitechClassic) :
    Outlined (load devices fun _ => true : Plugin F) Outline.loaded := by
  have released := load_released present
  rw [classic] at released
  constructor
  · rfl
  · rfl
  · rfl
  · rfl
  · rfl
  · exact Nat.succ_pos 3
  · exact present
  · exact classic
  · exact load_tracked devices
  · rw [released, lastLeds_append, lastLeds_of_none (Wheel.construct_isLeds devices _)]
    rfl
  · rw [released]
    apply autocenterOff_disabled
    rw [lastAutocenter_append]
    rfl

/-- On a line that does not fail the plugin is its outline, from the loading on:
both stop at the same call or neither does, and what the wheel plays and shows
is what the outline says. -/
theorem outline_shown {devices : List HidDevice}
    (present : (load devices fun _ => true : Plugin F).simulator.wheel.device.isPresent = true)
    (classic : (load devices fun _ => true : Plugin F).simulator.wheel.protocol =
      .logitechClassic)
    (callbacks : List (Callback F)) :
    Option.Rel Shows (run (load devices fun _ => true) callbacks)
      (Transition.run Outline.step Outline.loaded callbacks) := by
  have outlined := Transition.run_simulated
    (fun _ _ callback held => Outlined.step held callback) (load_outlined present classic) callbacks
  exact Simulation.rel_imp outlined fun _ _ held => held.shows

theorem outline_shown_in_pausedDrive :
    Option.Rel Shows
      (run (load [.g29] fun _ => true)
        (.telemetryInit SCS_TELEMETRY_VERSION_1_01 acceptingGame :: pausedDrive))
      (Transition.run Outline.step Outline.loaded
        (.telemetryInit SCS_TELEMETRY_VERSION_1_01 acceptingGame :: pausedDrive)) :=
  outline_shown rfl rfl _

end Plugin

end Fffb
