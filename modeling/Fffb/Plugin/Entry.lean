import Fffb.Force.Updates
import Fffb.Plugin.Callbacks

/-
What the entry points of the plugin do, whatever the device answers.

The wheel object and its line are one part of the plugin, its rig; the rest of
the plugin changes only as the entry points say.
-/

namespace Fffb.Plugin

variable {F : Type}

def rig (plugin : Plugin F) : Rig :=
  { wheel := plugin.simulator.wheel
    line := plugin.line }

def withRig (rig : Rig) (plugin : Plugin F) : Plugin F :=
  { plugin with
    simulator := { plugin.simulator with wheel := rig.wheel }
    line := rig.line }

def log (texts : List (ScsLogType × String)) (plugin : Plugin F) : Plugin F :=
  { plugin with logged := plugin.logged ++ texts }

theorem rig_wheel (plugin : Plugin F) : plugin.rig.wheel = plugin.simulator.wheel := rfl

theorem rig_line (plugin : Plugin F) : plugin.rig.line = plugin.line := rfl

theorem log_nil (plugin : Plugin F) : plugin.log [] = plugin := by
  unfold log
  rw [List.append_nil]

theorem log_log (first second : List (ScsLogType × String)) (plugin : Plugin F) :
    (plugin.log first).log second = plugin.log (first ++ second) := by
  unfold log
  rw [List.append_assoc]

theorem log_withRig (texts : List (ScsLogType × String)) (rig : Rig) (plugin : Plugin F) :
    (plugin.log texts).withRig rig = (plugin.withRig rig).log texts := rfl

theorem run_bind_of_some {α β : Type} {first : PluginM F α} {rest : α → PluginM F β}
    {plugin next : Plugin F} {value : α} (ends : first.run plugin = some (value, next)) :
    (first >>= rest).run plugin = (rest value).run next := by
  rw [StateT.run_bind, ends]
  rfl

theorem gameLogPrint_run {plugin : Plugin F} (logging : plugin.gameLog = true)
    (type : ScsLogType) (text : String) :
    (gameLogPrint type text).run plugin = some ((), plugin.log [(type, text)]) :=
  if_pos logging

theorem gameLogPrint_run_of_null {plugin : Plugin F} (silent : plugin.gameLog = false)
    (type : ScsLogType) (text : String) :
    (gameLogPrint type text).run plugin = none := by
  apply if_neg
  rw [silent]
  exact Bool.false_ne_true

theorem onWheel_run {α : Type} (operation : WheelM α) (plugin : Plugin F) :
    (onWheel operation).run plugin =
      some ((operation.run plugin.rig).1, plugin.withRig (operation.run plugin.rig).2) := rfl

/-- A helper that, while there is a log, writes to it and does nothing else. -/
def OnlyLogs (helper : PluginM F Unit) : Prop :=
  ∀ plugin, plugin.gameLog = true → ∃ texts, helper.run plugin = some ((), plugin.log texts)

theorem gameLogPrint_onlyLogs (type : ScsLogType) (text : String) :
    OnlyLogs (gameLogPrint type text : PluginM F Unit) :=
  fun _ logging => ⟨_, gameLogPrint_run logging type text⟩

theorem return_onlyLogs : OnlyLogs (return () : PluginM F Unit) := by
  intro plugin _
  refine ⟨[], ?_⟩
  rw [log_nil]
  rfl

theorem OnlyLogs.seq {first second : PluginM F Unit} (one : OnlyLogs first)
    (two : OnlyLogs second) :
    OnlyLogs (do
      first
      second) := by
  intro plugin logging
  obtain ⟨before, firstRun⟩ := one plugin logging
  obtain ⟨after, secondRun⟩ := two (plugin.log before) logging
  refine ⟨before ++ after, ?_⟩
  rw [run_bind_of_some firstRun, secondRun, log_log]

theorem OnlyLogs.branch {condition : Prop} [Decidable condition] {first second : PluginM F Unit}
    (one : OnlyLogs first) (two : OnlyLogs second) :
    OnlyLogs (if condition then first else second) := by
  split
  · exact one
  · exact two

theorem checkGameVersion_onlyLogs (gameVersion minVersion impldVersion : U32) :
    OnlyLogs (checkGameVersion gameVersion minVersion impldVersion : PluginM F Unit) := by
  have tooNew : OnlyLogs (if scsGetMajorVersion gameVersion > scsGetMajorVersion impldVersion then
      gameLogPrint .warning "fffb::warning : game major version too new, some stuff might be broken"
      else return () : PluginM F Unit) :=
    (gameLogPrint_onlyLogs _ _).branch return_onlyLogs
  unfold checkGameVersion
  exact OnlyLogs.branch ((gameLogPrint_onlyLogs _ _).seq tooNew) tooNew

theorem checkVersions_onlyLogs (params : InitParams) :
    OnlyLogs (checkVersions params : PluginM F Unit) :=
  (checkGameVersion_onlyLogs _ _ _).branch
    ((checkGameVersion_onlyLogs _ _ _).branch (gameLogPrint_onlyLogs _ _))

/-! ### Initialization -/

theorem initWheel_run (plugin : Plugin F) (logging : plugin.gameLog = true) :
    ∃ texts, initWheel.run plugin =
      some ((Wheel.calibrate.run plugin.rig).1,
        (plugin.withRig (Wheel.calibrate.run plugin.rig).2).log texts) := by
  unfold initWheel
  rw [run_bind_of_some (onWheel_run Wheel.calibrate plugin)]
  cases (Wheel.calibrate.run plugin.rig).1 with
  | false =>
      rw [if_pos (by decide), run_bind_of_some (gameLogPrint_run (by exact logging) _ _)]
      exact ⟨_, rfl⟩
  | true =>
      rw [if_neg (by decide), run_bind_of_some (gameLogPrint_run (by exact logging) _ _)]
      exact ⟨_, rfl⟩

def resetByQueue : WheelM Bool := do
  Wheel.qDisableAutocenter
  Wheel.qStopForces
  Wheel.qSetLedPattern 0
  Wheel.flushReports

def resetReports (protocol : FfbProtocol) : List Report :=
  [Protocol.disableAutocenter protocol 0x0F, Protocol.stopForce protocol 0x0F,
    Protocol.setLedPattern protocol 0]

/-- Whatever the device answers, the reset leaves the object stopped and its
queue empty. -/
theorem resetByQueue_makes :
    Wheel.Makes resetByQueue (fun wheel => { wheel with playing := false, reports := [] })
      fun wheel => [wheel.reports ++ resetReports wheel.protocol] := by
  have freed : Wheel.Makes Wheel.qDisableAutocenter (fun wheel =>
      { wheel with
        reports := wheel.reports ++ [Protocol.disableAutocenter wheel.protocol 0x0F] })
      fun _ => [] :=
    fun rig => Wheel.enqueue_makes _ rig
  have stopped : Wheel.Makes Wheel.qStopForces (fun wheel =>
      { wheel with
        playing := false
        reports := wheel.reports ++ [Protocol.stopForce wheel.protocol 0x0F] }) fun _ => [] :=
    fun rig => Wheel.enqueue_makes _ { rig with wheel := { rig.wheel with playing := false } }
  have unlit : Wheel.Makes (Wheel.qSetLedPattern 0) (fun wheel =>
      { wheel with reports := wheel.reports ++ [Protocol.setLedPattern wheel.protocol 0] })
      fun _ => [] :=
    fun rig => Wheel.enqueue_makes _ rig
  have made := freed.dropped (stopped.dropped (unlit.dropped Wheel.flushReports_makes))
  intro rig
  have queue : rig.wheel.reports ++ [Protocol.disableAutocenter rig.wheel.protocol 0x0F] ++
      [Protocol.stopForce rig.wheel.protocol 0x0F] ++
        [Protocol.setLedPattern rig.wheel.protocol 0] =
      rig.wheel.reports ++ resetReports rig.wheel.protocol := by
    rw [List.append_assoc, List.append_assoc]
    rfl
  dsimp only
  rw [← queue]
  exact made rig

theorem resetWheel_run_of_present (plugin : Plugin F)
    (present : plugin.simulator.wheel.device.isPresent = true) :
    resetWheel.run plugin = some ((resetByQueue.run plugin.rig).1,
      plugin.withRig (resetByQueue.run plugin.rig).2) := by
  have current : (get : PluginM F (Plugin F)).run plugin = some (plugin, plugin) := rfl
  unfold resetWheel
  rw [run_bind_of_some current, if_pos present]
  rfl

theorem resetWheel_run_of_absent (plugin : Plugin F)
    (absent : plugin.simulator.wheel.device.isPresent = false) :
    resetWheel.run plugin = some (true, plugin) := by
  have current : (get : PluginM F (Plugin F)).run plugin = some (plugin, plugin) := rfl
  unfold resetWheel
  rw [run_bind_of_some current, absent, if_neg Bool.false_ne_true]
  rfl

variable [FloatArith F]

/-- The plugin's globals as a successful initialization leaves them. -/
def opened (plugin : Plugin F) : Plugin F :=
  { plugin with
    telemetryState := .zeroed
    lastTimestamp := -1
    telemetryPaused := true }

/-- The game accepts the plugin: it speaks the version and takes the event
callbacks. -/
def Accepted (version : U32) (params : InitParams) : Prop :=
  version = SCS_TELEMETRY_VERSION_1_01 ∧ eventsRegistered params = true

def acceptingGame : InitParams :=
  { gameId := SCS_GAME_ID_EUT2
    gameVersion := SCS_TELEMETRY_EUT2_GAME_VERSION_CURRENT
    registerForEvent := fun _ => true }

theorem scsTelemetryInit_run_of_unsupported {version : U32}
    (unsupported : version ≠ SCS_TELEMETRY_VERSION_1_01) (params : InitParams)
    (plugin : Plugin F) :
    (scsTelemetryInit version params).run plugin = some (.unsupported, plugin) := by
  unfold scsTelemetryInit
  rw [if_pos unsupported]
  rfl

theorem scsTelemetryInit_run_registering {version : U32}
    (supported : version = SCS_TELEMETRY_VERSION_1_01) (params : InitParams)
    (plugin : Plugin F) :
    ∃ texts, (scsTelemetryInit version params).run plugin =
      (do
        if !eventsRegistered params then
          gameLogPrint .error "fffb::error : failed to register event callbacks!"
          return .genericError
        gameLogPrint .message "fffb::info : event registration successful"
        gameLogPrint .message "fffb::info : registering to channels..."
        gameLogPrint .message "fffb::info : channel registration completed"
        gameLogPrint .message "fffb::info : initializing wheel..."
        if !(← initWheel) then
          gameLogPrint .error "fffb::error : failed to initialize wheel!"
          return .genericError
        gameLogPrint .message "fffb::info : wheel initialization successful"
        modify opened
        gameLogPrint .message "fffb::info : successfully initialized"
        return .ok : PluginM F ScsResult).run
          (({ plugin with gameLog := true } : Plugin F).log texts) := by
  let logging : Plugin F := { plugin with gameLog := true }
  have set : (modify fun plugin : Plugin F => { plugin with gameLog := true } :
      PluginM F Unit).run plugin = some ((), logging) := rfl
  obtain ⟨checks, checked⟩ := checkVersions_onlyLogs params
    (logging.log [(.message, "fffb::info : version 0.1.2 starting initialization...")]) rfl
  unfold scsTelemetryInit
  rw [if_neg (not_not_intro supported), run_bind_of_some set,
    run_bind_of_some (gameLogPrint_run rfl _ _), run_bind_of_some checked,
    run_bind_of_some (gameLogPrint_run rfl _ _), run_bind_of_some (gameLogPrint_run rfl _ _),
    log_log, log_log, log_log]
  exact ⟨_, rfl⟩

theorem scsTelemetryInit_run_of_refused {version : U32} {params : InitParams}
    (supported : version = SCS_TELEMETRY_VERSION_1_01)
    (refused : eventsRegistered params = false) (plugin : Plugin F) :
    ∃ texts, (scsTelemetryInit version params).run plugin =
      some (.genericError, ({ plugin with gameLog := true } : Plugin F).log texts) := by
  obtain ⟨texts, registering⟩ := scsTelemetryInit_run_registering supported params plugin
  rw [registering, refused, if_pos (by decide), run_bind_of_some (gameLogPrint_run rfl _ _),
    log_log]
  exact ⟨_, rfl⟩

/-- With the events registered the wheel is calibrated, and the result of that
decides. -/
theorem scsTelemetryInit_run_calibrating {version : U32} {params : InitParams}
    (accepted : Accepted version params) (plugin : Plugin F) :
    ∃ texts, (scsTelemetryInit version params).run plugin =
      (do
        if !(Wheel.calibrate.run plugin.rig).1 then
          gameLogPrint .error "fffb::error : failed to initialize wheel!"
          return .genericError
        gameLogPrint .message "fffb::info : wheel initialization successful"
        modify opened
        gameLogPrint .message "fffb::info : successfully initialized"
        return .ok : PluginM F ScsResult).run
          ((({ plugin with gameLog := true } : Plugin F).withRig
            (Wheel.calibrate.run plugin.rig).2).log texts) := by
  obtain ⟨supported, registered⟩ := accepted
  obtain ⟨before, registering⟩ := scsTelemetryInit_run_registering supported params plugin
  let entered : Plugin F := ({ plugin with gameLog := true } : Plugin F).log
    (before ++ ([(.message, "fffb::info : event registration successful")] ++
      ([(.message, "fffb::info : registering to channels...")] ++
      ([(.message, "fffb::info : channel registration completed")] ++
      [(.message, "fffb::info : initializing wheel...")]))))
  obtain ⟨after, initialized⟩ := initWheel_run entered rfl
  have sameRig : entered.rig = plugin.rig := rfl
  rw [sameRig] at initialized
  rw [registering, registered, if_neg (by decide), run_bind_of_some (gameLogPrint_run rfl _ _),
    run_bind_of_some (gameLogPrint_run rfl _ _), run_bind_of_some (gameLogPrint_run rfl _ _),
    run_bind_of_some (gameLogPrint_run rfl _ _), log_log, log_log, log_log, log_log,
    run_bind_of_some initialized, log_withRig, log_log]
  exact ⟨_, rfl⟩

theorem scsTelemetryInit_run_of_uncalibrated {version : U32} {params : InitParams}
    (accepted : Accepted version params) (plugin : Plugin F)
    (failed : (Wheel.calibrate.run plugin.rig).1 = false) :
    ∃ texts, (scsTelemetryInit version params).run plugin =
      some (.genericError, (({ plugin with gameLog := true } : Plugin F).withRig
        (Wheel.calibrate.run plugin.rig).2).log texts) := by
  obtain ⟨texts, calibrating⟩ := scsTelemetryInit_run_calibrating accepted plugin
  rw [calibrating, failed, if_pos (by decide), run_bind_of_some (gameLogPrint_run rfl _ _),
    log_log]
  exact ⟨_, rfl⟩

theorem scsTelemetryInit_run_of_calibrated {version : U32} {params : InitParams}
    (accepted : Accepted version params) (plugin : Plugin F)
    (succeeded : (Wheel.calibrate.run plugin.rig).1 = true) :
    ∃ texts, (scsTelemetryInit version params).run plugin =
      some (.ok, ((({ plugin with gameLog := true } : Plugin F).withRig
        (Wheel.calibrate.run plugin.rig).2).opened).log texts) := by
  obtain ⟨texts, calibrating⟩ := scsTelemetryInit_run_calibrating accepted plugin
  let entered : Plugin F := (({ plugin with gameLog := true } : Plugin F).withRig
    (Wheel.calibrate.run plugin.rig).2).log
      (texts ++ [(.message, "fffb::info : wheel initialization successful")])
  have reset : (modify opened : PluginM F Unit).run entered = some ((), entered.opened) := rfl
  rw [calibrating, succeeded, if_neg (by decide), run_bind_of_some (gameLogPrint_run rfl _ _),
    log_log, run_bind_of_some reset, run_bind_of_some (gameLogPrint_run rfl _ _)]
  refine ⟨texts ++ [(.message, "fffb::info : wheel initialization successful")] ++
    [(.message, "fffb::info : successfully initialized")], ?_⟩
  rw [← log_log]
  rfl

/-! ### Frames -/

theorem step_telemetryShutdown (plugin : Plugin F) :
    step plugin .telemetryShutdown = some { plugin with gameLog := false } := rfl

theorem step_channel (plugin : Plugin F) (registration : ChannelRegistration)
    (value : Option (ScsValue F)) :
    step plugin (.channel registration value) =
      (registration.invoke value plugin.telemetryState).map fun state =>
        { plugin with telemetryState := state } := by
  unfold step handle
  change ((registration.invoke value plugin.telemetryState).map _).map _ = _
  rw [Option.map_map]
  rfl

/-- A frame end at this state calls `update_forces`. -/
def UpdateDue (plugin : Plugin F) : Prop :=
  plugin.telemetryPaused = false ∧ plugin.simulator.wheel.device.isPresent = true ∧
    plugin.ffbRateCount - 1 = 0

instance (plugin : Plugin F) : Decidable plugin.UpdateDue :=
  inferInstanceAs (Decidable (_ ∧ _ ∧ _))

def forcesUpdated (plugin : Plugin F) : Plugin F :=
  let session := ((Simulator.updateForces plugin.telemetryState).run
    { simulator := plugin.simulator, line := plugin.line }).2
  { plugin with
    simulator := session.simulator
    line := session.line }

def updated (plugin : Plugin F) : Plugin F :=
  { plugin.forcesUpdated.withRig
      ((Wheel.setLedPattern (ledPattern plugin.telemetryState.rpm)).run
        plugin.forcesUpdated.rig).2 with
    ffbRateCount := ffbRate }

theorem updateFfb_run_of_absent (plugin : Plugin F) (telemetry : TelemetryState F)
    (absent : plugin.simulator.wheel.device.isPresent = false) :
    (updateFfb telemetry).run plugin = some (false, plugin) := by
  have current : (get : PluginM F (Plugin F)).run plugin = some (plugin, plugin) := rfl
  unfold updateFfb
  rw [run_bind_of_some current, absent, if_pos (by decide)]
  rfl

theorem updateFfb_run_of_waiting (plugin : Plugin F) (telemetry : TelemetryState F)
    (present : plugin.simulator.wheel.device.isPresent = true)
    (waiting : plugin.ffbRateCount - 1 ≠ 0) :
    (updateFfb telemetry).run plugin =
      some (true, { plugin with ffbRateCount := plugin.ffbRateCount - 1 }) := by
  let counted : Plugin F := { plugin with ffbRateCount := plugin.ffbRateCount - 1 }
  have current : (get : PluginM F (Plugin F)).run plugin = some (plugin, plugin) := rfl
  have counting : (modify fun plugin : Plugin F =>
      { plugin with ffbRateCount := plugin.ffbRateCount - 1 } : PluginM F Unit).run plugin =
        some ((), counted) := rfl
  have again : (get : PluginM F (Plugin F)).run counted = some (counted, counted) := rfl
  unfold updateFfb
  rw [run_bind_of_some current, present, if_neg (by decide), run_bind_of_some counting,
    run_bind_of_some again, if_neg waiting]
  rfl

theorem updateFfb_run_of_due (plugin : Plugin F) (due : plugin.UpdateDue) :
    (updateFfb plugin.telemetryState).run plugin = some (true, plugin.updated) := by
  obtain ⟨_, present, reached⟩ := due
  let counted : Plugin F := { plugin with ffbRateCount := plugin.ffbRateCount - 1 }
  have current : (get : PluginM F (Plugin F)).run plugin = some (plugin, plugin) := rfl
  have counting : (modify fun plugin : Plugin F =>
      { plugin with ffbRateCount := plugin.ffbRateCount - 1 } : PluginM F Unit).run plugin =
        some ((), counted) := rfl
  have again : (get : PluginM F (Plugin F)).run counted = some (counted, counted) := rfl
  let moved : Plugin F := { plugin.forcesUpdated with ffbRateCount := plugin.ffbRateCount - 1 }
  have forces : (onSession (Simulator.updateForces plugin.telemetryState)).run counted =
      some ((), moved) := rfl
  have leds := onWheel_run (Wheel.setLedPattern (ledPattern plugin.telemetryState.rpm)) moved
  unfold updateFfb
  rw [run_bind_of_some current, present, if_neg (by decide), run_bind_of_some counting,
    run_bind_of_some again, if_pos reached, run_bind_of_some forces]
  unfold updateLeds
  rw [run_bind_of_some leds]
  rfl

theorem step_frameEnd_of_paused (plugin : Plugin F) (paused : plugin.telemetryPaused = true) :
    step plugin .frameEnd = some plugin := by
  have current : (get : PluginM F (Plugin F)).run plugin = some (plugin, plugin) := rfl
  unfold step handle telemetryFrameEnd
  rw [run_bind_of_some current, if_pos paused]
  rfl

theorem step_frameEnd_of_running (plugin : Plugin F) (running : plugin.telemetryPaused = false)
    {succeeded : Bool} {next : Plugin F}
    (update : (updateFfb plugin.telemetryState).run plugin = some (succeeded, next)) :
    step plugin .frameEnd =
      ((if succeeded then return ()
        else gameLogPrint .error "fffb::error : failed updating force feedback!" :
          PluginM F Unit).run next).map Prod.snd := by
  have current : (get : PluginM F (Plugin F)).run plugin = some (plugin, plugin) := rfl
  unfold step handle telemetryFrameEnd
  rw [run_bind_of_some current, running, if_neg (by decide), run_bind_of_some current,
    run_bind_of_some update]
  cases succeeded with
  | false => rfl
  | true => rfl

theorem step_frameEnd_of_due (plugin : Plugin F) (due : plugin.UpdateDue) :
    step plugin .frameEnd = some plugin.updated := by
  rw [step_frameEnd_of_running plugin due.1 (updateFfb_run_of_due plugin due)]
  rfl

theorem step_frameEnd_of_waiting (plugin : Plugin F) (running : plugin.telemetryPaused = false)
    (present : plugin.simulator.wheel.device.isPresent = true)
    (waiting : plugin.ffbRateCount - 1 ≠ 0) :
    step plugin .frameEnd =
      some { plugin with ffbRateCount := plugin.ffbRateCount - 1 } := by
  rw [step_frameEnd_of_running plugin running
    (updateFfb_run_of_waiting plugin _ present waiting)]
  rfl

theorem step_frameEnd_of_absent (plugin : Plugin F) (running : plugin.telemetryPaused = false)
    (absent : plugin.simulator.wheel.device.isPresent = false) (logging : plugin.gameLog = true) :
    step plugin .frameEnd =
      some (plugin.log [(.error, "fffb::error : failed updating force feedback!")]) := by
  rw [step_frameEnd_of_running plugin running (updateFfb_run_of_absent plugin _ absent),
    if_neg Bool.false_ne_true, gameLogPrint_run logging]
  rfl

/-- The rig after a reset; without a wheel there is nothing to reset. -/
def resetRig (plugin : Plugin F) : Rig :=
  if plugin.simulator.wheel.device.isPresent then (resetByQueue.run plugin.rig).2 else plugin.rig

theorem step_paused (plugin : Plugin F) (logging : plugin.gameLog = true) :
    step plugin .paused =
      some ((({ plugin with telemetryPaused := true } : Plugin F).withRig plugin.resetRig).log
        [(.message, "fffb::info : telemetry paused, force feedback stopped")]) := by
  let paused : Plugin F := { plugin with telemetryPaused := true }
  have setting : (modify fun plugin : Plugin F =>
      { plugin with telemetryPaused := ScsEvent.paused == ScsEvent.paused } :
        PluginM F Unit).run plugin = some ((), paused) := rfl
  have current : (get : PluginM F (Plugin F)).run paused = some (paused, paused) := rfl
  have resetting : ∃ result, resetWheel.run paused =
      some (result, paused.withRig plugin.resetRig) := by
    unfold resetRig
    cases present : plugin.simulator.wheel.device.isPresent with
    | false => exact ⟨true, resetWheel_run_of_absent paused present⟩
    | true => exact ⟨_, resetWheel_run_of_present paused present⟩
  obtain ⟨result, reset⟩ := resetting
  unfold step handle telemetryPause
  rw [run_bind_of_some setting, run_bind_of_some current, if_pos rfl, run_bind_of_some reset,
    gameLogPrint_run (by exact logging)]
  rfl

theorem step_paused_of_null (plugin : Plugin F) (silent : plugin.gameLog = false) :
    step plugin .paused = none := by
  let paused : Plugin F := { plugin with telemetryPaused := true }
  have setting : (modify fun plugin : Plugin F =>
      { plugin with telemetryPaused := ScsEvent.paused == ScsEvent.paused } :
        PluginM F Unit).run plugin = some ((), paused) := rfl
  have current : (get : PluginM F (Plugin F)).run paused = some (paused, paused) := rfl
  have resetting : ∃ result next, resetWheel.run paused = some (result, next) ∧
      next.gameLog = false := by
    cases present : plugin.simulator.wheel.device.isPresent with
    | false => exact ⟨true, paused, resetWheel_run_of_absent paused present, silent⟩
    | true => exact ⟨_, _, resetWheel_run_of_present paused present, silent⟩
  obtain ⟨result, next, reset, nextSilent⟩ := resetting
  unfold step handle telemetryPause
  rw [run_bind_of_some setting, run_bind_of_some current, if_pos rfl, run_bind_of_some reset,
    gameLogPrint_run_of_null nextSilent]
  rfl

theorem step_started (plugin : Plugin F) (logging : plugin.gameLog = true) :
    step plugin .started =
      some (({ plugin with telemetryPaused := false } : Plugin F).log
        [(.message, "fffb::info : telemetry unpaused, resuming force feedback")]) := by
  let running : Plugin F := { plugin with telemetryPaused := false }
  have setting : (modify fun plugin : Plugin F =>
      { plugin with telemetryPaused := ScsEvent.started == ScsEvent.paused } :
        PluginM F Unit).run plugin = some ((), running) := rfl
  have current : (get : PluginM F (Plugin F)).run running = some (running, running) := rfl
  unfold step handle telemetryPause
  rw [run_bind_of_some setting, run_bind_of_some current, if_neg (by exact Bool.false_ne_true),
    gameLogPrint_run (by exact logging)]
  rfl

theorem step_started_of_null (plugin : Plugin F) (silent : plugin.gameLog = false) :
    step plugin .started = none := by
  let running : Plugin F := { plugin with telemetryPaused := false }
  have setting : (modify fun plugin : Plugin F =>
      { plugin with telemetryPaused := ScsEvent.started == ScsEvent.paused } :
        PluginM F Unit).run plugin = some ((), running) := rfl
  have current : (get : PluginM F (Plugin F)).run running = some (running, running) := rfl
  unfold step handle telemetryPause
  rw [run_bind_of_some setting, run_bind_of_some current, if_neg (by exact Bool.false_ne_true),
    gameLogPrint_run_of_null (by exact silent)]
  rfl

/-! ### What a step can do to the rig -/

theorem handle_run {plugin next : Plugin F} {callback : Callback F}
    (stepped : step plugin callback = some next) :
    (handle callback).run plugin = some ((), next) := by
  unfold step at stepped
  obtain ⟨⟨_, last⟩, ran, rfl⟩ := Option.map_eq_some_iff.mp stepped
  exact ran

theorem step_telemetryInit {plugin next : Plugin F} {version : U32} {params : InitParams}
    (stepped : step plugin (.telemetryInit version params) = some next) :
    ∃ result, (scsTelemetryInit version params).run plugin = some (result, next) := by
  have ran := handle_run stepped
  unfold handle at ran
  rw [StateT.run_bind] at ran
  obtain ⟨⟨result, last⟩, initialized, ended⟩ := Option.bind_eq_some_iff.mp ran
  cases ended
  exact ⟨result, initialized⟩

theorem step_of_telemetryInit {plugin next : Plugin F} {version : U32} {params : InitParams}
    {result : ScsResult}
    (initialized : (scsTelemetryInit version params).run plugin = some (result, next)) :
    step plugin (.telemetryInit version params) = some next := by
  unfold step handle
  rw [run_bind_of_some initialized]
  rfl

theorem telemetryInit_cases {plugin next : Plugin F} {version : U32} {params : InitParams}
    {result : ScsResult}
    (initialized : (scsTelemetryInit version params).run plugin = some (result, next)) :
    result ≠ .ok ∧ (∃ logging texts,
        next = ({ plugin with gameLog := logging } : Plugin F).log texts) ∨
      Accepted version params ∧ ∃ texts,
        (result ≠ .ok ∧ next = (({ plugin with gameLog := true } : Plugin F).withRig
            (Wheel.calibrate.run plugin.rig).2).log texts ∨
          (Wheel.calibrate.run plugin.rig).1 = true ∧
            next = ((({ plugin with gameLog := true } : Plugin F).withRig
              (Wheel.calibrate.run plugin.rig).2).opened).log texts) := by
  by_cases supported : version = SCS_TELEMETRY_VERSION_1_01
  · cases registered : eventsRegistered params with
    | false =>
        obtain ⟨texts, refused⟩ := scsTelemetryInit_run_of_refused supported registered plugin
        rw [refused] at initialized
        cases initialized
        exact Or.inl ⟨nofun, true, texts, rfl⟩
    | true =>
        have accepted : Accepted version params := ⟨supported, registered⟩
        cases calibrated : (Wheel.calibrate.run plugin.rig).1 with
        | false =>
            obtain ⟨texts, failed⟩ :=
              scsTelemetryInit_run_of_uncalibrated accepted plugin calibrated
            rw [failed] at initialized
            cases initialized
            exact Or.inr ⟨accepted, texts, Or.inl ⟨nofun, rfl⟩⟩
        | true =>
            obtain ⟨texts, succeeded⟩ :=
              scsTelemetryInit_run_of_calibrated accepted plugin calibrated
            rw [succeeded] at initialized
            cases initialized
            exact Or.inr ⟨accepted, texts, Or.inr ⟨rfl, rfl⟩⟩
  · rw [scsTelemetryInit_run_of_unsupported supported] at initialized
    cases initialized
    exact Or.inl ⟨nofun, plugin.gameLog, [], (log_nil plugin).symm⟩

theorem telemetryInit_of_ok {plugin next : Plugin F} {version : U32} {params : InitParams}
    (initialized : (scsTelemetryInit version params).run plugin = some (.ok, next)) :
    Accepted version params ∧ (Wheel.calibrate.run plugin.rig).1 = true ∧
      ∃ texts, next = ((({ plugin with gameLog := true } : Plugin F).withRig
        (Wheel.calibrate.run plugin.rig).2).opened).log texts := by
  rcases telemetryInit_cases initialized with
    ⟨failed, _⟩ | ⟨accepted, texts, ⟨failed, _⟩ | ⟨calibrated, ended⟩⟩
  · exact False.elim (failed rfl)
  · exact False.elim (failed rfl)
  · exact ⟨accepted, calibrated, texts, ended⟩

theorem present_of_ok {plugin next : Plugin F} {version : U32} {params : InitParams}
    (initialized : (scsTelemetryInit version params).run plugin = some (.ok, next)) :
    plugin.simulator.wheel.device.isPresent = true := by
  obtain ⟨_, calibrated, _⟩ := telemetryInit_of_ok initialized
  cases found : plugin.rig.wheel.device.isPresent with
  | true => exact found
  | false =>
      rw [Wheel.calibrate_run_of_absent plugin.rig found] at calibrated
      cases calibrated

/-- A frame end does nothing but log, counts, or makes the update that is due. -/
theorem frameEnd_cases {plugin next : Plugin F} (stepped : step plugin .frameEnd = some next) :
    (∃ texts, next = plugin.log texts) ∨
      (plugin.ffbRateCount - 1 ≠ 0 ∧
        next = { plugin with ffbRateCount := plugin.ffbRateCount - 1 }) ∨
      (plugin.UpdateDue ∧ next = plugin.updated) := by
  rcases Bool.eq_false_or_eq_true plugin.telemetryPaused with paused | running
  · rw [step_frameEnd_of_paused plugin paused] at stepped
    cases stepped
    exact Or.inl ⟨[], (log_nil plugin).symm⟩
  · cases present : plugin.simulator.wheel.device.isPresent with
    | false =>
        cases logging : plugin.gameLog with
        | false =>
            rw [step_frameEnd_of_running plugin running
              (updateFfb_run_of_absent plugin _ present), if_neg Bool.false_ne_true,
              gameLogPrint_run_of_null logging] at stepped
            cases stepped
        | true =>
            rw [step_frameEnd_of_absent plugin running present logging] at stepped
            cases stepped
            exact Or.inl ⟨_, rfl⟩
    | true =>
        by_cases reached : plugin.ffbRateCount - 1 = 0
        · have due : plugin.UpdateDue := ⟨running, present, reached⟩
          rw [step_frameEnd_of_due plugin due] at stepped
          cases stepped
          exact Or.inr (Or.inr ⟨due, rfl⟩)
        · rw [step_frameEnd_of_waiting plugin running present reached] at stepped
          cases stepped
          exact Or.inr (Or.inl ⟨reached, rfl⟩)

theorem paused_cases {plugin next : Plugin F} (stepped : step plugin .paused = some next) :
    plugin.gameLog = true ∧
      next = (({ plugin with telemetryPaused := true } : Plugin F).withRig plugin.resetRig).log
        [(.message, "fffb::info : telemetry paused, force feedback stopped")] := by
  rcases Bool.eq_false_or_eq_true plugin.gameLog with logging | silent
  · rw [step_paused plugin logging] at stepped
    cases stepped
    exact ⟨logging, rfl⟩
  · rw [step_paused_of_null plugin silent] at stepped
    cases stepped

theorem started_cases {plugin next : Plugin F} (stepped : step plugin .started = some next) :
    plugin.gameLog = true ∧
      next = ({ plugin with telemetryPaused := false } : Plugin F).log
        [(.message, "fffb::info : telemetry unpaused, resuming force feedback")] := by
  rcases Bool.eq_false_or_eq_true plugin.gameLog with logging | silent
  · rw [step_started plugin logging] at stepped
    cases stepped
    exact ⟨logging, rfl⟩
  · rw [step_started_of_null plugin silent] at stepped
    cases stepped

theorem channel_cases {plugin next : Plugin F} {registration : ChannelRegistration}
    {value : Option (ScsValue F)}
    (stepped : step plugin (.channel registration value) = some next) :
    ∃ state, registration.invoke value plugin.telemetryState = some state ∧
      next = { plugin with telemetryState := state } := by
  rw [step_channel] at stepped
  obtain ⟨state, stored, rfl⟩ := Option.map_eq_some_iff.mp stepped
  exact ⟨state, stored, rfl⟩

/-- A step leaves the rig alone, calibrates it, resets it or updates it. -/
theorem step_rig {plugin next : Plugin F} {callback : Callback F}
    (stepped : step plugin callback = some next) :
    callback ≠ .paused ∧ next.rig = plugin.rig ∨
      (∃ version params, callback = .telemetryInit version params ∧
        next.rig = (Wheel.calibrate.run plugin.rig).2) ∨
      (callback = .paused ∧ next.rig = plugin.resetRig) ∨
      (callback = .frameEnd ∧ plugin.UpdateDue ∧ next = plugin.updated) := by
  cases callback with
  | telemetryInit version params =>
      obtain ⟨result, initialized⟩ := step_telemetryInit stepped
      rcases telemetryInit_cases initialized with
        ⟨_, _, _, rfl⟩ | ⟨_, _, ⟨_, rfl⟩ | ⟨_, rfl⟩⟩
      · exact Or.inl ⟨nofun, rfl⟩
      · exact Or.inr (Or.inl ⟨version, params, rfl, rfl⟩)
      · exact Or.inr (Or.inl ⟨version, params, rfl, rfl⟩)
  | telemetryShutdown =>
      cases stepped
      exact Or.inl ⟨nofun, rfl⟩
  | frameStart info =>
      cases stepped
      exact Or.inl ⟨nofun, rfl⟩
  | frameEnd =>
      rcases frameEnd_cases stepped with ⟨_, rfl⟩ | ⟨_, rfl⟩ | ⟨due, updated⟩
      · exact Or.inl ⟨nofun, rfl⟩
      · exact Or.inl ⟨nofun, rfl⟩
      · exact Or.inr (Or.inr (Or.inr ⟨rfl, due, updated⟩))
  | paused =>
      obtain ⟨_, rfl⟩ := paused_cases stepped
      exact Or.inr (Or.inr (Or.inl ⟨rfl, rfl⟩))
  | started =>
      obtain ⟨_, rfl⟩ := started_cases stepped
      exact Or.inl ⟨nofun, rfl⟩
  | channel registration value =>
      obtain ⟨_, _, rfl⟩ := channel_cases stepped
      exact Or.inl ⟨nofun, rfl⟩

/-! ### What no step changes -/

theorem forcesUpdated_rig (plugin : Plugin F) :
    plugin.forcesUpdated.rig =
      (Wheel.refreshForces.run
        { wheel := (Simulator.updateEffects plugin.telemetryState plugin.simulator).wheel
          line := plugin.line }).2 := rfl

theorem updated_rig (plugin : Plugin F) :
    plugin.updated.rig =
      ((Wheel.setLedPattern (ledPattern plugin.telemetryState.rpm)).run
        plugin.forcesUpdated.rig).2 := rfl

theorem forcesUpdated_wheel (plugin : Plugin F) :
    plugin.forcesUpdated.simulator.wheel =
      { (Simulator.updateEffects plugin.telemetryState plugin.simulator).wheel with
        playing := true } := by
  rw [← rig_wheel, forcesUpdated_rig]
  exact Wheel.refreshForces_makes.wheel _

theorem updated_wheel (plugin : Plugin F) :
    plugin.updated.simulator.wheel = plugin.forcesUpdated.simulator.wheel := by
  rw [← rig_wheel, updated_rig]
  exact (Wheel.setLedPattern_makes _).wheel _

def updateTransactions (plugin : Plugin F) : List (List Report) :=
  [(Simulator.updateEffects plugin.telemetryState plugin.simulator).wheel.refreshBatch,
    [Protocol.setLedPattern plugin.simulator.wheel.protocol
      (ledPattern plugin.telemetryState.rpm)]]

theorem updated_attempts (plugin : Plugin F) :
    plugin.updated.line = plugin.line.attemptAll plugin.updateTransactions := by
  have lit := (Wheel.setLedPattern_makes (ledPattern plugin.telemetryState.rpm)).line
    plugin.forcesUpdated.rig
  have refreshed := Wheel.refreshForces_makes.line
    { wheel := (Simulator.updateEffects plugin.telemetryState plugin.simulator).wheel
      line := plugin.line }
  rw [rig_wheel, rig_line, forcesUpdated_wheel] at lit
  rw [← rig_line, updated_rig, lit, ← rig_line, forcesUpdated_rig, refreshed]
  rfl

/-- The rig keeps its device and the protocol for it, and its line only grows. -/
def SameDevice (before after : Rig) : Prop :=
  after.wheel.device = before.wheel.device ∧ after.wheel.protocol = before.wheel.protocol ∧
    before.line.Extends after.line

omit [FloatArith F] in
theorem resetRig_sameDevice (plugin : Plugin F) : SameDevice plugin.rig plugin.resetRig := by
  unfold resetRig
  split
  · unfold SameDevice
    rw [resetByQueue_makes.wheel]
    exact ⟨rfl, rfl, resetByQueue_makes.extends_line plugin.rig⟩
  · exact ⟨rfl, rfl, .refl _⟩

theorem calibrate_sameDevice (rig : Rig) : SameDevice rig (Wheel.calibrate.run rig).2 := by
  rcases Wheel.calibrate_cases rig with same | freed | stopped | finished
  · rw [same]
    exact ⟨rfl, rfl, .refl _⟩
  · rw [freed]
    exact ⟨rfl, rfl, Line.attemptAll_extends _ _⟩
  · rw [stopped]
    exact ⟨rfl, rfl, Line.attemptAll_extends _ _⟩
  · rw [finished]
    exact ⟨rfl, rfl, Line.attemptAll_extends _ _⟩

theorem updated_sameDevice (plugin : Plugin F) : SameDevice plugin.rig plugin.updated.rig := by
  have refreshed := Wheel.refreshForces_makes.extends_line
    { wheel := (Simulator.updateEffects plugin.telemetryState plugin.simulator).wheel
      line := plugin.line }
  have lit := (Wheel.setLedPattern_makes (ledPattern plugin.telemetryState.rpm)).extends_line
    plugin.forcesUpdated.rig
  unfold SameDevice
  rw [rig_wheel, updated_wheel, forcesUpdated_wheel]
  exact ⟨rfl, rfl, refreshed.trans lit⟩

theorem step_sameDevice {plugin next : Plugin F} {callback : Callback F}
    (stepped : step plugin callback = some next) : SameDevice plugin.rig next.rig := by
  rcases step_rig stepped with ⟨_, same⟩ | ⟨_, _, _, calibrated⟩ | ⟨_, reset⟩ | ⟨_, _, rfl⟩
  · rw [same]
    exact ⟨rfl, rfl, .refl _⟩
  · rw [calibrated]
    exact calibrate_sameDevice plugin.rig
  · rw [reset]
    exact resetRig_sameDevice plugin
  · exact updated_sameDevice plugin

theorem run_sameDevice {plugin last : Plugin F} {callbacks : List (Callback F)}
    (reached : run plugin callbacks = some last) : SameDevice plugin.rig last.rig := by
  have kept : ∀ (before : Plugin F) (callback : Callback F) (after : Plugin F),
      SameDevice plugin.rig before.rig → step before callback = some after →
        SameDevice plugin.rig after.rig := by
    rintro before callback after ⟨device, protocol, line⟩ stepped
    obtain ⟨sameDevice, sameProtocol, longer⟩ := step_sameDevice stepped
    exact ⟨sameDevice.trans device, sameProtocol.trans protocol, line.trans longer⟩
  exact Transition.run_preserves kept ⟨rfl, rfl, .refl _⟩ reached

end Fffb.Plugin
