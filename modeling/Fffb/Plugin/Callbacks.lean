import Fffb.Foundation.Transition
import Fffb.Plugin.Channels

/-
The plugin: its globals, the entry points the game calls, and one step of a
run.

The game log is null before initialization and after shutdown, and a call
through it then stops the run.  The two counters of `update_ffb` are function
statics, so they belong to the process and not to a session.
-/

namespace Fffb

open FloatArith

inductive ScsLogType where
  | message
  | warning
  | error
  deriving DecidableEq, Repr

inductive ScsResult where
  | ok
  | unsupported
  | genericError
  deriving DecidableEq, Repr

inductive ScsEvent where
  | frameStart
  | frameEnd
  | paused
  | started
  deriving DecidableEq, Repr

structure FrameStart where
  flags : U32
  renderTime : U64
  simulationTime : U64
  pausedSimulationTime : U64
  deriving DecidableEq, Repr

/-- What the game passes to the initialization: who it is, and which event
registrations it accepts.  The log function in it is never null. -/
structure InitParams where
  gameId : String
  gameVersion : U32
  registerForEvent : ScsEvent → Bool

structure Plugin (F : Type) where
  telemetryPaused : Bool
  lastTimestamp : U64
  telemetryState : TelemetryState F
  simulator : Simulator F
  /-- Is `g_game_log` set? -/
  gameLog : Bool
  ffbRateCount : Int
  line : Line Report
  logged : List (ScsLogType × String)

inductive Callback (F : Type) where
  | telemetryInit (version : U32) (params : InitParams)
  | telemetryShutdown
  | frameStart (info : FrameStart)
  | frameEnd
  | paused
  | started
  | channel (registration : ChannelRegistration) (value : Option (ScsValue F))

def SCS_TELEMETRY_VERSION_1_01 : U32 := 0x00010001
def SCS_TELEMETRY_FRAME_START_FLAG_timer_restart : U32 := 0x00000001
def SCS_GAME_ID_EUT2 : String := "eut2"
def SCS_GAME_ID_ATS : String := "ats"
def SCS_TELEMETRY_EUT2_GAME_VERSION_1_00 : U32 := 0x00010000
def SCS_TELEMETRY_EUT2_GAME_VERSION_CURRENT : U32 := 0x00010012
def SCS_TELEMETRY_ATS_GAME_VERSION_1_00 : U32 := 0x00010000
def SCS_TELEMETRY_ATS_GAME_VERSION_CURRENT : U32 := 0x00010005

def scsGetMajorVersion (version : U32) : U32 := (version >>> 16) &&& 0xffff

/-- An entry point of the plugin; `none` is a crash. -/
abbrev PluginM (F : Type) := StateT (Plugin F) Option

namespace Plugin

variable {F : Type} [FloatArith F]

def gameLogPrint (type : ScsLogType) (text : String) : PluginM F Unit := fun plugin =>
  if plugin.gameLog then
    some ((), { plugin with logged := plugin.logged ++ [(type, text)] })
  else
    none

def onSession {α : Type} (operation : StateM (Simulator.Session F) α) : PluginM F α :=
  fun plugin =>
    let (result, session) :=
      operation.run { simulator := plugin.simulator, line := plugin.line }
    some (result, { plugin with simulator := session.simulator, line := session.line })

def onWheel {α : Type} (operation : WheelM α) : PluginM F α :=
  onSession (Simulator.onWheel operation)

def initWheel : PluginM F Bool := do
  if !(← onWheel Wheel.calibrate) then
    gameLogPrint .error "fffb::error : wheel calibration failed!"
    return false
  gameLogPrint .message "fffb::info : wheel calibration successful"
  return true

def ledPattern (rpm : F) : U8 :=
  if rpm == lit 0 then 0x00
  else if rpm < lit 1000 then 0x01
  else if rpm < lit 1300 then 0x03
  else if rpm < lit 1600 then 0x07
  else if rpm < lit 1800 then 0x0F
  else if rpm < lit 1900 then 0x1F
  else 0x1F

def updateLeds (rpm : F) : PluginM F Bool :=
  onWheel (Wheel.setLedPattern (ledPattern rpm))

def resetWheel : PluginM F Bool := do
  if (← get).simulator.wheel.device.isPresent then
    onWheel Wheel.qDisableAutocenter
    onWheel Wheel.qStopForces
    onWheel (Wheel.qSetLedPattern 0)
    onWheel Wheel.flushReports
  else
    return true

def ffbRate : Int := 4

def updateFfb (telemetry : TelemetryState F) : PluginM F Bool := do
  if !(← get).simulator.wheel.device.isPresent then return false
  modify fun plugin => { plugin with ffbRateCount := plugin.ffbRateCount - 1 }
  if (← get).ffbRateCount = 0 then
    onSession (Simulator.updateForces telemetry)
    let _ ← updateLeds telemetry.rpm
    modify fun plugin => { plugin with ffbRateCount := ffbRate }
  return true

def deinitWheel : PluginM F Unit := return ()

/-! ### Event callbacks -/

def frameStarted (info : FrameStart) (plugin : Plugin F) : Plugin F :=
  let last := if plugin.lastTimestamp = -1 then info.pausedSimulationTime
    else plugin.lastTimestamp
  let last := if info.flags &&& SCS_TELEMETRY_FRAME_START_FLAG_timer_restart ≠ 0 then 0
    else last
  { plugin with
    lastTimestamp := info.pausedSimulationTime
    telemetryState :=
      { plugin.telemetryState with
        timestamp := plugin.telemetryState.timestamp + (info.pausedSimulationTime - last)
        rawRenderingTimestamp := info.renderTime
        rawSimulationTimestamp := info.simulationTime
        rawPausedSimulationTimestamp := info.pausedSimulationTime } }

def telemetryFrameStart (info : FrameStart) : PluginM F Unit :=
  modify (frameStarted info)

def telemetryFrameEnd : PluginM F Unit := do
  if (← get).telemetryPaused then return ()
  if !(← updateFfb (← get).telemetryState) then
    gameLogPrint .error "fffb::error : failed updating force feedback!"

def telemetryPause (event : ScsEvent) : PluginM F Unit := do
  modify fun plugin => { plugin with telemetryPaused := event == .paused }
  if (← get).telemetryPaused then
    let _ ← resetWheel
    gameLogPrint .message "fffb::info : telemetry paused, force feedback stopped"
  else
    gameLogPrint .message "fffb::info : telemetry unpaused, resuming force feedback"

/-! ### Initialization and shutdown -/

/-- The warnings about a known game's version. -/
def checkGameVersion (gameVersion minVersion impldVersion : U32) : PluginM F Unit := do
  if gameVersion < minVersion then
    gameLogPrint .warning "fffb::warning : game version too old, some stuff might be broken"
  if scsGetMajorVersion gameVersion > scsGetMajorVersion impldVersion then
    gameLogPrint .warning "fffb::warning : game major version too new, some stuff might be broken"

def checkVersions (params : InitParams) : PluginM F Unit := do
  if params.gameId == SCS_GAME_ID_EUT2 then
    checkGameVersion params.gameVersion SCS_TELEMETRY_EUT2_GAME_VERSION_1_00
      SCS_TELEMETRY_EUT2_GAME_VERSION_CURRENT
  else if params.gameId == SCS_GAME_ID_ATS then
    checkGameVersion params.gameVersion SCS_TELEMETRY_ATS_GAME_VERSION_1_00
      SCS_TELEMETRY_ATS_GAME_VERSION_CURRENT
  else
    gameLogPrint .warning "fffb::warning : unknown game, some stuff might be broken"

def eventsRegistered (params : InitParams) : Bool :=
  params.registerForEvent .frameStart && params.registerForEvent .frameEnd &&
    params.registerForEvent .paused && params.registerForEvent .started

def scsTelemetryInit (version : U32) (params : InitParams) : PluginM F ScsResult := do
  if version ≠ SCS_TELEMETRY_VERSION_1_01 then return .unsupported
  modify fun plugin => { plugin with gameLog := true }
  gameLogPrint .message "fffb::info : version 0.1.2 starting initialization..."
  checkVersions params
  gameLogPrint .message "fffb::info : version checks passed"
  gameLogPrint .message "fffb::info : registering to events..."
  if !eventsRegistered params then
    gameLogPrint .error "fffb::error : failed to register event callbacks!"
    return .genericError
  gameLogPrint .message "fffb::info : event registration successful"
  gameLogPrint .message "fffb::info : registering to channels..."
  gameLogPrint .message "fffb::info : channel registration completed"
  gameLogPrint .message "fffb::info : initializing wheel..."
  if !(← initWheel) then
    gameLogPrint .error "fffb::error : failed to initialize wheel!"
    return .genericError
  gameLogPrint .message "fffb::info : wheel initialization successful"
  modify fun plugin =>
    { plugin with
      telemetryState := .zeroed
      lastTimestamp := -1
      telemetryPaused := true }
  gameLogPrint .message "fffb::info : successfully initialized"
  return .ok

def scsTelemetryShutdown : PluginM F Unit := do
  modify fun plugin => { plugin with gameLog := false }
  deinitWheel

def handle : Callback F → PluginM F Unit
  | .telemetryInit version params => do
      let _ ← scsTelemetryInit version params
  | .telemetryShutdown => scsTelemetryShutdown
  | .frameStart info => telemetryFrameStart info
  | .frameEnd => telemetryFrameEnd
  | .paused => telemetryPause .paused
  | .started => telemetryPause .started
  | .channel registration value => fun plugin =>
      (registration.invoke value plugin.telemetryState).map fun state =>
        ((), { plugin with telemetryState := state })

def step (plugin : Plugin F) (callback : Callback F) : Option (Plugin F) :=
  ((handle callback).run plugin).map Prod.snd

/-- The plugin once it is loaded, with the static objects constructed. -/
def load (devices : List HidDevice) (outcome : Nat → Bool) : Plugin F :=
  let session : Simulator.Session F := Simulator.construct devices (.idle outcome)
  { telemetryPaused := true
    lastTimestamp := -1
    telemetryState := .initial
    simulator := session.simulator
    gameLog := false
    ffbRateCount := ffbRate
    line := session.line
    logged := [] }

abbrev run (plugin : Plugin F) (callbacks : List (Callback F)) : Option (Plugin F) :=
  Transition.run step plugin callbacks

end Plugin

end Fffb
