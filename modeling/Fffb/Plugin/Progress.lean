import Fffb.Joy.WheelChoice
import Fffb.Plugin.ChannelSafety
import Fffb.Plugin.Cycle

/-
When the plugin survives what the game calls.

A call through the null log and a channel callback that traps stop the run.
Whether that happens is told by the calls and the devices alone: no answer of a
device, no telemetry and no force decides it.
-/

namespace Fffb

open FloatArith

variable {F : Type}

/-- The callback finds through its context what it casts it to, and it is given
a value of its type, or none where it looks for that. -/
def ChannelRegistration.Stores (registration : ChannelRegistration) (value : Option (ScsValue F)) :
    Prop :=
  (registration.callback.writes registration.context).isSome = true ∧
    match value with
    | some value => value.type = registration.callback.valueType
    | none => registration.callback = .storeOrientation

theorem storeThroughFloat_isSome (context : ScsContext) (value : F) (state : TelemetryState F) :
    (storeThroughFloat context value state).isSome =
      (ChannelCallback.storeFloat.writes context).isSome := by
  cases context <;> rfl

theorem storeThroughInt_isSome (context : ScsContext) (value : U32) (state : TelemetryState F) :
    (storeThroughInt context value state).isSome =
      (ChannelCallback.storeS32.writes context).isSome := by
  cases context with
  | int field => cases field <;> rfl
  | _ => rfl

theorem ChannelCallback.writes_fvector (context : ScsContext) :
    storeFvector.writes context = storeFloat.writes context := by
  cases context <;> rfl

theorem ChannelCallback.writes_u32 (context : ScsContext) :
    storeU32.writes context = storeS32.writes context := by
  cases context with
  | int field => cases field <;> rfl
  | _ => rfl

theorem ScsValueType.ne_valueType {type : ScsValueType} (notRead : type.isRead = false)
    (callback : ChannelCallback) : type ≠ callback.valueType := by
  rintro rfl
  cases callback <;> cases notRead

theorem ChannelRegistration.invoke_isSome_iff [FloatArith F] (registration : ChannelRegistration)
    (value : Option (ScsValue F)) (state : TelemetryState F) :
    (registration.invoke value state).isSome = true ↔ registration.Stores value := by
  have refused : ∀ {writable fitting : Prop}, ¬ fitting →
      ((none : Option (TelemetryState F)).isSome = true ↔ writable ∧ fitting) := by
    intro writable fitting other
    constructor
    · intro stored
      cases stored
    · rintro ⟨_, fits⟩
      exact False.elim (other fits)
  unfold invoke Stores
  cases registration.callback with
  | storeOrientation =>
      cases registration.context with
      | state =>
          cases value with
          | none => exact ⟨fun _ => ⟨rfl, rfl⟩, fun _ => rfl⟩
          | some given =>
              cases given with
              | euler heading pitch roll => exact ⟨fun _ => ⟨rfl, rfl⟩, fun _ => rfl⟩
              | unread type notRead => exact refused (ScsValueType.ne_valueType notRead _)
              | _ => exact refused nofun
      | _ =>
          constructor
          · intro stored
            cases stored
          · rintro ⟨writable, _⟩
            cases writable
  | storeFloat =>
      cases value with
      | none => exact refused nofun
      | some given =>
          cases given with
          | float value =>
              change (storeThroughFloat _ value state).isSome = true ↔ _
              rw [storeThroughFloat_isSome]
              exact ⟨fun writable => ⟨writable, rfl⟩, And.left⟩
          | unread type notRead => exact refused (ScsValueType.ne_valueType notRead _)
          | _ => exact refused nofun
  | storeS32 =>
      cases value with
      | none => exact refused nofun
      | some given =>
          cases given with
          | s32 value =>
              change (storeThroughInt _ value state).isSome = true ↔ _
              rw [storeThroughInt_isSome]
              exact ⟨fun writable => ⟨writable, rfl⟩, And.left⟩
          | unread type notRead => exact refused (ScsValueType.ne_valueType notRead _)
          | _ => exact refused nofun
  | storeU32 =>
      cases value with
      | none => exact refused nofun
      | some given =>
          cases given with
          | u32 value =>
              change (storeThroughInt _ value state).isSome = true ↔ _
              rw [storeThroughInt_isSome, ChannelCallback.writes_u32]
              exact ⟨fun writable => ⟨writable, rfl⟩, And.left⟩
          | unread type notRead => exact refused (ScsValueType.ne_valueType notRead _)
          | _ => exact refused nofun
  | storeFvector =>
      cases value with
      | none => exact refused nofun
      | some given =>
          cases given with
          | fvector x y z =>
              change (storeThroughFloat _ x state).isSome = true ↔ _
              rw [storeThroughFloat_isSome, ChannelCallback.writes_fvector]
              exact ⟨fun writable => ⟨writable, rfl⟩, And.left⟩
          | unread type notRead => exact refused (ScsValueType.ne_valueType notRead _)
          | _ => exact refused nofun

/-! ### What the calls tell -/

def Callback.logs (before : Bool) : Callback F → Bool
  | .telemetryInit version _ => before || version == SCS_TELEMETRY_VERSION_1_01
  | .telemetryShutdown => false
  | _ => before

namespace Plugin

def logSetAfter (callbacks : List (Callback F)) : Bool :=
  callbacks.foldl Callback.logs false

def wheelListed (devices : List HidDevice) : Bool :=
  ((Selection.last? HidDevice.Takeable devices).getD .null).isPresent

/-- The plugin survives this call after the earlier ones: a pause needs the log
it writes to, the end of a frame does so if it has to report that there is no
wheel, and a channel needs a value that its callback stores. -/
def Served (devices : List HidDevice) (past : List (Callback F)) : Callback F → Prop
  | .paused => logSetAfter past = true
  | .started => logSetAfter past = true
  | .frameEnd =>
      wheelListed devices = true ∨ pausedAfter true past = true ∨ logSetAfter past = true
  | .channel registration value => registration.Stores value
  | _ => True

/-- The log and the wheel are those that the calls so far tell; without a wheel
no initialization succeeds, so then they tell the pause as well. -/
structure Follows (devices : List HidDevice) (past : List (Callback F)) (plugin : Plugin F) :
    Prop where
  log : plugin.gameLog = logSetAfter past
  wheel : plugin.simulator.wheel.device.isPresent = wheelListed devices
  pause : wheelListed devices = false → plugin.telemetryPaused = pausedAfter true past

variable [FloatArith F]

theorem load_follows (devices : List HidDevice) (outcome : Nat → Bool) :
    Follows devices [] (load devices outcome : Plugin F) where
  log := rfl
  wheel := by
    have held := Wheel.construct_device devices (.idle outcome)
    rw [Wheel.construct_wheel] at held
    rw [load_wheel, held]
    rfl
  pause _ := rfl

/-- An initialization of the right version always returns; it sets the log, and
without a wheel it leaves the pause as it is. -/
theorem scsTelemetryInit_run_of_supported {version : U32}
    (supported : version = SCS_TELEMETRY_VERSION_1_01) (params : InitParams) (plugin : Plugin F) :
    ∃ result next, (scsTelemetryInit version params).run plugin = some (result, next) ∧
      next.gameLog = true ∧
      (plugin.simulator.wheel.device.isPresent = false →
        next.telemetryPaused = plugin.telemetryPaused) := by
  cases registered : eventsRegistered params with
  | false =>
      obtain ⟨texts, refused⟩ := scsTelemetryInit_run_of_refused supported registered plugin
      exact ⟨_, _, refused, rfl, fun _ => rfl⟩
  | true =>
      have accepted : Accepted version params := ⟨supported, registered⟩
      cases calibrated : (Wheel.calibrate.run plugin.rig).1 with
      | false =>
          obtain ⟨texts, failed⟩ := scsTelemetryInit_run_of_uncalibrated accepted plugin calibrated
          exact ⟨_, _, failed, rfl, fun _ => rfl⟩
      | true =>
          obtain ⟨texts, succeeded⟩ := scsTelemetryInit_run_of_calibrated accepted plugin calibrated
          refine ⟨_, _, succeeded, rfl, fun absent => ?_⟩
          have present := present_of_ok succeeded
          rw [absent] at present
          cases present

theorem step_log_pause {plugin next : Plugin F} {callback : Callback F}
    (stepped : step plugin callback = some next) :
    next.gameLog = callback.logs plugin.gameLog ∧
      (plugin.simulator.wheel.device.isPresent = false →
        next.telemetryPaused = callback.pauses plugin.telemetryPaused) := by
  cases callback with
  | telemetryInit version params =>
      obtain ⟨result, initialized⟩ := step_telemetryInit stepped
      have logs : (Callback.telemetryInit version params : Callback F).logs plugin.gameLog =
          (plugin.gameLog || version == SCS_TELEMETRY_VERSION_1_01) := rfl
      rw [logs]
      by_cases supported : version = SCS_TELEMETRY_VERSION_1_01
      · obtain ⟨_, _, returned, logging, pause⟩ :=
          scsTelemetryInit_run_of_supported supported params plugin
        rw [returned] at initialized
        cases initialized
        rw [beq_iff_eq.mpr supported, Bool.or_true]
        exact ⟨logging, pause⟩
      · rw [scsTelemetryInit_run_of_unsupported supported] at initialized
        cases initialized
        rw [beq_eq_false_iff_ne.mpr supported, Bool.or_false]
        exact ⟨rfl, fun _ => rfl⟩
  | telemetryShutdown =>
      cases stepped
      exact ⟨rfl, fun _ => rfl⟩
  | frameStart info =>
      cases stepped
      exact ⟨rfl, fun _ => rfl⟩
  | frameEnd =>
      rcases frameEnd_cases stepped with ⟨_, rfl⟩ | ⟨_, rfl⟩ | ⟨_, rfl⟩
      · exact ⟨rfl, fun _ => rfl⟩
      · exact ⟨rfl, fun _ => rfl⟩
      · exact ⟨rfl, fun _ => rfl⟩
  | paused =>
      obtain ⟨_, rfl⟩ := paused_cases stepped
      exact ⟨rfl, fun _ => rfl⟩
  | started =>
      obtain ⟨_, rfl⟩ := started_cases stepped
      exact ⟨rfl, fun _ => rfl⟩
  | channel registration value =>
      obtain ⟨_, _, rfl⟩ := channel_cases stepped
      exact ⟨rfl, fun _ => rfl⟩

theorem Follows.step {devices : List HidDevice} {past : List (Callback F)}
    {plugin next : Plugin F} {callback : Callback F} (follows : Follows devices past plugin)
    (stepped : Plugin.step plugin callback = some next) :
    Follows devices (past ++ [callback]) next := by
  obtain ⟨log, pause⟩ := step_log_pause stepped
  obtain ⟨device, _, _⟩ := step_sameDevice stepped
  constructor
  · unfold logSetAfter
    rw [log, follows.log, List.foldl_append]
    rfl
  · rw [← follows.wheel, ← rig_wheel, device]
    rfl
  · intro unlisted
    unfold pausedAfter
    rw [pause (follows.wheel.trans unlisted), follows.pause unlisted, List.foldl_append]
    rfl

theorem step_frameEnd_isSome (plugin : Plugin F) :
    (step plugin .frameEnd).isSome = true ↔
      plugin.simulator.wheel.device.isPresent = true ∨ plugin.telemetryPaused = true ∨
        plugin.gameLog = true := by
  rcases Bool.eq_false_or_eq_true plugin.telemetryPaused with paused | running
  · rw [step_frameEnd_of_paused plugin paused, paused]
    exact ⟨fun _ => Or.inr (Or.inl rfl), fun _ => rfl⟩
  · cases present : plugin.simulator.wheel.device.isPresent with
    | false =>
        rw [step_frameEnd_of_running plugin running (updateFfb_run_of_absent plugin _ present),
          if_neg Bool.false_ne_true, running]
        cases logging : plugin.gameLog with
        | false =>
            rw [gameLogPrint_run_of_null logging]
            exact ⟨nofun, fun served => by simp at served⟩
        | true =>
            rw [gameLogPrint_run logging]
            exact ⟨fun _ => Or.inr (Or.inr rfl), fun _ => rfl⟩
    | true =>
        have returned : (step plugin .frameEnd).isSome = true := by
          by_cases reached : plugin.ffbRateCount - 1 = 0
          · rw [step_frameEnd_of_due plugin ⟨running, present, reached⟩]
            rfl
          · rw [step_frameEnd_of_waiting plugin running present reached]
            rfl
        exact ⟨fun _ => Or.inl rfl, fun _ => returned⟩

theorem Follows.served {devices : List HidDevice} {past : List (Callback F)} {plugin : Plugin F}
    (follows : Follows devices past plugin) (callback : Callback F) :
    (Plugin.step plugin callback).isSome = true ↔ Served devices past callback := by
  have log := follows.log
  unfold Served
  cases callback with
  | telemetryInit version params =>
      refine ⟨fun _ => trivial, fun _ => ?_⟩
      by_cases supported : version = SCS_TELEMETRY_VERSION_1_01
      · obtain ⟨_, _, returned, _⟩ := scsTelemetryInit_run_of_supported supported params plugin
        rw [step_of_telemetryInit returned]
        rfl
      · rw [step_of_telemetryInit (scsTelemetryInit_run_of_unsupported supported params plugin)]
        rfl
  | telemetryShutdown => exact ⟨fun _ => trivial, fun _ => rfl⟩
  | frameStart info => exact ⟨fun _ => trivial, fun _ => rfl⟩
  | frameEnd =>
      rw [step_frameEnd_isSome, follows.wheel, log]
      cases listed : wheelListed devices with
      | false => rw [follows.pause listed]
      | true => exact ⟨fun _ => Or.inl rfl, fun _ => Or.inl rfl⟩
  | paused =>
      dsimp only
      rw [← log]
      cases logging : plugin.gameLog with
      | false =>
          rw [step_paused_of_null plugin logging]
          exact Iff.rfl
      | true =>
          rw [step_paused plugin logging]
          exact Iff.rfl
  | started =>
      dsimp only
      rw [← log]
      cases logging : plugin.gameLog with
      | false =>
          rw [step_started_of_null plugin logging]
          exact Iff.rfl
      | true =>
          rw [step_started plugin logging]
          exact Iff.rfl
  | channel registration value =>
      rw [step_channel, Option.isSome_map]
      exact registration.invoke_isSome_iff value plugin.telemetryState

/-- The plugin survives its calls exactly when it survives each of them after
the earlier ones, whatever the device answers. -/
theorem run_survives_iff (devices : List HidDevice) (outcome : Nat → Bool)
    (callbacks : List (Callback F)) :
    (run (load devices outcome) callbacks).isSome = true ↔
      ∀ before callback after, callbacks = before ++ callback :: after →
        Served devices before callback :=
  Transition.run_isSome_iff (fun _ _ _ _ follows stepped => Follows.step follows stepped)
    (fun _ _ callback follows => follows.served callback) (load_follows devices outcome) callbacks

end Plugin

end Fffb
