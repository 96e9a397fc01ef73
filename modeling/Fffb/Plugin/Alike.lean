import Fffb.Joy.Calibration
import Fffb.Plugin.Reachable

/-
Two sessions that cannot be told apart by their reports.

Their globals are equal.  Their wheel objects may differ in parameters that no
later report shows: in the constant force and the trapezoid, which are always
set anew before they are sent, and in whatever belongs to a disabled effect.
-/

namespace Fffb.Plugin

open FloatArith

variable {F : Type} [FloatArith F]

/-- What a download would send of the trapezoid after an update with this
telemetry; it depends on the deflections of the update before. -/
def trapezoidLoad (simulator : Simulator F) (telemetry : TelemetryState F) : List Report :=
  (Simulator.updateTrapezoid telemetry simulator).wheel.downloads [.trapezoid]

structure SameGlobals (left right : Plugin F) : Prop where
  telemetryPaused : left.telemetryPaused = right.telemetryPaused
  lastTimestamp : left.lastTimestamp = right.lastTimestamp
  telemetryState : left.telemetryState = right.telemetryState
  gameLog : left.gameLog = right.gameLog
  ffbRateCount : left.ffbRateCount = right.ffbRateCount

/-- The effects of two wheel objects send the same, now and after an update
with equal telemetry. -/
structure SameLoads (left right : Simulator F) : Prop where
  present : left.wheel.device.isPresent = true
  device : left.wheel.device = right.wheel.device
  protocol : left.wheel.protocol = right.wheel.protocol
  leftKept : WellKept left.wheel
  rightKept : WellKept right.wheel
  pair : left.wheel.downloads [.spring, .damper] = right.wheel.downloads [.spring, .damper]
  trapezoid : left.wheel.downloads [.trapezoid] = right.wheel.downloads [.trapezoid]
  deflections : ∀ telemetry, trapezoidLoad left telemetry = trapezoidLoad right telemetry

/-- The two lines have sent the same since their bases. -/
structure SameSent (leftBase rightBase : List Report) (left right : Line Report) : Prop where
  leftHealthy : left.Healthy
  rightHealthy : right.Healthy
  sent : ∃ reports, left.delivered = leftBase ++ reports ∧ right.delivered = rightBase ++ reports

structure Alike (leftBase rightBase : List Report) (left right : Plugin F) : Prop where
  globals : SameGlobals left right
  loads : SameLoads left.simulator right.simulator
  playing : left.simulator.wheel.playing = right.simulator.wheel.playing
  lines : SameSent leftBase rightBase left.line right.line

theorem SameSent.start {left right : Line Report} (leftHealthy : left.Healthy)
    (rightHealthy : right.Healthy) : SameSent left.delivered right.delivered left right :=
  ⟨leftHealthy, rightHealthy, [], (List.append_nil _).symm, (List.append_nil _).symm⟩

theorem SameSent.sendAll {leftBase rightBase : List Report} {left right : Line Report}
    (same : SameSent leftBase rightBase left right) {leftBatches rightBatches : List (List Report)}
    (sameBatches : leftBatches.flatten = rightBatches.flatten) :
    SameSent leftBase rightBase (left.sendAll leftBatches) (right.sendAll rightBatches) := by
  obtain ⟨reports, leftSent, rightSent⟩ := same.sent
  constructor
  · exact same.leftHealthy.sendAll _
  · exact same.rightHealthy.sendAll _
  · refine ⟨reports ++ leftBatches.flatten, ?_, ?_⟩
    · rw [Line.sendAll_delivered, leftSent, List.append_assoc]
    · rw [Line.sendAll_delivered, rightSent, sameBatches, List.append_assoc]

theorem trapezoidLoad_congr {left right : Simulator F}
    (protocol : left.wheel.protocol = right.wheel.protocol)
    (deflectionL : left.prevDeflectionL = right.prevDeflectionL)
    (deflectionR : left.prevDeflectionR = right.prevDeflectionR) (telemetry : TelemetryState F) :
    trapezoidLoad left telemetry = trapezoidLoad right telemetry := by
  apply Wheel.downloads_congr
  · exact protocol
  · intro effect member
    rw [List.mem_singleton.mp member]
    change Force.ofTrapezoid _ = Force.ofTrapezoid _
    unfold Simulator.updateTrapezoid
    rw [deflectionL, deflectionR]

theorem updateEffects_trapezoid (telemetry : TelemetryState F) (simulator : Simulator F) :
    (Simulator.updateEffects telemetry simulator).wheel.downloads [.trapezoid] =
      trapezoidLoad simulator telemetry := by
  apply Wheel.downloads_congr
  · rfl
  · intro effect member
    rw [List.mem_singleton.mp member]
    rfl

theorem updateEffects_others (telemetry : TelemetryState F) {left right : Simulator F}
    (protocol : left.wheel.protocol = right.wheel.protocol) {effects : List Effect}
    (others : .trapezoid ∉ effects) :
    (Simulator.updateEffects telemetry left).wheel.downloads effects =
      (Simulator.updateEffects telemetry right).wheel.downloads effects := by
  apply Wheel.downloads_congr
  · exact protocol
  · intro effect member
    cases effect with
    | constant => rfl
    | spring => rfl
    | damper => rfl
    | trapezoid => exact False.elim (others member)

/-- After an update the effects send the same again, and the deflections that
it leaves are equal. -/
theorem SameLoads.updated {left right : Simulator F} (same : SameLoads left right)
    (telemetry : TelemetryState F) :
    SameLoads
      { Simulator.updateEffects telemetry left with
        wheel := { (Simulator.updateEffects telemetry left).wheel with playing := true } }
      { Simulator.updateEffects telemetry right with
        wheel := { (Simulator.updateEffects telemetry right).wheel with playing := true } } := by
  constructor
  · exact same.present
  · exact same.device
  · exact same.protocol
  · exact same.leftKept.updated telemetry
  · exact same.rightKept.updated telemetry
  · exact updateEffects_others telemetry same.protocol (by decide)
  · have trapezoids := same.deflections telemetry
    rw [← updateEffects_trapezoid, ← updateEffects_trapezoid] at trapezoids
    exact trapezoids
  · exact trapezoidLoad_congr same.protocol rfl rfl

theorem SameLoads.calibrated {left right : Simulator F} (same : SameLoads left right) :
    SameLoads { left with wheel := left.wheel.calibrated }
      { right with wheel := right.wheel.calibrated } := by
  have pair : ∀ wheel : Wheel, wheel.calibrated.downloads [.spring, .damper] =
      wheel.downloads [.spring, .damper] := by
    intro wheel
    refine Wheel.downloads_congr rfl ?_
    simp [Wheel.force, Wheel.calibrated, Wheel.shaken, Wheel.shaking, Wheel.turning]
  have deflections : ∀ (simulator : Simulator F) (telemetry : TelemetryState F),
      trapezoidLoad { simulator with wheel := simulator.wheel.calibrated } telemetry =
        trapezoidLoad simulator telemetry := by
    intro simulator telemetry
    apply trapezoidLoad_congr
    · rfl
    · rfl
    · rfl
  constructor
  · exact same.present
  · exact same.device
  · exact same.protocol
  · exact same.leftKept.calibrated
  · exact same.rightKept.calibrated
  · rw [pair, pair]
    exact same.pair
  · rfl
  · intro telemetry
    rw [deflections, deflections]
    exact same.deflections telemetry

theorem SameLoads.stopped {left right : Simulator F} (same : SameLoads left right) :
    SameLoads { left with wheel := { left.wheel with playing := false, reports := [] } }
      { right with wheel := { right.wheel with playing := false, reports := [] } } := by
  constructor
  · exact same.present
  · exact same.device
  · exact same.protocol
  · exact same.leftKept.flagged false
  · exact same.rightKept.flagged false
  · exact same.pair
  · exact same.trapezoid
  · exact same.deflections

theorem SameLoads.refreshes {left right : Simulator F} (same : SameLoads left right)
    (telemetry : TelemetryState F) :
    (Simulator.updateEffects telemetry left).wheel.enabledReports Protocol.refreshForce =
      (Simulator.updateEffects telemetry right).wheel.enabledReports Protocol.refreshForce := by
  have others := updateEffects_others telemetry same.protocol
    (by decide : Effect.trapezoid ∉ [Effect.constant, .spring, .damper])
  have parts : Effect.all = [.constant, .spring, .damper] ++ [.trapezoid] := rfl
  rw [Wheel.enabledReports_refresh, Wheel.enabledReports_refresh, parts, Wheel.downloads_append,
    Wheel.downloads_append, others, updateEffects_trapezoid, updateEffects_trapezoid,
    same.deflections telemetry]

theorem SameLoads.calibrations {left right : Simulator F} (same : SameLoads left right) :
    left.wheel.calibrationBatches.flatten = right.wheel.calibrationBatches.flatten := by
  rw [Wheel.calibrationBatches_trace same.leftKept.slots,
    Wheel.calibrationBatches_trace same.rightKept.slots, same.protocol, same.pair, same.trapezoid]

def updateBatches (plugin : Plugin F) : List (List Report) :=
  let wheel := (Simulator.updateEffects plugin.telemetryState plugin.simulator).wheel
  [if plugin.simulator.wheel.playing then wheel.enabledReports Protocol.refreshForce
    else [Protocol.playForce wheel.protocol plugin.telemetryState.playMask],
    [Protocol.setLedPattern wheel.protocol (ledPattern plugin.telemetryState.rpm)]]

theorem updated_line (plugin : Plugin F) (healthy : plugin.line.Healthy) :
    plugin.updated.line = plugin.line.sendAll plugin.updateBatches := by
  have forces :=
    (Simulator.updateEffects_enabledSlots plugin.telemetryState plugin.simulator).symm
  rw [updated_attempts, healthy.attemptAll]
  unfold updateBatches
  rw [forces]
  rfl

theorem updated_simulator (plugin : Plugin F) :
    plugin.updated.simulator =
      { Simulator.updateEffects plugin.telemetryState plugin.simulator with
        wheel :=
          { (Simulator.updateEffects plugin.telemetryState plugin.simulator).wheel with
            playing := true } } := by
  have wheel := (updated_wheel plugin).trans (forcesUpdated_wheel plugin)
  calc plugin.updated.simulator
      = { Simulator.updateEffects plugin.telemetryState plugin.simulator with
          wheel := plugin.updated.simulator.wheel } := rfl
    _ = _ := by rw [wheel]

def resetBatches (plugin : Plugin F) : List (List Report) :=
  [resetReports plugin.simulator.wheel.protocol]

omit [FloatArith F] in
theorem resetRig_eq {plugin : Plugin F} (healthy : plugin.line.Healthy)
    (emptyQueue : plugin.simulator.wheel.reports = [])
    (present : plugin.simulator.wheel.device.isPresent = true) :
    plugin.resetRig =
      { wheel := { plugin.simulator.wheel with playing := false, reports := [] }
        line := plugin.line.sendAll plugin.resetBatches } := by
  have emptied : plugin.rig.wheel.reports = [] := emptyQueue
  unfold resetRig
  rw [if_pos present, resetByQueue_sent plugin.rig healthy, emptied]
  rfl

variable {leftBase rightBase : List Report} {left right : Plugin F}

omit [FloatArith F] in
theorem SameGlobals.log (same : SameGlobals left right) (first second : List (ScsLogType × String)) :
    SameGlobals (left.log first) (right.log second) where
  telemetryPaused := same.telemetryPaused
  lastTimestamp := same.lastTimestamp
  telemetryState := same.telemetryState
  gameLog := same.gameLog
  ffbRateCount := same.ffbRateCount

theorem Alike.log (alike : Alike leftBase rightBase left right)
    (first second : List (ScsLogType × String)) :
    Alike leftBase rightBase (left.log first) (right.log second) where
  globals := alike.globals.log first second
  loads := alike.loads
  playing := alike.playing
  lines := alike.lines

theorem Alike.updated (alike : Alike leftBase rightBase left right) :
    Alike leftBase rightBase left.updated right.updated := by
  have telemetry := alike.globals.telemetryState
  have batches : left.updateBatches = right.updateBatches := by
    have protocol : ∀ plugin : Plugin F,
        (Simulator.updateEffects plugin.telemetryState plugin.simulator).wheel.protocol =
          plugin.simulator.wheel.protocol := fun _ => rfl
    unfold updateBatches
    dsimp only
    rw [protocol, protocol, alike.loads.protocol, alike.playing, telemetry,
      alike.loads.refreshes right.telemetryState]
  constructor
  · constructor
    · exact alike.globals.telemetryPaused
    · exact alike.globals.lastTimestamp
    · exact telemetry
    · exact alike.globals.gameLog
    · rfl
  · rw [updated_simulator, updated_simulator, telemetry]
    exact alike.loads.updated right.telemetryState
  · rw [updated_simulator, updated_simulator]
  · rw [updated_line left alike.lines.leftHealthy, updated_line right alike.lines.rightHealthy,
      batches]
    exact alike.lines.sendAll rfl

theorem Alike.frameStart (alike : Alike leftBase rightBase left right) (info : FrameStart) :
    Alike leftBase rightBase (left.frameStarted info) (right.frameStarted info) := by
  have globals := alike.globals
  constructor
  · constructor
    · exact globals.telemetryPaused
    · rfl
    · unfold frameStarted
      rw [globals.lastTimestamp, globals.telemetryState]
    · exact globals.gameLog
    · exact globals.ffbRateCount
  · exact alike.loads
  · exact alike.playing
  · exact alike.lines

theorem Alike.frameEnd (alike : Alike leftBase rightBase left right) :
    Option.Rel (Alike leftBase rightBase) (step left .frameEnd) (step right .frameEnd) := by
  have globals := alike.globals
  have present := alike.loads.present
  have rightPresent : right.simulator.wheel.device.isPresent = true := by
    rw [← alike.loads.device]
    exact present
  rcases Bool.eq_false_or_eq_true left.telemetryPaused with paused | running
  · have rightPaused := globals.telemetryPaused.symm.trans paused
    rw [step_frameEnd_of_paused left paused, step_frameEnd_of_paused right rightPaused]
    exact .some alike
  · have rightRunning := globals.telemetryPaused.symm.trans running
    by_cases reached : left.ffbRateCount - 1 = 0
    · have rightReached : right.ffbRateCount - 1 = 0 := by
        rw [← globals.ffbRateCount]
        exact reached
      rw [step_frameEnd_of_due left ⟨running, present, reached⟩,
        step_frameEnd_of_due right ⟨rightRunning, rightPresent, rightReached⟩]
      exact .some alike.updated
    · have rightReached : right.ffbRateCount - 1 ≠ 0 := by
        rw [← globals.ffbRateCount]
        exact reached
      rw [step_frameEnd_of_waiting left running present reached,
        step_frameEnd_of_waiting right rightRunning rightPresent rightReached]
      refine .some ⟨?_, alike.loads, alike.playing, alike.lines⟩
      constructor
      · exact globals.telemetryPaused
      · exact globals.lastTimestamp
      · exact globals.telemetryState
      · exact globals.gameLog
      · exact congrArg (fun count => count - 1) globals.ffbRateCount

theorem Alike.paused (alike : Alike leftBase rightBase left right) :
    Option.Rel (Alike leftBase rightBase) (step left .paused) (step right .paused) := by
  have globals := alike.globals
  have loads := alike.loads
  have rightPresent : right.simulator.wheel.device.isPresent = true := by
    rw [← loads.device]
    exact loads.present
  cases logging : left.gameLog with
  | false =>
      have rightLogging := globals.gameLog.symm.trans logging
      rw [step_paused_of_null left logging, step_paused_of_null right rightLogging]
      exact .none
  | true =>
      have rightLogging := globals.gameLog.symm.trans logging
      have batches : left.resetBatches = right.resetBatches := by
        unfold resetBatches
        rw [loads.protocol]
      have reset : Alike leftBase rightBase
          (({ left with telemetryPaused := true } : Plugin F).withRig left.resetRig)
          (({ right with telemetryPaused := true } : Plugin F).withRig right.resetRig) := by
        rw [resetRig_eq alike.lines.leftHealthy loads.leftKept.emptyQueue loads.present,
          resetRig_eq alike.lines.rightHealthy loads.rightKept.emptyQueue rightPresent, batches]
        refine ⟨?_, loads.stopped, rfl, alike.lines.sendAll rfl⟩
        constructor
        · rfl
        · exact globals.lastTimestamp
        · exact globals.telemetryState
        · exact globals.gameLog
        · exact globals.ffbRateCount
      rw [step_paused left logging, step_paused right rightLogging]
      exact .some (reset.log _ _)

theorem Alike.started (alike : Alike leftBase rightBase left right) :
    Option.Rel (Alike leftBase rightBase) (step left .started) (step right .started) := by
  have globals := alike.globals
  cases logging : left.gameLog with
  | false =>
      have rightLogging := globals.gameLog.symm.trans logging
      rw [step_started_of_null left logging, step_started_of_null right rightLogging]
      exact .none
  | true =>
      have rightLogging := globals.gameLog.symm.trans logging
      have running : Alike leftBase rightBase ({ left with telemetryPaused := false } : Plugin F)
          { right with telemetryPaused := false } := by
        refine ⟨?_, alike.loads, alike.playing, alike.lines⟩
        exact { globals with telemetryPaused := rfl }
      rw [step_started left logging, step_started right rightLogging]
      exact .some (running.log _ _)

theorem alike_of_initialized {version : U32} {params : InitParams}
    (accepted : Accepted version params) (loads : SameLoads left.simulator right.simulator)
    (count : left.ffbRateCount = right.ffbRateCount)
    (lines : SameSent leftBase rightBase left.line right.line) :
    ∃ leftOpened rightOpened,
      (scsTelemetryInit version params).run left = some (.ok, leftOpened) ∧
      (scsTelemetryInit version params).run right = some (.ok, rightOpened) ∧
      Alike leftBase rightBase leftOpened rightOpened := by
  have rightPresent : right.simulator.wheel.device.isPresent = true := by
    rw [← loads.device]
    exact loads.present
  obtain ⟨leftTexts, leftInit⟩ :=
    scsTelemetryInit_run_of_healthy accepted left lines.leftHealthy loads.present
  obtain ⟨rightTexts, rightInit⟩ :=
    scsTelemetryInit_run_of_healthy accepted right lines.rightHealthy rightPresent
  have alike : Alike leftBase rightBase left.initialized right.initialized := by
    refine ⟨?_, loads.calibrated, rfl, lines.sendAll loads.calibrations⟩
    constructor
    · rfl
    · rfl
    · rfl
    · rfl
    · exact count
  exact ⟨_, _, leftInit, rightInit, alike.log leftTexts rightTexts⟩

theorem Alike.telemetryInit (alike : Alike leftBase rightBase left right) (version : U32)
    (params : InitParams) :
    Option.Rel (Alike leftBase rightBase) (step left (.telemetryInit version params))
      (step right (.telemetryInit version params)) := by
  by_cases supported : version = SCS_TELEMETRY_VERSION_1_01
  · cases registered : eventsRegistered params with
    | false =>
        obtain ⟨leftTexts, leftInit⟩ := scsTelemetryInit_run_of_refused supported registered left
        obtain ⟨rightTexts, rightInit⟩ := scsTelemetryInit_run_of_refused supported registered right
        have noted : Alike leftBase rightBase ({ left with gameLog := true } : Plugin F)
            { right with gameLog := true } := by
          refine ⟨?_, alike.loads, alike.playing, alike.lines⟩
          exact { alike.globals with gameLog := rfl }
        rw [step_of_telemetryInit leftInit, step_of_telemetryInit rightInit]
        exact .some (noted.log leftTexts rightTexts)
    | true =>
        obtain ⟨leftOpened, rightOpened, leftInit, rightInit, opened⟩ :=
          alike_of_initialized ⟨supported, registered⟩ alike.loads alike.globals.ffbRateCount
            alike.lines
        rw [step_of_telemetryInit leftInit, step_of_telemetryInit rightInit]
        exact .some opened
  · rw [step_of_telemetryInit (scsTelemetryInit_run_of_unsupported supported params left),
      step_of_telemetryInit (scsTelemetryInit_run_of_unsupported supported params right)]
    exact .some alike

theorem Alike.channel (alike : Alike leftBase rightBase left right)
    (registration : ChannelRegistration) (value : Option (ScsValue F)) :
    Option.Rel (Alike leftBase rightBase) (step left (.channel registration value))
      (step right (.channel registration value)) := by
  rw [step_channel, step_channel, ← alike.globals.telemetryState]
  cases registration.invoke value left.telemetryState with
  | none => exact .none
  | some state =>
      refine .some ⟨?_, alike.loads, alike.playing, alike.lines⟩
      exact { alike.globals with telemetryState := rfl }

theorem Alike.step (alike : Alike leftBase rightBase left right) (callback : Callback F) :
    Option.Rel (Alike leftBase rightBase) (Plugin.step left callback)
      (Plugin.step right callback) := by
  cases callback with
  | telemetryInit version params => exact alike.telemetryInit version params
  | telemetryShutdown =>
      rw [step_telemetryShutdown, step_telemetryShutdown]
      refine .some ⟨?_, alike.loads, alike.playing, alike.lines⟩
      exact { alike.globals with gameLog := rfl }
  | frameStart info => exact .some (alike.frameStart info)
  | frameEnd => exact alike.frameEnd
  | paused => exact alike.paused
  | started => exact alike.started
  | channel registration value => exact alike.channel registration value

/-! ### Whole runs -/

theorem Alike.run (alike : Alike leftBase rightBase left right) (callbacks : List (Callback F)) :
    Option.Rel (Alike leftBase rightBase) (Plugin.run left callbacks)
      (Plugin.run right callbacks) := by
  have kept : ∀ (first second : Plugin F) (callback : Callback F), True →
      Alike leftBase rightBase first second →
        Option.Rel (Alike leftBase rightBase) (Plugin.step first callback)
          (Plugin.step second callback) :=
    fun _ _ callback _ held => held.step callback
  exact Transition.run_related kept (fun _ _ => trivial) alike

end Fffb.Plugin
