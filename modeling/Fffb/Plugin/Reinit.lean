import Fffb.Force.Runs
import Fffb.Plugin.Alike

/-
What a new session keeps of the old one.

An initialization sets the telemetry, the pause and the timestamps anew.  It
keeps the position in the update cycle, the suspension deflections, and the
effects as the last update left them, which its own calibration then loads.
-/

namespace Fffb.Plugin

open FloatArith

variable {F : Type} [FloatArith F]

/-- The reports that got to the device between two states of a run. -/
def sentSince (before after : Plugin F) : List Report :=
  after.line.delivered.drop before.line.delivered.length

/-- Two initializations send the same, and so does whatever follows them. -/
def Indistinguishable (left leftOpened right rightOpened : Plugin F) : Prop :=
  sentSince left leftOpened = sentSince right rightOpened ∧
    ∀ callbacks, (run leftOpened callbacks).map (sentSince leftOpened) =
      (run rightOpened callbacks).map (sentSince rightOpened)

/-- The states agree in all that an initialization keeps and a report can
show. -/
structure Leakless (left right : Plugin F) : Prop where
  count : left.ffbRateCount = right.ffbRateCount
  pair : left.simulator.wheel.downloads [.spring, .damper] =
    right.simulator.wheel.downloads [.spring, .damper]
  trapezoid : left.simulator.wheel.downloads [.trapezoid] =
    right.simulator.wheel.downloads [.trapezoid]
  deflections : ∀ telemetry,
    trapezoidLoad left.simulator telemetry = trapezoidLoad right.simulator telemetry

omit [FloatArith F] in
theorem sentSince_of_append {before after : Plugin F} {reports : List Report}
    (longer : after.line.delivered = before.line.delivered ++ reports) :
    sentSince before after = reports := by
  unfold sentSince
  rw [longer, List.drop_left]

def reportedTelemetry (telemetry : TelemetryState F) : List (Callback F) :=
  [.channel channelRegistrations[1] (some (.float telemetry.speed)),
    .channel channelRegistrations[8] (some (.u32 telemetry.substanceL)),
    .channel channelRegistrations[9] (some (.u32 telemetry.substanceR)),
    .channel channelRegistrations[11] (some (.float telemetry.suspensionDeflectionL)),
    .channel channelRegistrations[12] (some (.float telemetry.suspensionDeflectionR))]

def observed (telemetry current : TelemetryState F) : TelemetryState F :=
  { current with
    speed := telemetry.speed
    substanceL := telemetry.substanceL
    substanceR := telemetry.substanceR
    suspensionDeflectionL := telemetry.suspensionDeflectionL
    suspensionDeflectionR := telemetry.suspensionDeflectionR }

theorem trapezoidLoad_observed (simulator : Simulator F) (telemetry current : TelemetryState F) :
    trapezoidLoad simulator (observed telemetry current) = trapezoidLoad simulator telemetry := by
  apply Wheel.downloads_congr
  · rfl
  · intro effect member
    rw [List.mem_singleton.mp member]
    rfl

def drive (telemetry : TelemetryState F) (frames : Nat) : List (Callback F) :=
  .started :: reportedTelemetry telemetry ++ List.replicate frames .frameEnd

def driving (telemetry : TelemetryState F) (frames : Nat) (plugin : Plugin F) : Plugin F :=
  { plugin with
    telemetryPaused := false
    telemetryState := observed telemetry plugin.telemetryState
    ffbRateCount := plugin.ffbRateCount - frames }

theorem run_frames {plugin : Plugin F} (running : plugin.telemetryPaused = false)
    (present : plugin.simulator.wheel.device.isPresent = true) (frames : Nat)
    (waiting : (frames : Int) < plugin.ffbRateCount) :
    run plugin (List.replicate frames .frameEnd) =
      some { plugin with ffbRateCount := plugin.ffbRateCount - frames } := by
  induction frames generalizing plugin with
  | zero =>
      change some plugin = some { plugin with ffbRateCount := plugin.ffbRateCount - 0 }
      rw [Int.sub_zero]
  | succ frames ih =>
      have notYet : plugin.ffbRateCount - 1 ≠ 0 := by omega
      have later := @ih { plugin with ffbRateCount := plugin.ffbRateCount - 1 } running present
        (by
          change (frames : Int) < plugin.ffbRateCount - 1
          omega)
      have count : plugin.ffbRateCount - 1 - (frames : Int) =
          plugin.ffbRateCount - ((frames + 1 : Nat) : Int) := by
        omega
      unfold run at later ⊢
      rw [List.replicate_succ, Transition.run_cons,
        step_frameEnd_of_waiting plugin running present notYet, Option.bind_some, later]
      dsimp only
      rw [count]

/-- A callback that stores passes the rest of the plugin on. -/
theorem run_channel_cons (plugin : Plugin F) {registration : ChannelRegistration}
    {value : Option (ScsValue F)} {state : TelemetryState F} (next : TelemetryState F)
    (stored : registration.invoke value state = some next) (rest : List (Callback F)) :
    Transition.run step { plugin with telemetryState := state }
        (.channel registration value :: rest) =
      Transition.run step { plugin with telemetryState := next } rest := by
  rw [Transition.run_cons, step_channel, stored]
  rfl

theorem run_reportedTelemetry (telemetry : TelemetryState F) (plugin : Plugin F) :
    Transition.run step plugin (reportedTelemetry telemetry) =
      some { plugin with telemetryState := observed telemetry plugin.telemetryState } := by
  let moving : TelemetryState F := { plugin.telemetryState with speed := telemetry.speed }
  let left : TelemetryState F := { moving with substanceL := telemetry.substanceL }
  let right : TelemetryState F := { left with substanceR := telemetry.substanceR }
  let deflected : TelemetryState F :=
    { right with suspensionDeflectionL := telemetry.suspensionDeflectionL }
  let whole : TelemetryState F :=
    { deflected with suspensionDeflectionR := telemetry.suspensionDeflectionR }
  unfold reportedTelemetry
  calc Transition.run step plugin _
      = _ := run_channel_cons plugin moving rfl _
    _ = _ := run_channel_cons plugin left rfl _
    _ = _ := run_channel_cons plugin right rfl _
    _ = _ := run_channel_cons plugin deflected rfl _
    _ = _ := run_channel_cons plugin whole rfl _
    _ = _ := rfl

theorem run_drive {plugin : Plugin F} (logging : plugin.gameLog = true)
    (present : plugin.simulator.wheel.device.isPresent = true) (telemetry : TelemetryState F)
    (frames : Nat) (waiting : (frames : Int) < plugin.ffbRateCount) :
    ∃ texts, run plugin (drive telemetry frames) =
      some ((driving telemetry frames plugin).log texts) := by
  let ready : Plugin F := ({ plugin with
    telemetryPaused := false
    telemetryState := observed telemetry plugin.telemetryState } : Plugin F).log
      [(.message, "fffb::info : telemetry unpaused, resuming force feedback")]
  have started : Transition.run step plugin (.started :: reportedTelemetry telemetry) =
      some ready := by
    rw [Transition.run_cons, step_started plugin logging, Option.bind_some, run_reportedTelemetry]
    rfl
  have framed := @run_frames F _ ready rfl present frames waiting
  refine ⟨[(.message, "fffb::info : telemetry unpaused, resuming force feedback")], ?_⟩
  unfold run at framed ⊢
  unfold drive
  rw [Transition.run_append, started]
  exact framed

theorem run_drive_update {plugin : Plugin F} (logging : plugin.gameLog = true)
    (present : plugin.simulator.wheel.device.isPresent = true) (telemetry : TelemetryState F)
    (frames : Nat) (due : (frames : Int) + 1 = plugin.ffbRateCount) :
    ∃ ready : Plugin F, run plugin (drive telemetry (frames + 1)) = some ready.updated ∧
      ready.simulator = plugin.simulator ∧ ready.line = plugin.line ∧
      ready.telemetryState = observed telemetry plugin.telemetryState := by
  obtain ⟨texts, reached⟩ := run_drive logging present telemetry frames (by omega)
  refine ⟨(driving telemetry frames plugin).log texts, ?_, rfl, rfl, rfl⟩
  have split : drive telemetry (frames + 1) = drive telemetry frames ++ [.frameEnd] := by
    unfold drive
    rw [List.replicate_succ', List.cons_append, List.cons_append, List.cons_append,
      ← List.append_assoc]
  have reset : UpdateDue ((driving telemetry frames plugin).log texts) := by
    refine ⟨rfl, present, ?_⟩
    change plugin.ffbRateCount - frames - 1 = 0
    omega
  rw [split]
  exact Transition.run_through reached (step_frameEnd_of_due _ reset) rfl

theorem updateBatches_nonempty (plugin : Plugin F) : plugin.updateBatches.flatten ≠ [] := by
  intro empty
  have member : Protocol.setLedPattern plugin.simulator.wheel.protocol
      (ledPattern plugin.telemetryState.rpm) ∈ plugin.updateBatches.flatten := by
    unfold updateBatches
    rw [List.flatten_cons]
    exact List.mem_append_right _ List.mem_cons_self
  rw [empty] at member
  cases member

/-! ### What reports reveal -/

theorem Indistinguishable.symm {left leftOpened right rightOpened : Plugin F}
    (same : Indistinguishable left leftOpened right rightOpened) :
    Indistinguishable right rightOpened left leftOpened :=
  ⟨same.1.symm, fun callbacks => (same.2 callbacks).symm⟩

/-- The session that is closer to its update shows it. -/
theorem Indistinguishable.count_le {left leftOpened right rightOpened : Plugin F}
    (same : Indistinguishable left leftOpened right rightOpened)
    (leftLogging : leftOpened.gameLog = true) (rightLogging : rightOpened.gameLog = true)
    (leftPresent : leftOpened.simulator.wheel.device.isPresent = true)
    (rightPresent : rightOpened.simulator.wheel.device.isPresent = true)
    (healthy : leftOpened.line.Healthy) (counting : Counting leftOpened) :
    rightOpened.ffbRateCount ≤ leftOpened.ffbRateCount := by
  by_contra smaller
  obtain ⟨frames, due⟩ := counting.exists_frames
  obtain ⟨ready, leftReached, _, sameLine, _⟩ :=
    run_drive_update leftLogging leftPresent .zeroed frames due
  obtain ⟨texts, rightReached⟩ :=
    run_drive rightLogging rightPresent .zeroed (frames + 1) (by omega)
  have reports := same.2 (drive .zeroed (frames + 1))
  have updated : sentSince leftOpened ready.updated = ready.updateBatches.flatten := by
    apply sentSince_of_append
    rw [← sameLine, updated_line ready (by rw [sameLine]; exact healthy), Line.sendAll_delivered]
  have nothing : sentSince rightOpened
      ((driving .zeroed (frames + 1) rightOpened).log texts) = [] := by
    apply sentSince_of_append
    rw [List.append_nil]
    rfl
  rw [leftReached, rightReached, Option.map_some, Option.map_some, updated, nothing] at reports
  exact updateBatches_nonempty ready (Option.some.inj reports)

theorem updated_trapezoid {plugin ready : Plugin F} {telemetry : TelemetryState F}
    (sameSimulator : ready.simulator = plugin.initialized.simulator)
    (sameTelemetry : ready.telemetryState =
      observed telemetry plugin.initialized.telemetryState) :
    ready.updated.simulator.wheel.downloads [.trapezoid] =
      trapezoidLoad plugin.simulator telemetry := by
  have flagged : ready.updated.simulator.wheel.downloads [.trapezoid] =
      (Simulator.updateEffects ready.telemetryState ready.simulator).wheel.downloads
        [.trapezoid] := by
    rw [updated_simulator]
    rfl
  rw [flagged, updateEffects_trapezoid, sameTelemetry, trapezoidLoad_observed, sameSimulator]
  apply trapezoidLoad_congr
  · rfl
  · rfl
  · rfl

/-- A second initialization right after the first update shows the trapezoid
that this update made. -/
theorem run_probe {plugin opened : Plugin F} {version : U32} {params : InitParams}
    (healthy : plugin.line.Healthy) (kept : WellKept plugin.simulator.wheel)
    (succeeded : (scsTelemetryInit version params).run plugin = some (.ok, opened))
    (telemetry : TelemetryState F) (frames : Nat)
    (due : (frames : Int) + 1 = plugin.ffbRateCount) :
    ∃ first pair, first.length = 2 ∧ (∀ report ∈ pair, report.opcode = 0) ∧
      (run opened (drive telemetry (frames + 1) ++ [.telemetryInit version params])).map
          (sentSince opened) =
        some (first ++ Wheel.calibrationTrace plugin.simulator.wheel.protocol pair
          (trapezoidLoad plugin.simulator telemetry)) := by
  obtain ⟨accepted, present, texts, rfl⟩ := initialized_of_ok healthy succeeded
  have openedHealthy : (plugin.initialized.log texts).line.Healthy := healthy.sendAll _
  obtain ⟨ready, reached, sameSimulator, sameLine, sameTelemetry⟩ :=
    @run_drive_update F _ (plugin.initialized.log texts) rfl present telemetry frames due
  obtain ⟨device, protocol, longer⟩ := run_sameDevice reached
  have readyHealthy : ready.line.Healthy := by
    rw [sameLine]
    exact openedHealthy
  have updatedKept : WellKept ready.updated.simulator.wheel := by
    have readyKept : WellKept ready.simulator.wheel := by
      rw [sameSimulator]
      exact kept.calibrated
    rw [updated_simulator]
    exact readyKept.updated ready.telemetryState
  have updatedPresent : ready.updated.simulator.wheel.device.isPresent = true :=
    (congrArg HidDevice.isPresent device).trans present
  have sameProtocol : ready.updated.simulator.wheel.protocol = plugin.simulator.wheel.protocol :=
    protocol
  obtain ⟨more, again⟩ := scsTelemetryInit_run_of_healthy accepted ready.updated
    (longer.healthy openedHealthy) updatedPresent
  have whole : run (plugin.initialized.log texts)
      (drive telemetry (frames + 1) ++ [.telemetryInit version params]) =
        some (ready.updated.initialized.log more) :=
    Transition.run_through reached (step_of_telemetryInit again) rfl
  refine ⟨ready.updateBatches.flatten, ready.updated.simulator.wheel.downloads [.spring, .damper],
    ?_, fun _ member => Wheel.downloads_opcode member, ?_⟩
  · unfold updateBatches
    rw [sameSimulator]
    rfl
  · rw [whole, Option.map_some]
    apply congrArg some
    apply sentSince_of_append
    change (ready.updated.line.sendAll ready.updated.simulator.wheel.calibrationBatches).delivered = _
    rw [Line.sendAll_delivered, updated_line ready readyHealthy, Line.sendAll_delivered, sameLine,
      Wheel.calibrationBatches_trace updatedKept.slots, sameProtocol,
      updated_trapezoid sameSimulator sameTelemetry, List.append_assoc]

/-! ### Sessions that cannot be told apart -/

theorem sentSince_initialized {plugin opened : Plugin F} {version : U32} {params : InitParams}
    (healthy : plugin.line.Healthy) (kept : WellKept plugin.simulator.wheel)
    (succeeded : (scsTelemetryInit version params).run plugin = some (.ok, opened)) :
    sentSince plugin opened =
      Wheel.calibrationTrace plugin.simulator.wheel.protocol
        (plugin.simulator.wheel.downloads [.spring, .damper])
        (plugin.simulator.wheel.downloads [.trapezoid]) := by
  obtain ⟨_, _, texts, rfl⟩ := initialized_of_ok healthy succeeded
  rw [← Wheel.calibrationBatches_trace kept.slots]
  apply sentSince_of_append
  exact Line.sendAll_delivered _ _

theorem Alike.sentSince_run {leftBase rightBase : List Report} {left right : Plugin F}
    (alike : Alike leftBase rightBase left right) (callbacks : List (Callback F)) :
    (Plugin.run left callbacks).map (sentSince left) =
      (Plugin.run right callbacks).map (sentSince right) := by
  have lines := SameSent.start alike.lines.leftHealthy alike.lines.rightHealthy
  have fromHere : Alike left.line.delivered right.line.delivered left right :=
    ⟨alike.globals, alike.loads, alike.playing, lines⟩
  have related := fromHere.run callbacks
  revert related
  cases Plugin.run left callbacks <;> cases Plugin.run right callbacks <;> intro related
  · rfl
  · cases related
  · cases related
  · cases related with
    | some later =>
        obtain ⟨reports, leftSent, rightSent⟩ := later.lines.sent
        rw [Option.map_some, Option.map_some, sentSince_of_append leftSent,
          sentSince_of_append rightSent]

/-- Two initializations on one wheel that both succeed without failures. -/
structure Reopened (version : U32) (params : InitParams)
    (left leftOpened right rightOpened : Plugin F) : Prop where
  leftReachable : Reachable left
  rightReachable : Reachable right
  leftHealthy : left.line.Healthy
  rightHealthy : right.line.Healthy
  sameDevice : left.simulator.wheel.device = right.simulator.wheel.device
  leftInit : (scsTelemetryInit version params).run left = some (.ok, leftOpened)
  rightInit : (scsTelemetryInit version params).run right = some (.ok, rightOpened)

section

variable {version : U32} {params : InitParams} {left leftOpened right rightOpened : Plugin F}

theorem Reopened.sameProtocol (both : Reopened version params left leftOpened right rightOpened) :
    left.simulator.wheel.protocol = right.simulator.wheel.protocol := by
  obtain ⟨_, leftPresent, _⟩ := initialized_of_ok both.leftHealthy both.leftInit
  obtain ⟨_, rightPresent, _⟩ := initialized_of_ok both.rightHealthy both.rightInit
  rw [both.leftReachable.kept.1.supported leftPresent,
    both.rightReachable.kept.1.supported rightPresent, both.sameDevice]

theorem Reopened.loads (both : Reopened version params left leftOpened right rightOpened)
    (same : Indistinguishable left leftOpened right rightOpened) :
    left.simulator.wheel.downloads [.spring, .damper] =
        right.simulator.wheel.downloads [.spring, .damper] ∧
      left.simulator.wheel.downloads [.trapezoid] =
        right.simulator.wheel.downloads [.trapezoid] := by
  have sent := same.1
  rw [sentSince_initialized both.leftHealthy both.leftReachable.kept.1 both.leftInit,
    sentSince_initialized both.rightHealthy both.rightReachable.kept.1 both.rightInit,
    both.sameProtocol] at sent
  have isDownload : ∀ wheel : Wheel,
      ∀ report ∈ wheel.downloads [.spring, .damper] ++ wheel.downloads [.trapezoid],
        report.opcode = 0 := by
    intro wheel report member
    rw [← Wheel.downloads_append] at member
    exact Wheel.downloads_opcode member
  exact Wheel.calibrationTrace_injective (isDownload _) (isDownload _) sent

theorem Reopened.count (both : Reopened version params left leftOpened right rightOpened)
    (same : Indistinguishable left leftOpened right rightOpened) :
    left.ffbRateCount = right.ffbRateCount := by
  obtain ⟨_, leftPresent, _, rfl⟩ := initialized_of_ok both.leftHealthy both.leftInit
  obtain ⟨_, rightPresent, _, rfl⟩ := initialized_of_ok both.rightHealthy both.rightInit
  have upper := same.count_le rfl rfl leftPresent rightPresent (both.leftHealthy.sendAll _)
    both.leftReachable.kept.2
  have lower := same.symm.count_le rfl rfl rightPresent leftPresent (both.rightHealthy.sendAll _)
    both.rightReachable.kept.2
  exact Int.le_antisymm lower upper

/-- A second initialization after the first update shows what the update made
of the deflections. -/
theorem Reopened.deflections (both : Reopened version params left leftOpened right rightOpened)
    (same : Indistinguishable left leftOpened right rightOpened) (telemetry : TelemetryState F) :
    trapezoidLoad left.simulator telemetry = trapezoidLoad right.simulator telemetry := by
  obtain ⟨leftKept, leftCounting⟩ := both.leftReachable.kept
  obtain ⟨rightKept, _⟩ := both.rightReachable.kept
  obtain ⟨frames, due⟩ := leftCounting.exists_frames
  obtain ⟨leftFirst, leftPair, leftLength, leftOpcode, leftRun⟩ :=
    run_probe both.leftHealthy leftKept both.leftInit telemetry frames due
  obtain ⟨rightFirst, rightPair, rightLength, rightOpcode, rightRun⟩ :=
    run_probe both.rightHealthy rightKept both.rightInit telemetry frames
      (due.trans (both.count same))
  have probed := same.2 (drive telemetry (frames + 1) ++ [.telemetryInit version params])
  rw [leftRun, rightRun, both.sameProtocol] at probed
  obtain ⟨_, traces⟩ := List.append_inj (Option.some.inj probed)
    (leftLength.trans rightLength.symm)
  have opcodes : ∀ (pair : List Report) (simulator : Simulator F),
      (∀ report ∈ pair, report.opcode = 0) →
        ∀ report ∈ pair ++ trapezoidLoad simulator telemetry, report.opcode = 0 := by
    intro pair simulator each report member
    rcases List.mem_append.mp member with inPair | inTrapezoid
    · exact each report inPair
    · exact Wheel.downloads_opcode inTrapezoid
  exact (Wheel.calibrationTrace_injective (opcodes leftPair left.simulator leftOpcode)
    (opcodes rightPair right.simulator rightOpcode) traces).2

theorem Reopened.indistinguishable
    (both : Reopened version params left leftOpened right rightOpened)
    (leakless : Leakless left right) : Indistinguishable left leftOpened right rightOpened := by
  obtain ⟨accepted, leftPresent, _⟩ := initialized_of_ok both.leftHealthy both.leftInit
  have loads : SameLoads left.simulator right.simulator :=
    { present := leftPresent
      device := both.sameDevice
      protocol := both.sameProtocol
      leftKept := both.leftReachable.kept.1
      rightKept := both.rightReachable.kept.1
      pair := leakless.pair
      trapezoid := leakless.trapezoid
      deflections := leakless.deflections }
  obtain ⟨_, _, leftAgain, rightAgain, alike⟩ := alike_of_initialized accepted loads leakless.count
    (SameSent.start both.leftHealthy both.rightHealthy)
  rw [both.leftInit] at leftAgain
  rw [both.rightInit] at rightAgain
  cases leftAgain
  cases rightAgain
  constructor
  · obtain ⟨reports, leftSent, rightSent⟩ := alike.lines.sent
    rw [sentSince_of_append leftSent, sentSince_of_append rightSent]
  · intro callbacks
    exact alike.sentSince_run callbacks

end

/-- Two initializations on the same wheel cannot be told apart by anything that
is sent, now or later, exactly when they start from states that agree in the
position of the update cycle, in the downloads of the effects that calibration
does not set, and in what their deflections make of the trapezoid. -/
theorem indistinguishable_iff {left leftOpened right rightOpened : Plugin F} {version : U32}
    {params : InitParams} (leftReachable : Reachable left) (rightReachable : Reachable right)
    (leftHealthy : left.line.Healthy) (rightHealthy : right.line.Healthy)
    (sameDevice : left.simulator.wheel.device = right.simulator.wheel.device)
    (leftInit : (scsTelemetryInit version params).run left = some (.ok, leftOpened))
    (rightInit : (scsTelemetryInit version params).run right = some (.ok, rightOpened)) :
    Indistinguishable left leftOpened right rightOpened ↔ Leakless left right := by
  have both : Reopened version params left leftOpened right rightOpened :=
    ⟨leftReachable, rightReachable, leftHealthy, rightHealthy, sameDevice, leftInit, rightInit⟩
  constructor
  · intro same
    obtain ⟨pair, trapezoid⟩ := both.loads same
    exact ⟨both.count same, pair, trapezoid, both.deflections same⟩
  · exact both.indistinguishable

theorem exists_between {near far : ℚ} (different : near ≠ far) :
    ∃ deflection, |deflection - near| ≤ 0.005 ∧ 0.005 < |deflection - far| := by
  rcases lt_or_gt_of_ne different with less | greater
  · refine ⟨near - 0.005, ?_, ?_⟩
    · rw [sub_sub_cancel_left, abs_neg, abs_of_nonneg (by norm_num)]
    · rw [abs_of_neg (by linarith)]
      linarith
  · refine ⟨near + 0.005, ?_, ?_⟩
    · rw [add_sub_cancel_left, abs_of_nonneg (by norm_num)]
    · rw [abs_of_pos (by linarith)]
      linarith

def offroadAt (deflectionL deflectionR : ℚ) : TelemetryState ℚ :=
  { TelemetryState.zeroed with
    speed := 1
    substanceL := 1
    suspensionDeflectionL := deflectionL
    suspensionDeflectionR := deflectionR }

theorem trapezoidLoad_offroadAt {simulator : Simulator ℚ}
    (classic : simulator.wheel.protocol = .logitechClassic) (deflectionL deflectionR : ℚ) :
    (trapezoidLoad simulator (offroadAt deflectionL deflectionR)).map
        (fun report => report.payload.toList[1]?) =
      [some (if 0.005 < max |deflectionL - simulator.prevDeflectionL|
          |deflectionR - simulator.prevDeflectionR| then 112 else 116)] := by
  let telemetry := offroadAt deflectionL deflectionR
  let wheel := (Simulator.updateEffects telemetry simulator).wheel
  have rough : telemetry.rough = true :=
    (TelemetryState.rough_iff _).mpr ⟨Or.inl (by change (1 : U32) ≠ 0; decide), by norm_num [telemetry, offroadAt]⟩
  have enabled : wheel.enabled .trapezoid = true := by
    rw [Simulator.updateEffects_enabled]
    exact rough
  have range := congrArg Prod.fst (Simulator.amps_updated telemetry simulator rough)
  rw [apply_ite Prod.fst] at range
  have speaks : wheel.protocol = .logitechClassic := classic
  rw [← updateEffects_trapezoid]
  change (wheel.downloads [.trapezoid]).map _ = _
  unfold Wheel.downloads
  rw [List.filter_cons_of_pos enabled, List.filter_nil, List.map_singleton, List.map_singleton,
    speaks]
  change [some wheel.trapezoid.amplitudeMax] = _
  exact congrArg (fun byte => [some byte]) range

theorem prevDeflections_eq {left right : Simulator ℚ}
    (leftClassic : left.wheel.protocol = .logitechClassic)
    (rightClassic : right.wheel.protocol = .logitechClassic)
    (same : ∀ telemetry, trapezoidLoad left telemetry = trapezoidLoad right telemetry) :
    left.prevDeflectionL = right.prevDeflectionL ∧
      left.prevDeflectionR = right.prevDeflectionR := by
  have shown : ∀ deflectionL deflectionR : ℚ,
      0.005 < max |deflectionL - left.prevDeflectionL| |deflectionR - left.prevDeflectionR| ↔
        0.005 < max |deflectionL - right.prevDeflectionL|
          |deflectionR - right.prevDeflectionR| := by
    intro deflectionL deflectionR
    have loads := same (offroadAt deflectionL deflectionR)
    have bytes := congrArg (List.map fun report => report.payload.toList[1]?) loads
    rw [trapezoidLoad_offroadAt leftClassic, trapezoidLoad_offroadAt rightClassic] at bytes
    have different : (112 : U8) ≠ 116 := by decide
    constructor
    · intro moved
      by_contra still
      rw [if_pos moved, if_neg still] at bytes
      exact different (Option.some.inj (List.singleton_inj.mp bytes))
    · intro moved
      by_contra still
      rw [if_pos moved, if_neg still] at bytes
      exact different (Option.some.inj (List.singleton_inj.mp bytes)).symm
  constructor
  · by_contra different
    obtain ⟨deflection, near, far⟩ := exists_between different
    have moved := (shown deflection left.prevDeflectionR).mpr (lt_max_of_lt_left far)
    rw [sub_self, abs_zero, max_eq_left (abs_nonneg _)] at moved
    exact absurd moved (not_lt.mpr near)
  · by_contra different
    obtain ⟨deflection, near, far⟩ := exists_between different
    have moved := (shown left.prevDeflectionL deflection).mpr (lt_max_of_lt_right far)
    rw [sub_self, abs_zero, max_eq_right (abs_nonneg _)] at moved
    exact absurd moved (not_lt.mpr near)

/-- In exact arithmetic it is the deflections themselves that show. -/
theorem leakless_iff {left right : Plugin ℚ}
    (leftClassic : left.simulator.wheel.protocol = .logitechClassic)
    (rightClassic : right.simulator.wheel.protocol = .logitechClassic) :
    Leakless left right ↔
      left.ffbRateCount = right.ffbRateCount ∧
      left.simulator.wheel.downloads [.spring, .damper] =
        right.simulator.wheel.downloads [.spring, .damper] ∧
      left.simulator.wheel.downloads [.trapezoid] =
        right.simulator.wheel.downloads [.trapezoid] ∧
      left.simulator.prevDeflectionL = right.simulator.prevDeflectionL ∧
      left.simulator.prevDeflectionR = right.simulator.prevDeflectionR := by
  constructor
  · intro leakless
    exact ⟨leakless.count, leakless.pair, leakless.trapezoid,
      prevDeflections_eq leftClassic rightClassic leakless.deflections⟩
  · rintro ⟨count, pair, trapezoid, deflectionL, deflectionR⟩
    exact
      { count := count
        pair := pair
        trapezoid := trapezoid
        deflections := trapezoidLoad_congr (leftClassic.trans rightClassic.symm) deflectionL
          deflectionR }

/-! ### A session that starts in the middle of the cycle -/

def shortSession : List (Callback ℚ) :=
  [.telemetryInit SCS_TELEMETRY_VERSION_1_01 acceptingGame, .started, .frameEnd,
    .telemetryShutdown]

def threeFrames : List (Callback ℚ) := .started :: List.replicate 3 .frameEnd

/-- After a short session the third frame makes an update, which in a fresh
plugin only the fourth makes. -/
theorem exists_restarted :
    ∃ right leftOpened rightOpened : Plugin ℚ,
      run (load [.g29] fun _ => true) shortSession = some right ∧
      (scsTelemetryInit SCS_TELEMETRY_VERSION_1_01 acceptingGame).run
        (load [.g29] fun _ => true) = some (.ok, leftOpened) ∧
      (scsTelemetryInit SCS_TELEMETRY_VERSION_1_01 acceptingGame).run right =
        some (.ok, rightOpened) ∧
      (run leftOpened threeFrames).map (sentSince leftOpened) = some [] ∧
      (run rightOpened threeFrames).map (sentSince rightOpened) ≠ some [] := by
  have fresh : ((scsTelemetryInit SCS_TELEMETRY_VERSION_1_01 acceptingGame).run
      (load [.g29] fun _ => true : Plugin ℚ)).any (fun opened =>
        decide (opened.1 = .ok) &&
          decide ((run opened.2 threeFrames).map (sentSince opened.2) = some [])) = true := by
    decide +kernel
  have restarted : (run (load [.g29] fun _ => true) shortSession).any (fun plugin =>
      ((scsTelemetryInit SCS_TELEMETRY_VERSION_1_01 acceptingGame).run plugin).any fun opened =>
        decide (opened.1 = .ok) &&
          decide ((run opened.2 threeFrames).map (sentSince opened.2) ≠ some [])) = true := by
    decide +kernel
  obtain ⟨⟨leftResult, leftOpened⟩, leftInit, leftHolds⟩ := (Option.any_eq_true _ _).mp fresh
  obtain ⟨right, reached, again⟩ := (Option.any_eq_true _ _).mp restarted
  obtain ⟨⟨rightResult, rightOpened⟩, rightInit, rightHolds⟩ := (Option.any_eq_true _ _).mp again
  simp only [Bool.and_eq_true, decide_eq_true_eq] at leftHolds rightHolds
  obtain ⟨rfl, quiet⟩ := leftHolds
  obtain ⟨rfl, loud⟩ := rightHolds
  exact ⟨right, leftOpened, rightOpened, reached, leftInit, rightInit, quiet, loud⟩

theorem restarted_plugin_differs :
    ∃ left right leftOpened rightOpened : Plugin ℚ,
      (Reachable left ∧ Reachable right ∧ left.line.Healthy ∧ right.line.Healthy) ∧
      left.simulator.wheel.device = right.simulator.wheel.device ∧
      (scsTelemetryInit SCS_TELEMETRY_VERSION_1_01 acceptingGame).run left =
        some (.ok, leftOpened) ∧
      (scsTelemetryInit SCS_TELEMETRY_VERSION_1_01 acceptingGame).run right =
        some (.ok, rightOpened) ∧
      ¬ Indistinguishable left leftOpened right rightOpened := by
  obtain ⟨right, leftOpened, rightOpened, reached, leftInit, rightInit, quiet, loud⟩ :=
    exists_restarted
  obtain ⟨_, tracked⟩ := exists_tracked reached
  refine ⟨load [.g29] fun _ => true, right, leftOpened, rightOpened,
    ⟨⟨_, _, [], rfl⟩, ⟨_, _, _, reached⟩, (load_tracked [.g29]).healthy, tracked.healthy⟩,
    (run_sameDevice reached).1.symm, leftInit, rightInit, ?_⟩
  intro same
  exact loud ((same.2 threeFrames).symm.trans quiet)

theorem indistinguishable_iff_after_shortSession :
    ∃ right leftOpened rightOpened : Plugin ℚ,
      run (load [.g29] fun _ => true) shortSession = some right ∧
      (Indistinguishable (load [.g29] fun _ => true) leftOpened right rightOpened ↔
        Leakless (load [.g29] fun _ => true) right) := by
  obtain ⟨right, leftOpened, rightOpened, reached, leftInit, rightInit, _, _⟩ := exists_restarted
  obtain ⟨_, tracked⟩ := exists_tracked reached
  exact ⟨right, leftOpened, rightOpened, reached,
    indistinguishable_iff ⟨_, _, [], rfl⟩ ⟨_, _, _, reached⟩ (load_tracked [.g29]).healthy
      tracked.healthy (run_sameDevice reached).1.symm leftInit rightInit⟩

end Fffb.Plugin
