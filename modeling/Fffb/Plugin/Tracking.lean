import Fffb.Joy.WheelSilence
import Fffb.Plugin.Entry

/-
Which slots of the wheel play, at every moment of a run without failures.

The telemetry of the update that sent the last play report is carried beside
the plugin as a history value.  With it the playing slots are known: they are
those of that report's mask.
-/

namespace Fffb.Plugin

open FloatArith

variable {F : Type}

/-- The telemetry of the update at which the forces last began to play, kept
while they play. -/
def reviseBegun (note : Option (TelemetryState F)) (before after : Plugin F) :
    Option (TelemetryState F) :=
  if after.simulator.wheel.playing then
    if before.simulator.wheel.playing then note else some before.telemetryState
  else
    none

theorem reviseBegun_of_stopped (note : Option (TelemetryState F)) (before : Plugin F)
    {after : Plugin F} (stopped : after.simulator.wheel.playing = false) :
    reviseBegun note before after = none := by
  unfold reviseBegun
  rw [stopped]
  rfl

variable [FloatArith F]

def initializedRig (rig : Rig) : Rig :=
  if rig.wheel.device.isPresent then
    (Wheel.stopForces.run (Wheel.disableAutocenter.run rig).2).2
  else
    rig

theorem load_rig (devices : List HidDevice) (outcome : Nat → Bool) :
    (load devices outcome : Plugin F).rig =
      initializedRig (Wheel.construct devices (.idle outcome)) := by
  let rig := Wheel.construct devices (.idle outcome)
  let session : Simulator.Session F :=
    { simulator := { wheel := rig.wheel, prevDeflectionL := lit 0.0, prevDeflectionR := lit 0.0 }
      line := rig.line }
  change ({ wheel := (Simulator.initializeWheel.run session).2.simulator.wheel
            line := (Simulator.initializeWheel.run session).2.line } : Rig) = _
  unfold initializedRig Simulator.initializeWheel
  rw [Checked.run_of_get]
  change _ = if rig.wheel.device.isPresent then _ else _
  cases present : rig.wheel.device.isPresent with
  | false =>
      rw [if_pos (by decide), if_neg Bool.false_ne_true]
      rfl
  | true =>
      rw [if_neg (by decide), if_pos rfl]
      rfl

theorem load_wheel (devices : List HidDevice) (outcome : Nat → Bool) :
    (load devices outcome : Plugin F).simulator.wheel =
      devices.foldl Wheel.consider Wheel.initial := by
  obtain ⟨device, protocol, folded, _⟩ := Wheel.foldl_consider devices Wheel.initial
  rw [← rig_wheel, load_rig]
  unfold initializedRig
  split
  · rw [Wheel.stopForces_makes.wheel, Wheel.disableAutocenter_makes.wheel, id,
      Wheel.construct_wheel, folded]
    rfl
  · exact Wheel.construct_wheel devices _

theorem load_extends (devices : List HidDevice) (outcome : Nat → Bool) :
    (Line.idle outcome).Extends (load devices outcome : Plugin F).line := by
  have constructed := Wheel.construct_extends devices (.idle outcome)
  rw [← rig_line, load_rig]
  unfold initializedRig
  split
  · exact (constructed.trans (Wheel.disableAutocenter_makes.extends_line _)).trans
      (Wheel.stopForces_makes.extends_line _)
  · exact constructed

theorem load_delivered (devices : List HidDevice) :
    ∃ sent, (load devices fun _ => true : Plugin F).line.delivered =
        (Wheel.construct devices (.idle fun _ => true)).line.delivered ++ sent ∧
      (sent = [] ∨ ∃ protocol, sent =
        [Protocol.disableAutocenter protocol 0x0F, Protocol.stopForce protocol 0x0F]) := by
  let rig := Wheel.construct devices (.idle fun _ => true)
  have healthy : rig.line.Healthy :=
    (Wheel.construct_extends devices _).healthy Line.idle_healthy
  rw [← rig_line, load_rig]
  unfold initializedRig
  split
  · rw [Wheel.disableAutocenter_run rig healthy, Wheel.stopForces_run _ (healthy.send _)]
    refine ⟨_, ?_, Or.inr ⟨rig.wheel.protocol, rfl⟩⟩
    change ((rig.line.send _).send _).delivered = _
    rw [Line.send_delivered, Line.send_delivered, List.append_assoc]
    rfl
  · exact ⟨[], (List.append_nil _).symm, Or.inl rfl⟩

theorem forcesUpdated_rig_of_stopped (plugin : Plugin F) (healthy : plugin.line.Healthy)
    (stopped : plugin.simulator.wheel.playing = false) :
    plugin.forcesUpdated.rig =
      { wheel :=
          { (Simulator.updateEffects plugin.telemetryState plugin.simulator).wheel with
            playing := true }
        line := plugin.line.send
          [Protocol.playForce plugin.simulator.wheel.protocol plugin.telemetryState.playMask] } := by
  let rig : Rig :=
    { wheel := (Simulator.updateEffects plugin.telemetryState plugin.simulator).wheel
      line := plugin.line }
  have ran := Wheel.refreshForces_run_of_stopped rig healthy stopped
  rw [forcesUpdated_rig, ran, Simulator.updateEffects_enabledSlots]
  rfl

theorem forcesUpdated_rig_of_playing (plugin : Plugin F) (healthy : plugin.line.Healthy)
    (playing : plugin.simulator.wheel.playing = true) :
    plugin.forcesUpdated.rig =
      { wheel := (Simulator.updateEffects plugin.telemetryState plugin.simulator).wheel
        line := plugin.line.send
          ((Simulator.updateEffects plugin.telemetryState
            plugin.simulator).wheel.enabledReports Protocol.refreshForce) } := by
  let rig : Rig :=
    { wheel := (Simulator.updateEffects plugin.telemetryState plugin.simulator).wheel
      line := plugin.line }
  have ran := Wheel.refreshForces_run_of_playing rig healthy playing
  rw [forcesUpdated_rig, ran]

theorem resetByQueue_sent (rig : Rig) (healthy : rig.line.Healthy) :
    (resetByQueue.run rig).2 =
      { wheel := { rig.wheel with playing := false, reports := [] }
        line := rig.line.send (rig.wheel.reports ++ resetReports rig.wheel.protocol) } :=
  resetByQueue_makes.sent rig healthy

theorem resetReports_isLoad {protocol : FfbProtocol} {report : Report}
    (member : report ∈ resetReports protocol) : report.isLoad = false := by
  unfold resetReports at member
  simp only [List.mem_cons, List.not_mem_nil, or_false] at member
  rcases member with rfl | rfl | rfl
  · exact Protocol.disableAutocenter_isLoad _ _
  · exact Protocol.stopForce_isLoad _ _
  · exact Protocol.setLedPattern_isLoad _ _

omit [FloatArith F] in
theorem resetRig_delivered (plugin : Plugin F) (healthy : plugin.line.Healthy)
    (emptyQueue : plugin.simulator.wheel.reports = []) :
    ∃ sent, plugin.resetRig.line.delivered = plugin.line.delivered ++ sent ∧
      (sent = [] ∨ sent = resetReports plugin.simulator.wheel.protocol) := by
  have emptied : plugin.rig.wheel.reports = [] := emptyQueue
  unfold resetRig
  split
  · refine ⟨_, ?_, Or.inr rfl⟩
    rw [resetByQueue_sent plugin.rig healthy, emptied, List.nil_append, Line.send_delivered]
    rfl
  · exact ⟨[], (List.append_nil _).symm, Or.inl rfl⟩

def initialized (plugin : Plugin F) : Plugin F :=
  (({ plugin with gameLog := true } : Plugin F).withRig
    { wheel := plugin.simulator.wheel.calibrated
      line := plugin.line.sendAll plugin.simulator.wheel.calibrationBatches }).opened

theorem scsTelemetryInit_run_of_healthy {version : U32} {params : InitParams}
    (accepted : Accepted version params) (plugin : Plugin F) (healthy : plugin.line.Healthy)
    (present : plugin.simulator.wheel.device.isPresent = true) :
    ∃ texts, (scsTelemetryInit version params).run plugin =
      some (.ok, plugin.initialized.log texts) := by
  have calibrated := Wheel.calibrate_run plugin.rig healthy present
  obtain ⟨texts, ran⟩ :=
    scsTelemetryInit_run_of_calibrated accepted plugin (by rw [calibrated])
  rw [calibrated] at ran
  exact ⟨texts, ran⟩

theorem initialized_of_ok {plugin next : Plugin F} {version : U32} {params : InitParams}
    (healthy : plugin.line.Healthy)
    (succeeded : (scsTelemetryInit version params).run plugin = some (.ok, next)) :
    Accepted version params ∧ plugin.simulator.wheel.device.isPresent = true ∧
      ∃ texts, next = plugin.initialized.log texts := by
  have present := present_of_ok succeeded
  obtain ⟨accepted, _, texts, ended⟩ := telemetryInit_of_ok succeeded
  rw [Wheel.calibrate_run plugin.rig healthy present] at ended
  exact ⟨accepted, present, texts, ended⟩

abbrev stepBegun : Plugin F × Option (TelemetryState F) → Callback F →
    Option (Plugin F × Option (TelemetryState F)) :=
  Transition.annotate step reviseBegun

def startedMask (protocol : FfbProtocol) : Option (TelemetryState F) → U8
  | none => 0
  | some begun => if protocol = .logitechClassic then begun.playMask else 0

theorem startedMask_of_unsupported {protocol : FfbProtocol}
    (unsupported : protocol ≠ .logitechClassic) (note : Option (TelemetryState F)) :
    startedMask protocol note = 0 := by
  cases note with
  | none => rfl
  | some begun => exact if_neg unsupported

/-- The playing slots are the ones of the last play report. -/
structure Tracked (plugin : Plugin F) (note : Option (TelemetryState F)) : Prop where
  healthy : plugin.line.Healthy
  emptyQueue : plugin.simulator.wheel.reports = []
  flag : note.isSome = plugin.simulator.wheel.playing
  slots : ∀ slot, Slot.playing slot plugin.line.delivered =
    (startedMask plugin.simulator.wheel.protocol note).getLsbD slot

theorem Tracked.note_of_stopped {plugin : Plugin F} {note : Option (TelemetryState F)}
    (tracked : Tracked plugin note) (stopped : plugin.simulator.wheel.playing = false) :
    note = none := by
  have flag := tracked.flag
  rw [stopped] at flag
  exact Option.isNone_iff_eq_none.mp (Option.isSome_eq_false_iff.mp flag)

theorem Tracked.silent_of_none {plugin : Plugin F} (tracked : Tracked plugin none) :
    Silent plugin.line.delivered := by
  intro slot
  rw [tracked.slots]
  exact BitVec.getLsbD_zero

theorem Tracked.silent_of_unsupported {plugin : Plugin F} {note : Option (TelemetryState F)}
    (tracked : Tracked plugin note)
    (unsupported : plugin.simulator.wheel.protocol ≠ .logitechClassic) :
    Silent plugin.line.delivered := by
  intro slot
  rw [tracked.slots, startedMask_of_unsupported unsupported]
  exact BitVec.getLsbD_zero

theorem tracked_of_silent {plugin : Plugin F} (healthy : plugin.line.Healthy)
    (emptyQueue : plugin.simulator.wheel.reports = [])
    (stopped : plugin.simulator.wheel.playing = false) (silent : Silent plugin.line.delivered) :
    Tracked plugin none where
  healthy := healthy
  emptyQueue := emptyQueue
  flag := stopped.symm
  slots slot := (silent slot).trans BitVec.getLsbD_zero.symm

/-- A step that leaves the rig alone leaves the history value alone. -/
theorem Tracked.of_same_rig {plugin next : Plugin F} {note : Option (TelemetryState F)}
    (tracked : Tracked plugin note) (same : next.rig = plugin.rig) :
    Tracked next (reviseBegun note plugin next) := by
  have sameWheel : next.simulator.wheel = plugin.simulator.wheel := congrArg Rig.wheel same
  have sameLine : next.line = plugin.line := congrArg Rig.line same
  have sameNote : reviseBegun note plugin next = note := by
    unfold reviseBegun
    rw [sameWheel]
    cases playing : plugin.simulator.wheel.playing with
    | true => rfl
    | false => exact (tracked.note_of_stopped playing).symm
  rw [sameNote]
  constructor
  · rw [sameLine]
    exact tracked.healthy
  · rw [sameWheel]
    exact tracked.emptyQueue
  · rw [sameWheel]
    exact tracked.flag
  · rw [sameWheel, sameLine]
    exact tracked.slots

theorem Tracked.of_calibrated {plugin next : Plugin F} {note : Option (TelemetryState F)}
    (tracked : Tracked plugin note)
    (calibrated : next.rig = (Wheel.calibrate.run plugin.rig).2) :
    Tracked next (reviseBegun note plugin next) := by
  cases present : plugin.rig.wheel.device.isPresent with
  | false =>
      rw [Wheel.calibrate_run_of_absent plugin.rig present] at calibrated
      exact tracked.of_same_rig calibrated
  | true =>
      have silent := Wheel.calibrate_silent plugin.rig tracked.healthy
        (fun unsupported => tracked.silent_of_unsupported unsupported) present
      have ran := Wheel.calibrate_run plugin.rig tracked.healthy present
      rw [← calibrated] at silent
      rw [ran] at calibrated
      have wheel : next.simulator.wheel = plugin.simulator.wheel.calibrated :=
        congrArg Rig.wheel calibrated
      have line : next.line = plugin.line.sendAll plugin.simulator.wheel.calibrationBatches :=
        congrArg Rig.line calibrated
      have stopped : next.simulator.wheel.playing = false := by
        rw [wheel]
        rfl
      rw [reviseBegun_of_stopped note plugin stopped]
      apply tracked_of_silent
      · rw [line]
        exact tracked.healthy.sendAll _
      · rw [wheel]
        exact tracked.emptyQueue
      · exact stopped
      · exact silent

theorem Tracked.of_reset {plugin next : Plugin F} {note : Option (TelemetryState F)}
    (tracked : Tracked plugin note) (reset : next.rig = plugin.resetRig) :
    Tracked next (reviseBegun note plugin next) := by
  unfold resetRig at reset
  cases present : plugin.simulator.wheel.device.isPresent with
  | false =>
      rw [present, if_neg Bool.false_ne_true] at reset
      exact tracked.of_same_rig reset
  | true =>
      rw [present, if_pos rfl, resetByQueue_sent plugin.rig tracked.healthy] at reset
      have wheel : next.simulator.wheel =
          { plugin.simulator.wheel with playing := false, reports := [] } :=
        congrArg Rig.wheel reset
      have line : next.line = _ := congrArg Rig.line reset
      have stopped : next.simulator.wheel.playing = false := by
        rw [wheel]
      rw [reviseBegun_of_stopped note plugin stopped]
      apply tracked_of_silent
      · rw [line]
        exact tracked.healthy.send _
      · rw [wheel]
      · exact stopped
      · have emptied : plugin.rig.wheel.reports = [] := tracked.emptyQueue
        unfold resetReports at line
        rw [line, Line.send_delivered, emptied, List.nil_append, ← List.singleton_append,
          ← List.append_assoc]
        apply silent_append_stop
        · intro unsupported
          apply (tracked.silent_of_unsupported unsupported).append_quiet
          exact Report.quiet_singleton (Protocol.disableAutocenter_quiet _ _)
        · exact Report.quiet_singleton (Protocol.setLedPattern_quiet _ _)

/-! ### Updates -/

/-- When `update_forces` returns, the forces play with the mask of the update
at which they began, which is this one unless they played already. -/
theorem Tracked.forcesUpdated {plugin : Plugin F} {note : Option (TelemetryState F)}
    (tracked : Tracked plugin note) :
    Tracked plugin.forcesUpdated (some (note.getD plugin.telemetryState)) := by
  have flag := tracked.flag
  have slots := tracked.slots
  cases playing : plugin.simulator.wheel.playing with
  | false =>
      have absent := tracked.note_of_stopped playing
      subst absent
      have after := forcesUpdated_rig_of_stopped plugin tracked.healthy playing
      have wheel : plugin.forcesUpdated.simulator.wheel = _ := congrArg Rig.wheel after
      have line : plugin.forcesUpdated.line = _ := congrArg Rig.line after
      constructor
      · rw [line]
        exact tracked.healthy.send _
      · rw [wheel]
        exact tracked.emptyQueue
      · rw [wheel]
        rfl
      · intro slot
        rw [line, wheel, Line.send_delivered]
        change _ = (if plugin.simulator.wheel.protocol = .logitechClassic then
          plugin.telemetryState.playMask else 0).getLsbD slot
        by_cases classic : plugin.simulator.wheel.protocol = .logitechClassic
        · rw [if_pos classic, classic]
          exact Slot.playing_append_play slot _ _ (tracked.silent_of_none slot)
        · rw [if_neg classic, Protocol.playForce_of_unsupported classic]
          have silent := tracked.silent_of_none.append_quiet
            (Report.quiet_singleton Report.empty_quiet)
          exact (silent slot).trans BitVec.getLsbD_zero.symm
  | true =>
      rw [playing] at flag
      obtain ⟨begun, rfl⟩ := Option.isSome_iff_exists.mp flag
      have after := forcesUpdated_rig_of_playing plugin tracked.healthy playing
      have wheel : plugin.forcesUpdated.simulator.wheel = _ := congrArg Rig.wheel after
      have line : plugin.forcesUpdated.line = _ := congrArg Rig.line after
      constructor
      · rw [line]
        exact tracked.healthy.send _
      · rw [wheel]
        exact tracked.emptyQueue
      · rw [wheel]
        exact playing.symm
      · intro slot
        rw [line, wheel, Line.send_delivered, Slot.playing_append_quiet slot _ _
          (Wheel.enabledReports_quiet _ Protocol.refreshForce_quiet)]
        exact slots slot

theorem Tracked.of_updated {plugin : Plugin F} {note : Option (TelemetryState F)}
    (tracked : Tracked plugin note) :
    Tracked plugin.updated (reviseBegun note plugin plugin.updated) := by
  have forces := tracked.forcesUpdated
  have ran := Wheel.setLedPattern_run plugin.forcesUpdated.rig forces.healthy
    (ledPattern plugin.telemetryState.rpm)
  have wheel := updated_wheel plugin
  have line : plugin.updated.line = plugin.forcesUpdated.line.send
      [Protocol.setLedPattern plugin.forcesUpdated.simulator.wheel.protocol
        (ledPattern plugin.telemetryState.rpm)] := by
    rw [← rig_line, updated_rig, ran]
    rfl
  have playing : plugin.updated.simulator.wheel.playing = true := by
    rw [wheel]
    exact forces.flag.symm
  have begun : reviseBegun note plugin plugin.updated =
      some (note.getD plugin.telemetryState) := by
    have flag := tracked.flag
    unfold reviseBegun
    rw [playing, if_pos rfl]
    cases note with
    | none =>
        rw [← flag]
        rfl
    | some begun =>
        rw [← flag]
        rfl
  rw [begun]
  constructor
  · rw [line]
    exact forces.healthy.send _
  · rw [wheel]
    exact forces.emptyQueue
  · rw [wheel]
    exact forces.flag
  · intro slot
    rw [line, wheel, Line.send_delivered, Slot.playing_append_quiet slot _ _
      (Report.quiet_singleton (Protocol.setLedPattern_quiet _ _))]
    exact forces.slots slot

/-! ### Whole runs -/

theorem Tracked.step {plugin next : Plugin F} {note : Option (TelemetryState F)}
    {callback : Callback F} (tracked : Tracked plugin note)
    (stepped : Plugin.step plugin callback = some next) :
    Tracked next (reviseBegun note plugin next) := by
  rcases step_rig stepped with ⟨_, same⟩ | ⟨_, _, _, calibrated⟩ | ⟨_, reset⟩ | ⟨_, _, rfl⟩
  · exact tracked.of_same_rig same
  · exact tracked.of_calibrated calibrated
  · exact tracked.of_reset reset
  · exact tracked.of_updated

theorem load_tracked (devices : List HidDevice) :
    Tracked (load devices fun _ => true : Plugin F) none := by
  obtain ⟨device, protocol, folded, _⟩ := Wheel.foldl_consider devices Wheel.initial
  have wheel := (load_wheel (F := F) devices fun _ => true).trans folded
  have constructed : Silent (Wheel.construct devices (.idle fun _ => true)).line.delivered :=
    silent_nil.append_quiet (Wheel.construct_quiet devices _)
  apply tracked_of_silent
  · exact (load_extends devices _).healthy Line.idle_healthy
  · rw [wheel]
    rfl
  · rw [wheel]
    rfl
  · obtain ⟨sent, delivered, rfl | ⟨protocol, rfl⟩⟩ := load_delivered (F := F) devices
    · rw [delivered, List.append_nil]
      exact constructed
    · rw [delivered, ← List.singleton_append, ← List.append_assoc]
      apply silent_append_stop
      · intro _
        exact constructed.append_quiet
          (Report.quiet_singleton (Protocol.disableAutocenter_quiet _ _))
      · intro _ absent
        cases absent

theorem run_tracked {devices : List HidDevice} {callbacks : List (Callback F)}
    {noted : Plugin F × Option (TelemetryState F)}
    (reached : Transition.run stepBegun (load devices fun _ => true, none) callbacks =
      some noted) : Tracked noted.1 noted.2 := by
  have kept : ∀ (before : Plugin F × Option (TelemetryState F)) (callback : Callback F)
      (after : Plugin F × Option (TelemetryState F)),
      Tracked before.1 before.2 → stepBegun before callback = some after →
        Tracked after.1 after.2 := by
    intro before callback after tracked stepped
    obtain ⟨next, single, rfl⟩ := Option.map_eq_some_iff.mp stepped
    exact tracked.step single
  exact Transition.run_preserves kept (load_tracked devices) reached

theorem exists_tracked {devices : List HidDevice} {callbacks : List (Callback F)}
    {plugin : Plugin F} (reached : run (load devices fun _ => true) callbacks = some plugin) :
    ∃ note, Tracked plugin note := by
  have noted : ∃ note, Transition.run stepBegun (load devices fun _ => true, none) callbacks =
      some (plugin, note) := Transition.exists_note none reached
  obtain ⟨note, ends⟩ := noted
  exact ⟨note, run_tracked ends⟩

end Fffb.Plugin
