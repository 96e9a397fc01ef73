import Fffb.Force.Runs
import Fffb.Joy.WheelContent
import Fffb.Plugin.Outline
import Fffb.Plugin.Playback
import Fffb.Plugin.Reachable

/-
What the driver feels: the outline of a session together with what the slots of
the wheel hold.

An update makes new forces.  It loads them if forces play already; the first one
after a rest only plays what the slots hold.  A calibration loads its turns and
its shake, and with them the spring and the damper of the last update.
-/

namespace Fffb

open FloatArith

structure Felt (F : Type) where
  outline : Outline F
  /-- The forces that the last update made. -/
  forces : Effect → Force
  /-- The suspension deflections that the last update saw. -/
  deflections : F × F
  /-- What the slots hold, each by the effect that the README gives it. -/
  held : Effect → Vector U8 7

namespace Felt

variable {F : Type} [FloatArith F]

def loaded (held : Effect → Vector U8 7) : Felt F :=
  { outline := .loaded
    forces := Wheel.initial.force
    deflections := (lit 0.0, lit 0.0)
    held := held }

def updated (felt : Felt F) : Felt F :=
  let telemetry := felt.outline.telemetry
  let forces := Simulator.updatedForce telemetry felt.deflections
  { felt with
    forces := forces
    deflections := (telemetry.suspensionDeflectionL, telemetry.suspensionDeflectionR)
    held := if felt.outline.begun.isSome then Slot.loaded forces felt.held else felt.held }

def calibrated (felt : Felt F) : Felt F :=
  { felt with held := Slot.calibrated felt.forces felt.held }

def after (felt : Felt F) : Callback F → Felt F
  | .telemetryInit version params =>
      if version = SCS_TELEMETRY_VERSION_1_01 ∧ Plugin.eventsRegistered params = true then
        felt.calibrated
      else felt
  | .frameEnd =>
      if felt.outline.paused = false ∧ felt.outline.framesLeft = 1 then felt.updated else felt
  | _ => felt

def step (felt : Felt F) (callback : Callback F) : Option (Felt F) :=
  (felt.outline.step callback).map fun outline => { felt.after callback with outline := outline }

end Felt

namespace Plugin

variable {F : Type} [FloatArith F]

/-- The plugin stands where the session does, its wheel plays and shows what the
outline says, and the slots hold what is felt, whatever they held at first. -/
structure Feels (before : Fin 4 → Vector U8 7) (plugin : Plugin F) (felt : Felt F) : Prop where
  shows : Shows plugin felt.outline
  held : Slot.held before plugin.line.delivered = felt.held

/-- What the slots hold, and what the wheel object and the simulator keep of
the last update for the loads to come. -/
structure Carries (before : Fin 4 → Vector U8 7) (plugin : Plugin F) (felt : Felt F) : Prop where
  spring : plugin.simulator.wheel.force .spring = felt.forces .spring
  damper : plugin.simulator.wheel.force .damper = felt.forces .damper
  deflections :
    (plugin.simulator.prevDeflectionL, plugin.simulator.prevDeflectionR) = felt.deflections
  held : Slot.held before plugin.line.delivered = felt.held

variable {before : Fin 4 → Vector U8 7} {plugin next : Plugin F} {felt : Felt F}

omit [FloatArith F] in
theorem Carries.of_others (carries : Carries before plugin felt)
    (spring : next.simulator.wheel.spring = plugin.simulator.wheel.spring)
    (damper : next.simulator.wheel.damper = plugin.simulator.wheel.damper)
    (deflections : (next.simulator.prevDeflectionL, next.simulator.prevDeflectionR) =
      (plugin.simulator.prevDeflectionL, plugin.simulator.prevDeflectionR))
    {more : List Report} (delivered : next.line.delivered = plugin.line.delivered ++ more)
    (others : ∀ report ∈ more, report.isLoad = false) : Carries before next felt where
  spring := (congrArg Force.ofSpring spring).trans carries.spring
  damper := (congrArg Force.ofDamper damper).trans carries.damper
  deflections := deflections.trans carries.deflections
  held := by
    rw [delivered, Slot.held_append_others before _ others]
    exact carries.held

omit [FloatArith F] in
theorem Carries.of_same (carries : Carries before plugin felt)
    (simulator : next.simulator = plugin.simulator) (line : next.line = plugin.line) :
    Carries before next felt := by
  have delivered : next.line.delivered = plugin.line.delivered ++ [] := by
    rw [line, List.append_nil]
  refine carries.of_others ?_ ?_ ?_ delivered nofun
  · rw [simulator]
  · rw [simulator]
  · rw [simulator]

theorem Carries.initialized (carries : Carries before plugin felt)
    (kept : WellKept plugin.simulator.wheel)
    (classic : plugin.simulator.wheel.protocol = .logitechClassic) :
    Carries before plugin.initialized felt.calibrated where
  spring := carries.spring
  damper := carries.damper
  deflections := carries.deflections
  held := by
    change Slot.held before
      (plugin.line.sendAll plugin.simulator.wheel.calibrationBatches).delivered = _
    rw [Line.sendAll_delivered, Wheel.held_append_calibration classic kept.slots, carries.held]
    exact Slot.calibrated_congr carries.spring carries.damper felt.held

theorem Carries.updated (carries : Carries before plugin felt)
    (outlined : Outlined plugin felt.outline) : Carries before plugin.updated felt.updated := by
  let simulator := Simulator.updateEffects plugin.telemetryState plugin.simulator
  have made : ∀ effect, simulator.wheel.force effect =
      Simulator.updatedForce felt.outline.telemetry felt.deflections effect := by
    intro effect
    rw [← carries.deflections, ← outlined.telemetry]
    exact Simulator.updateEffects_force plugin.telemetryState plugin.simulator effect
  have becomes := updated_simulator plugin
  constructor
  · rw [becomes]
    exact made .spring
  · rw [becomes]
    exact made .damper
  · rw [becomes]
    change (plugin.telemetryState.suspensionDeflectionL,
      plugin.telemetryState.suspensionDeflectionR) = _
    rw [outlined.telemetry]
    rfl
  · have classic : simulator.wheel.protocol = .logitechClassic := outlined.classic
    have others : ∀ report ∈ [Protocol.setLedPattern simulator.wheel.protocol
        (ledPattern plugin.telemetryState.rpm)], report.isLoad = false :=
      fun _ member => List.mem_singleton.mp member ▸ Protocol.setLedPattern_isLoad _ _
    rw [updated_line plugin outlined.tracked.healthy, Line.sendAll_delivered]
    unfold updateBatches Felt.updated
    dsimp only
    rw [List.flatten_cons, List.flatten_singleton, ← List.append_assoc,
      Slot.held_append_others before _ others, ← outlined.tracked.flag]
    cases felt.outline.begun with
    | none =>
        have plays : ∀ report ∈ [Protocol.playForce simulator.wheel.protocol
            plugin.telemetryState.playMask], report.isLoad = false :=
          fun _ member => List.mem_singleton.mp member ▸ Protocol.playForce_isLoad _ _
        exact (Slot.held_append_others before _ plays).trans carries.held
    | some begun =>
        have slots := Simulator.updateEffects_defaultSlots plugin.telemetryState plugin.simulator
        have refreshed := Wheel.held_append_loads Wheel.refreshForce_loadsForce classic slots before
          plugin.line.delivered
        rw [funext made, carries.held] at refreshed
        exact refreshed

theorem Outlined.updateDue_iff {outline : Outline F} (outlined : Outlined plugin outline) :
    plugin.UpdateDue ↔ outline.paused = false ∧ outline.framesLeft = 1 := by
  have count := outlined.framesLeft
  have waiting := outlined.waiting
  unfold UpdateDue
  rw [outlined.paused]
  constructor
  · rintro ⟨running, _, reached⟩
    exact ⟨running, by omega⟩
  · rintro ⟨running, last⟩
    exact ⟨running, outlined.present, by omega⟩

theorem Carries.after {callback : Callback F} (carries : Carries before plugin felt)
    (outlined : Outlined plugin felt.outline) (kept : WellKept plugin.simulator.wheel)
    (stepped : Plugin.step plugin callback = some next) :
    Carries before next (felt.after callback) := by
  cases callback with
  | telemetryInit version params =>
      unfold Felt.after
      dsimp only
      by_cases accepted : version = SCS_TELEMETRY_VERSION_1_01 ∧ eventsRegistered params = true
      · rw [if_pos accepted]
        obtain ⟨texts, opened⟩ := scsTelemetryInit_run_of_healthy accepted plugin
          outlined.tracked.healthy outlined.present
        rw [step_of_telemetryInit opened] at stepped
        cases stepped
        exact (carries.initialized kept outlined.classic).of_same rfl rfl
      · rw [if_neg accepted]
        obtain ⟨_, initialized⟩ := step_telemetryInit stepped
        rcases telemetryInit_cases initialized with ⟨_, _, _, rfl⟩ | ⟨impossible, _⟩
        · exact carries.of_same rfl rfl
        · exact False.elim (accepted impossible)
  | telemetryShutdown =>
      cases stepped
      exact carries.of_same rfl rfl
  | frameStart info =>
      cases stepped
      exact carries.of_same rfl rfl
  | frameEnd =>
      unfold Felt.after
      dsimp only
      by_cases due : plugin.UpdateDue
      · rw [if_pos (outlined.updateDue_iff.mp due)]
        rw [step_frameEnd_of_due plugin due] at stepped
        cases stepped
        exact carries.updated outlined
      · rw [if_neg fun held => due (outlined.updateDue_iff.mpr held)]
        rcases frameEnd_cases stepped with ⟨_, rfl⟩ | ⟨_, rfl⟩ | ⟨impossible, _⟩
        · exact carries.of_same rfl rfl
        · exact carries.of_same rfl rfl
        · exact False.elim (due impossible)
  | paused =>
      obtain ⟨_, rfl⟩ := paused_cases stepped
      have reset := resetRig_eq outlined.tracked.healthy outlined.tracked.emptyQueue
        outlined.present
      apply carries.of_others
      · change plugin.resetRig.wheel.spring = _
        rw [reset]
      · change plugin.resetRig.wheel.damper = _
        rw [reset]
      · rfl
      · change plugin.resetRig.line.delivered = _
        rw [reset]
        exact Line.sendAll_delivered _ _
      · unfold resetBatches
        rw [List.flatten_singleton]
        exact fun _ member => resetReports_isLoad member
  | started =>
      obtain ⟨_, rfl⟩ := started_cases stepped
      exact carries.of_same rfl rfl
  | channel registration value =>
      obtain ⟨_, _, rfl⟩ := channel_cases stepped
      exact carries.of_same rfl rfl

/-- The outline of a plugin with a wheel, with what its slots hold, and what
carries both from step to step. -/
structure Fits (before : Fin 4 → Vector U8 7) (plugin : Plugin F) (felt : Felt F) : Prop where
  outlined : Outlined plugin felt.outline
  kept : WellKept plugin.simulator.wheel
  carries : Carries before plugin felt

theorem Fits.step (fits : Fits before plugin felt) (callback : Callback F) :
    Option.Rel (Fits before) (Plugin.step plugin callback) (felt.step callback) := by
  refine Simulation.rel_map (fits.outlined.step callback) fun next outline stepped still => ?_
  have carries := fits.carries.after fits.outlined fits.kept stepped
  exact
    { outlined := still
      kept := fits.kept.step stepped
      carries :=
        { spring := carries.spring
          damper := carries.damper
          deflections := carries.deflections
          held := carries.held } }

/-! ### Whole runs -/

theorem load_carries (before : Fin 4 → Vector U8 7) (devices : List HidDevice) :
    Carries before (load devices fun _ => true : Plugin F)
      (.loaded (Slot.held before (load devices fun _ => true : Plugin F).line.delivered)) := by
  obtain ⟨device, protocol, folded, _⟩ := Wheel.foldl_consider devices Wheel.initial
  have wheel := (load_wheel (F := F) devices fun _ => true).trans folded
  constructor
  · rw [wheel]
    rfl
  · rw [wheel]
    rfl
  · exact Simulator.initializeWheel_deflections _
  · rfl

/-- On a line that does not fail the slots of the wheel hold what is felt, from
the loading on and whatever the game calls. -/
theorem felt_held {devices : List HidDevice}
    (present : (load devices fun _ => true : Plugin F).simulator.wheel.device.isPresent = true)
    (classic : (load devices fun _ => true : Plugin F).simulator.wheel.protocol =
      .logitechClassic)
    (before : Fin 4 → Vector U8 7) (callbacks : List (Callback F)) :
    Option.Rel (Feels before) (run (load devices fun _ => true) callbacks)
      (Transition.run Felt.step
        (.loaded (Slot.held before (load devices fun _ => true : Plugin F).line.delivered))
        callbacks) := by
  have fits : Fits before (load devices fun _ => true : Plugin F)
      (.loaded (Slot.held before (load devices fun _ => true : Plugin F).line.delivered)) :=
    { outlined := load_outlined present classic
      kept := load_wellKept devices _
      carries := load_carries before devices }
  have simulated := Transition.run_simulated (fun _ _ callback held => Fits.step held callback) fits
    callbacks
  exact Simulation.rel_imp simulated fun _ _ held =>
    { shows := held.outlined.shows
      held := held.carries.held }

theorem felt_held_in_pausedDrive :
    Option.Rel (Feels fun _ => .replicate 7 0)
      (run (load [.g29] fun _ => true)
        (.telemetryInit SCS_TELEMETRY_VERSION_1_01 acceptingGame :: pausedDrive))
      (Transition.run Felt.step
        (.loaded (Slot.held (fun _ => .replicate 7 0)
          (load [.g29] fun _ => true : Plugin ℚ).line.delivered))
        (.telemetryInit SCS_TELEMETRY_VERSION_1_01 acceptingGame :: pausedDrive)) :=
  felt_held rfl rfl _ _

/-! ### The slot of the constant force -/

/-- The slot of the constant force holds what it held at first, the last turn of
a calibration, or the spring that the slot beside it holds. -/
structure Covered (first : Vector U8 7) (felt : Felt F) : Prop where
  spring : ∃ spring, felt.forces .spring = .ofSpring spring
  slot :
    felt.held .constant = first ∨
      felt.held .constant = (Wheel.turnReport .logitechClassic 160).payload ∨
      ∃ spring, felt.held .constant = Slot.bytes (.ofSpring spring) ∧
        felt.held .spring = Slot.bytes (.ofSpring spring)

variable {first : Vector U8 7}

theorem updatedForce_enabled (telemetry : TelemetryState F) (deflections : F × F)
    (effect : Effect) :
    (Simulator.updatedForce telemetry deflections effect).params.enabled =
      telemetry.wants effect :=
  Simulator.updateEffects_enabled telemetry _ effect

/-- The constant force and the spring are wanted together, and the spring is
loaded last. -/
theorem Covered.updated (covered : Covered first felt) : Covered first felt.updated := by
  let forces := Simulator.updatedForce felt.outline.telemetry felt.deflections
  have constant : (forces .constant).params.enabled = felt.outline.telemetry.moving :=
    updatedForce_enabled _ _ .constant
  have spring : (forces .spring).params.enabled = felt.outline.telemetry.moving :=
    updatedForce_enabled _ _ .spring
  refine ⟨⟨_, rfl⟩, ?_⟩
  unfold Felt.updated
  dsimp only
  cases felt.outline.begun with
  | none => exact covered.slot
  | some begun =>
      rw [Option.isSome_some, if_pos rfl]
      cases moving : felt.outline.telemetry.moving with
      | true =>
          have covers := Slot.load_of_enabled (spring.trans moving)
          exact Or.inr (Or.inr ⟨_, covers _, covers _⟩)
      | false =>
          have kept : Slot.loaded forces felt.held .constant = felt.held .constant :=
            (Slot.load_of_disabled (spring.trans moving) _).trans
              (Slot.load_of_disabled (constant.trans moving) _)
          have beside : Slot.loaded forces felt.held .spring = felt.held .spring :=
            Slot.load_of_disabled (spring.trans moving) _
          rw [kept, beside]
          exact covered.slot

omit [FloatArith F] in
theorem Covered.calibrated (covered : Covered first felt) : Covered first felt.calibrated := by
  obtain ⟨spring, force⟩ := covered.spring
  refine ⟨⟨spring, force⟩, Or.inr ?_⟩
  unfold Felt.calibrated
  dsimp only
  cases enabled : (felt.forces .spring).params.enabled with
  | true =>
      have covers := Slot.load_of_enabled enabled
      rw [force] at covers
      refine Or.inr ⟨spring, ?_, ?_⟩
      · exact (congrArg (Slot.load · _) force).trans (covers _)
      · exact (congrArg (Slot.load · _) force).trans (covers _)
  | false => exact Or.inl (Slot.load_of_disabled enabled _)

theorem Covered.step {callback : Callback F} {next : Felt F} (covered : Covered first felt)
    (stepped : felt.step callback = some next) : Covered first next := by
  obtain ⟨outline, _, rfl⟩ := Option.map_eq_some_iff.mp stepped
  have after : Covered first (felt.after callback) := by
    unfold Felt.after
    split
    · split
      · exact covered.calibrated
      · exact covered
    · split
      · exact covered.updated
      · exact covered
    · exact covered
  exact ⟨after.spring, after.slot⟩

/-- The constant force of an update does not outlast the update: after every
call of a run without failures its slot holds what it held after the loading,
the last turn of a calibration, or the spring that the slot beside it holds as
well. -/
theorem constant_never_felt {devices : List HidDevice} {callbacks : List (Callback F)}
    {last : Plugin F}
    (present : (load devices fun _ => true : Plugin F).simulator.wheel.device.isPresent = true)
    (classic : (load devices fun _ => true : Plugin F).simulator.wheel.protocol =
      .logitechClassic)
    (ends : run (load devices fun _ => true) callbacks = some last)
    (before : Fin 4 → Vector U8 7) :
    Slot.content before last.line.delivered 0 =
        Slot.content before (load devices fun _ => true : Plugin F).line.delivered 0 ∨
      Slot.content before last.line.delivered 0 =
        (Wheel.turnReport .logitechClassic 160).payload ∨
      ∃ spring,
        Slot.content before last.line.delivered 0 = Slot.bytes (.ofSpring spring) ∧
        Slot.content before last.line.delivered 1 = Slot.bytes (.ofSpring spring) := by
  let start : Felt F :=
    .loaded (Slot.held before (load devices fun _ => true : Plugin F).line.delivered)
  have loaded : Covered (start.held .constant) start := ⟨⟨Wheel.initial.spring, rfl⟩, Or.inl rfl⟩
  obtain ⟨felt, sketched, feels⟩ :=
    Simulation.rel_some_left (felt_held present classic before callbacks) ends
  have covered := Transition.run_preserves
    (fun _ _ _ held stepped => Covered.step held stepped) loaded sketched
  have slot := covered.slot
  rw [← feels.held] at slot
  exact slot

def steadyDrive : List (Callback ℚ) :=
  [.telemetryInit SCS_TELEMETRY_VERSION_1_01 acceptingGame, .started, speedReported 20] ++
    List.replicate 8 .frameEnd

theorem constant_never_felt_in_steadyDrive :
    ∃ last : Plugin ℚ, run (load [.g29] fun _ => true) steadyDrive = some last ∧
      (Slot.content (fun _ => .replicate 7 0) last.line.delivered 0 =
          Slot.content (fun _ => .replicate 7 0)
            (load [.g29] fun _ => true : Plugin ℚ).line.delivered 0 ∨
        Slot.content (fun _ => .replicate 7 0) last.line.delivered 0 =
          (Wheel.turnReport .logitechClassic 160).payload ∨
        ∃ spring,
          Slot.content (fun _ => .replicate 7 0) last.line.delivered 0 =
            Slot.bytes (.ofSpring spring) ∧
          Slot.content (fun _ => .replicate 7 0) last.line.delivered 1 =
            Slot.bytes (.ofSpring spring)) := by
  have survives : (run (load [.g29] fun _ => true) steadyDrive).isSome = true := by
    decide +kernel
  obtain ⟨last, ends⟩ := Option.isSome_iff_exists.mp survives
  exact ⟨last, ends, constant_never_felt rfl rfl ends _⟩

end Plugin

end Fffb
