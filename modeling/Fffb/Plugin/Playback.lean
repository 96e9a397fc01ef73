import Fffb.Plugin.Tracking

/-
What plays when `update_forces` returns.

The play report names the effects that were wanted at the update that began to
play.  Later updates enable and disable effects, but they send neither a stop
nor another play report, so the wheel goes on with the first mask.
-/

namespace Fffb

open FloatArith

variable {F : Type} [FloatArith F]

theorem Effect.eq_or_pair_of_shared_slot {left right : Effect} {slot : Fin 4}
    (leftNames : left.defaultSlot.getLsbD slot = true)
    (rightNames : right.defaultSlot.getLsbD slot = true) :
    left = right ∨ left = .constant ∧ right = .spring ∨ left = .spring ∧ right = .constant := by
  revert slot
  cases left <;> cases right <;> decide

theorem TelemetryState.wants_of_shared_slot (state : TelemetryState F) {left right : Effect}
    {slot : Fin 4} (leftNames : left.defaultSlot.getLsbD slot = true)
    (rightNames : right.defaultSlot.getLsbD slot = true) :
    state.wants left = state.wants right := by
  rcases Effect.eq_or_pair_of_shared_slot leftNames rightNames with
    rfl | ⟨rfl, rfl⟩ | ⟨rfl, rfl⟩
  · rfl
  · rfl
  · rfl

theorem Effect.names_readmeSlot (effect : Effect) :
    effect.defaultSlot.getLsbD effect.readmeSlot = true := by
  cases effect <;> decide

namespace Plugin

def DisabledSilent (plugin : Plugin F) : Prop :=
  ∀ effect, plugin.simulator.wheel.enabled effect = false →
    ∀ slot : Fin 4, (plugin.simulator.wheel.slot effect).getLsbD slot = true →
      Slot.playing slot plugin.line.delivered = false

/-- Every slot that an enabled effect names was started by a play report, and
no stop report covered it since. -/
def EnabledStarted (plugin : Plugin F) : Prop :=
  ∀ effect, plugin.simulator.wheel.enabled effect = true →
    ∀ slot : Fin 4, (plugin.simulator.wheel.slot effect).getLsbD slot = true →
      Latch.SetSince (Slot.starts slot) (Slot.stops slot) plugin.line.delivered

theorem forcesUpdated_enabled (plugin : Plugin F) (effect : Effect) :
    plugin.forcesUpdated.simulator.wheel.enabled effect = plugin.telemetryState.wants effect := by
  rw [forcesUpdated_wheel, ← Simulator.updateEffects_enabled plugin.telemetryState plugin.simulator]
  cases effect <;> rfl

theorem forcesUpdated_slot (plugin : Plugin F) (effect : Effect) :
    plugin.forcesUpdated.simulator.wheel.slot effect = effect.defaultSlot := by
  rw [forcesUpdated_wheel,
    ← Simulator.updateEffects_defaultSlots plugin.telemetryState plugin.simulator effect]
  cases effect <;> rfl

theorem forcesUpdated_protocol (plugin : Plugin F) :
    plugin.forcesUpdated.simulator.wheel.protocol = plugin.simulator.wheel.protocol := by
  rw [forcesUpdated_wheel]
  rfl

/-- A slot plays when the wheel speaks the classic protocol and the update at
which the forces began to play wanted an effect that names the slot. -/
theorem Tracked.playing_iff {plugin : Plugin F} {note : Option (TelemetryState F)}
    (tracked : Tracked plugin note) (slot : Fin 4) :
    Slot.playing slot plugin.forcesUpdated.line.delivered = true ↔
      plugin.simulator.wheel.protocol = .logitechClassic ∧
        ∃ effect, (note.getD plugin.telemetryState).wants effect = true ∧
          effect.defaultSlot.getLsbD slot = true := by
  rw [tracked.forcesUpdated.slots, forcesUpdated_protocol]
  by_cases classic : plugin.simulator.wheel.protocol = .logitechClassic
  · rw [and_iff_right classic, ← TelemetryState.playMask_names]
    unfold startedMask
    dsimp only
    rw [if_pos classic]
  · rw [startedMask_of_unsupported classic]
    refine iff_of_false ?_ fun both => classic both.1
    have clear : (0 : U8).getLsbD slot = false := BitVec.getLsbD_zero
    rw [clear]
    exact Bool.false_ne_true

/-- Whenever `update_forces` returns in a run without failures, no disabled
effect plays exactly when every effect that was wanted at the update at which
the forces began to play is still wanted. -/
theorem disabledSilent_iff (devices : List HidDevice) (callbacks : List (Callback F))
    (plugin : Plugin F) (note : Option (TelemetryState F))
    (reached : Transition.run stepBegun (load devices fun _ => true, none) callbacks =
      some (plugin, note)) :
    plugin.forcesUpdated.DisabledSilent ↔
      (plugin.simulator.wheel.protocol = .logitechClassic →
        ∀ effect, (note.getD plugin.telemetryState).wants effect = true →
          plugin.telemetryState.wants effect = true) := by
  have tracked : Tracked plugin note := run_tracked reached
  unfold DisabledSilent
  simp only [forcesUpdated_enabled, forcesUpdated_slot]
  constructor
  · intro silent classic effect begun
    cases wanted : plugin.telemetryState.wants effect with
    | true => rfl
    | false =>
        have quiet := silent effect wanted effect.readmeSlot effect.names_readmeSlot
        have plays := (tracked.playing_iff effect.readmeSlot).mpr
          ⟨classic, effect, begun, effect.names_readmeSlot⟩
        rw [quiet] at plays
        cases plays
  · intro still effect unwanted slot named
    cases plays : Slot.playing slot plugin.forcesUpdated.line.delivered with
    | false => rfl
    | true =>
        obtain ⟨classic, other, begun, otherNames⟩ := (tracked.playing_iff slot).mp plays
        have wanted := still classic other begun
        rw [plugin.telemetryState.wants_of_shared_slot otherNames named, unwanted] at wanted
        cases wanted

/-- Whenever `update_forces` returns in a run without failures, every enabled
effect was started exactly when the wheel speaks the classic protocol and every
effect that is wanted now was wanted at the update at which the forces began to
play. -/
theorem enabledStarted_iff (devices : List HidDevice) (callbacks : List (Callback F))
    (plugin : Plugin F) (note : Option (TelemetryState F))
    (reached : Transition.run stepBegun (load devices fun _ => true, none) callbacks =
      some (plugin, note)) :
    plugin.forcesUpdated.EnabledStarted ↔
      plugin.simulator.wheel.protocol = .logitechClassic ∧
        ∀ effect, plugin.telemetryState.wants effect = true →
          (note.getD plugin.telemetryState).wants effect = true := by
  have tracked : Tracked plugin note := run_tracked reached
  have started : ∀ slot, Latch.SetSince (Slot.starts slot) (Slot.stops slot)
      plugin.forcesUpdated.line.delivered ↔ _ :=
    fun slot => (Latch.latched_iff _ _ _).symm.trans (tracked.playing_iff slot)
  unfold EnabledStarted
  simp only [forcesUpdated_enabled, forcesUpdated_slot, started]
  constructor
  · intro each
    have classic := (each .damper rfl 2 (by decide)).1
    refine ⟨classic, ?_⟩
    intro effect wanted
    obtain ⟨_, other, begun, otherNames⟩ :=
      each effect wanted effect.readmeSlot effect.names_readmeSlot
    rw [← TelemetryState.wants_of_shared_slot _ otherNames effect.names_readmeSlot]
    exact begun
  · rintro ⟨classic, begun⟩ effect wanted slot named
    exact ⟨classic, effect, begun effect wanted, named⟩

/-! ### Runs in which the wanted effects change -/

def speedReported (speed : ℚ) : Callback ℚ :=
  .channel ⟨"truck.speed", SCS_U32_NIL, .float, SCS_TELEMETRY_CHANNEL_FLAG_none, .storeFloat,
    .float .speed⟩ (some (.float speed))

/-- The truck drives at one speed during an update, and at another until the
next one is due. -/
def speedChange (first second : ℚ) : List (Callback ℚ) :=
  [.telemetryInit SCS_TELEMETRY_VERSION_1_01 acceptingGame, .started, speedReported first] ++
    List.replicate 4 .frameEnd ++ [speedReported second] ++ List.replicate 3 .frameEnd

/-- The truck stops: the constant force is disabled and plays on. -/
theorem stopped_truck_still_plays :
    ∃ plugin note, Transition.run stepBegun (load [.g29] fun _ => true, none) (speedChange 10 0) =
        some (plugin, note) ∧
      plugin.UpdateDue ∧ ¬ plugin.forcesUpdated.DisabledSilent := by
  have played : (Transition.run stepBegun (load [.g29] fun _ => true, none)
      (speedChange 10 0)).any (fun noted =>
        decide noted.1.UpdateDue &&
          (!noted.1.forcesUpdated.simulator.wheel.enabled .constant &&
            Slot.playing 0 noted.1.forcesUpdated.line.delivered)) = true := by
    decide +kernel
  obtain ⟨⟨plugin, note⟩, reached, holds⟩ := (Option.any_eq_true _ _).mp played
  simp only [Bool.and_eq_true, decide_eq_true_eq, Bool.not_eq_true'] at holds
  obtain ⟨due, disabled, plays⟩ := holds
  refine ⟨plugin, note, reached, due, ?_⟩
  intro silent
  have named : (plugin.forcesUpdated.simulator.wheel.slot .constant).getLsbD (0 : Fin 4) = true := by
    rw [forcesUpdated_slot]
    decide
  rw [silent .constant disabled 0 named] at plays
  cases plays

theorem disabledSilent_iff_in_stoppedTruck :
    ∃ plugin note, Transition.run stepBegun (load [.g29] fun _ => true, none) (speedChange 10 0) =
        some (plugin, note) ∧
      (plugin.forcesUpdated.DisabledSilent ↔
        (plugin.simulator.wheel.protocol = .logitechClassic →
          ∀ effect, (note.getD plugin.telemetryState).wants effect = true →
            plugin.telemetryState.wants effect = true)) := by
  have runs : (Transition.run stepBegun (load [.g29] fun _ => true, none)
      (speedChange 10 0)).any (fun _ => true) = true := by
    decide +kernel
  obtain ⟨⟨plugin, note⟩, reached, _⟩ := (Option.any_eq_true _ _).mp runs
  exact ⟨plugin, note, reached, disabledSilent_iff [.g29] (speedChange 10 0) plugin note reached⟩

/-- The truck drives off: the constant force is enabled and never started. -/
theorem departing_truck_not_started :
    ∃ plugin note, Transition.run stepBegun (load [.g29] fun _ => true, none) (speedChange 0 10) =
        some (plugin, note) ∧
      plugin.UpdateDue ∧ ¬ plugin.forcesUpdated.EnabledStarted := by
  have idle : (Transition.run stepBegun (load [.g29] fun _ => true, none)
      (speedChange 0 10)).any (fun noted =>
        decide noted.1.UpdateDue &&
          (noted.1.forcesUpdated.simulator.wheel.enabled .constant &&
            !Slot.playing 0 noted.1.forcesUpdated.line.delivered)) = true := by
    decide +kernel
  obtain ⟨⟨plugin, note⟩, reached, holds⟩ := (Option.any_eq_true _ _).mp idle
  simp only [Bool.and_eq_true, decide_eq_true_eq, Bool.not_eq_true'] at holds
  obtain ⟨due, enabled, silent⟩ := holds
  refine ⟨plugin, note, reached, due, ?_⟩
  intro started
  have named : (plugin.forcesUpdated.simulator.wheel.slot .constant).getLsbD (0 : Fin 4) = true := by
    rw [forcesUpdated_slot]
    decide
  have plays : Slot.playing 0 plugin.forcesUpdated.line.delivered = true :=
    (Latch.latched_iff _ _ _).mpr (started .constant enabled 0 named)
  rw [silent] at plays
  cases plays

theorem enabledStarted_iff_in_departingTruck :
    ∃ plugin note, Transition.run stepBegun (load [.g29] fun _ => true, none) (speedChange 0 10) =
        some (plugin, note) ∧
      (plugin.forcesUpdated.EnabledStarted ↔
        plugin.simulator.wheel.protocol = .logitechClassic ∧
          ∀ effect, plugin.telemetryState.wants effect = true →
            (note.getD plugin.telemetryState).wants effect = true) := by
  have runs : (Transition.run stepBegun (load [.g29] fun _ => true, none)
      (speedChange 0 10)).any (fun _ => true) = true := by
    decide +kernel
  obtain ⟨⟨plugin, note⟩, reached, _⟩ := (Option.any_eq_true _ _).mp runs
  exact ⟨plugin, note, reached, enabledStarted_iff [.g29] (speedChange 0 10) plugin note reached⟩

end Plugin

end Fffb
