import Fffb.Plugin.Tracking

/-
What holds of every reachable plugin, whatever the device answers.
-/

namespace Fffb.Plugin

open FloatArith

variable {F : Type} [FloatArith F]

/-- Some run from some loaded plugin comes to this one. -/
def Reachable (plugin : Plugin F) : Prop :=
  ∃ devices outcome callbacks, run (load devices outcome) callbacks = some plugin

/-- The slots are the default ones, no report waits, and a wheel that is there
speaks the protocol of its vendor. -/
structure WellKept (wheel : Wheel) : Prop where
  slots : wheel.DefaultSlots
  emptyQueue : wheel.reports = []
  supported : wheel.device.isPresent = true → wheel.protocol = getSupportedProtocol wheel.device

def Counting (plugin : Plugin F) : Prop := 0 < plugin.ffbRateCount ∧ plugin.ffbRateCount ≤ ffbRate

theorem WellKept.of_same {before after : Wheel} (kept : WellKept before)
    (slots : ∀ effect, after.slot effect = before.slot effect)
    (emptyQueue : after.reports = []) (device : after.device = before.device)
    (protocol : after.protocol = before.protocol) : WellKept after := by
  constructor
  · exact kept.slots.of_slot slots
  · exact emptyQueue
  · intro present
    rw [device] at present
    rw [protocol, device]
    exact kept.supported present

theorem load_wellKept (devices : List HidDevice) (outcome : Nat → Bool) :
    WellKept (load devices outcome : Plugin F).simulator.wheel := by
  obtain ⟨device, protocol, folded, origin⟩ := Wheel.foldl_consider devices Wheel.initial
  have wheel := (load_wheel (F := F) devices outcome).trans folded
  rw [wheel]
  constructor
  · intro effect
    cases effect <;> rfl
  · rfl
  · intro present
    rcases origin with ⟨rfl, _⟩ | supported
    · cases present
    · exact supported

theorem WellKept.calibrated {wheel : Wheel} (kept : WellKept wheel) :
    WellKept wheel.calibrated := by
  refine kept.of_same ?_ kept.emptyQueue rfl rfl
  intro effect
  cases effect <;> rfl

theorem WellKept.flagged {wheel : Wheel} (kept : WellKept wheel) (playing : Bool) :
    WellKept { wheel with playing := playing, reports := [] } := by
  refine kept.of_same ?_ rfl rfl rfl
  intro effect
  cases effect <;> rfl

theorem WellKept.updated {simulator : Simulator F} (kept : WellKept simulator.wheel)
    (telemetry : TelemetryState F) :
    WellKept { (Simulator.updateEffects telemetry simulator).wheel with playing := true } := by
  have slots := Simulator.updateEffects_defaultSlots telemetry simulator
  refine kept.of_same ?_ kept.emptyQueue rfl rfl
  intro effect
  rw [kept.slots effect, ← slots effect]
  cases effect <;> rfl

theorem WellKept.step {plugin next : Plugin F} {callback : Callback F}
    (kept : WellKept plugin.simulator.wheel) (stepped : Plugin.step plugin callback = some next) :
    WellKept next.simulator.wheel := by
  rcases step_rig stepped with ⟨_, same⟩ | ⟨_, _, _, calibrated⟩ | ⟨_, reset⟩ | ⟨_, _, rfl⟩
  · rw [← rig_wheel, same]
    exact kept
  · rw [← rig_wheel, calibrated]
    rcases Wheel.calibrate_cases plugin.rig with same | freed | stopped | finished
    · rw [same]
      exact kept
    · rw [freed]
      exact kept
    · have emptyQueue : plugin.rig.wheel.reports = [] := kept.emptyQueue
      have flagged := kept.flagged false
      rw [stopped]
      rw [← emptyQueue] at flagged
      exact flagged
    · rw [finished]
      exact kept.calibrated
  · rw [← rig_wheel, reset]
    unfold resetRig
    split
    · rw [resetByQueue_makes.wheel]
      exact kept.flagged false
    · exact kept
  · rw [updated_wheel, forcesUpdated_wheel]
    exact kept.updated plugin.telemetryState

omit [FloatArith F] in
theorem counting_of_reset {plugin : Plugin F} (reset : plugin.ffbRateCount = ffbRate) :
    Counting plugin := by
  unfold Counting
  rw [reset]
  decide

omit [FloatArith F] in
theorem Counting.exists_frames {plugin : Plugin F} (counting : Counting plugin) :
    ∃ frames : Nat, (frames : Int) + 1 = plugin.ffbRateCount := by
  refine ⟨(plugin.ffbRateCount - 1).toNat, ?_⟩
  have positive := counting.1
  omega

theorem Counting.step {plugin next : Plugin F} {callback : Callback F} (counting : Counting plugin)
    (stepped : Plugin.step plugin callback = some next) : Counting next := by
  cases callback with
  | telemetryInit version params =>
      obtain ⟨result, initialized⟩ := step_telemetryInit stepped
      rcases telemetryInit_cases initialized with
        ⟨_, _, _, rfl⟩ | ⟨_, _, ⟨_, rfl⟩ | ⟨_, rfl⟩⟩
      · exact counting
      · exact counting
      · exact counting
  | telemetryShutdown =>
      cases stepped
      exact counting
  | frameStart info =>
      cases stepped
      exact counting
  | frameEnd =>
      rcases frameEnd_cases stepped with ⟨_, rfl⟩ | ⟨waiting, rfl⟩ | ⟨_, rfl⟩
      · exact counting
      · obtain ⟨positive, small⟩ := counting
        constructor
        · change 0 < plugin.ffbRateCount - 1
          omega
        · change plugin.ffbRateCount - 1 ≤ ffbRate
          omega
      · exact counting_of_reset rfl
  | paused =>
      obtain ⟨_, rfl⟩ := paused_cases stepped
      exact counting
  | started =>
      obtain ⟨_, rfl⟩ := started_cases stepped
      exact counting
  | channel registration value =>
      obtain ⟨_, _, rfl⟩ := channel_cases stepped
      exact counting

theorem Reachable.kept {plugin : Plugin F} (reachable : Reachable plugin) :
    WellKept plugin.simulator.wheel ∧ Counting plugin := by
  obtain ⟨devices, outcome, callbacks, reached⟩ := reachable
  have loaded : WellKept (load devices outcome : Plugin F).simulator.wheel ∧
      Counting (load devices outcome : Plugin F) :=
    ⟨load_wellKept devices outcome, counting_of_reset rfl⟩
  have kept : ∀ (before : Plugin F) (callback : Callback F) (after : Plugin F),
      WellKept before.simulator.wheel ∧ Counting before → step before callback = some after →
        WellKept after.simulator.wheel ∧ Counting after :=
    fun _ _ _ both stepped => ⟨both.1.step stepped, both.2.step stepped⟩
  exact Transition.run_preserves kept loaded reached

end Fffb.Plugin
