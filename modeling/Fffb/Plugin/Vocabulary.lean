import Fffb.Joy.Vocabulary
import Fffb.Joy.WheelUnload
import Fffb.Plugin.OpenLoop
import Fffb.Plugin.Reachable

/-
Whatever the plugin tells a wheel is a command of its protocol.
-/

namespace Fffb.Plugin

open FloatArith

variable {F : Type} [FloatArith F]

/-- All that has come to the wheel is spoken to it. -/
def Understood (line : Line Report) : Prop := ∀ report ∈ line.delivered, report.Spoken

omit [FloatArith F] in
theorem Understood.attemptAll {line : Line Report} (understood : Understood line)
    {batches : List (List Report)} (spoken : ∀ report ∈ batches.flatten, report.Spoken) :
    Understood (line.attemptAll batches) := by
  intro report member
  rw [Line.attemptAll_delivered] at member
  rcases List.mem_append.mp member with before | now
  · exact understood report before
  · exact spoken report (Line.mem_of_mem_carriedAll now)

omit [FloatArith F] in
theorem take_spoken {batches : List (List Report)} (count : Nat)
    (spoken : ∀ report ∈ batches.flatten, report.Spoken) :
    ∀ report ∈ (batches.take count).flatten, report.Spoken := by
  intro report member
  obtain ⟨batch, taken, inside⟩ := List.mem_flatten.mp member
  exact spoken report (List.mem_flatten.mpr ⟨batch, List.mem_of_mem_take taken, inside⟩)

theorem calibrate_understood {rig : Rig} (understood : Understood rig.line)
    (defaultSlots : rig.wheel.DefaultSlots) (classic : rig.wheel.protocol = .logitechClassic) :
    Understood (Wheel.calibrate.run rig).2.line := by
  have spoken := Wheel.calibrationBatches_spoken defaultSlots classic
  rcases Wheel.calibrate_cases rig with same | freed | stopped | finished
  · rw [same]
    exact understood
  · rw [freed]
    exact understood.attemptAll (take_spoken 1 spoken)
  · rw [stopped]
    exact understood.attemptAll (take_spoken 2 spoken)
  · rw [finished]
    exact understood.attemptAll spoken

omit [FloatArith F] in
theorem resetRig_understood {plugin : Plugin F} (understood : Understood plugin.line)
    (emptyQueue : plugin.simulator.wheel.reports = [])
    (classic : plugin.simulator.wheel.protocol = .logitechClassic) :
    Understood plugin.resetRig.line := by
  have reset := congrArg Rig.line (resetRig_onLine plugin.line plugin)
  have line : plugin.resetRig.line = plugin.line.attemptAll plugin.resetTransactions := reset
  rw [line]
  apply understood.attemptAll
  intro report member
  unfold resetTransactions at member
  split at member
  · rw [List.flatten_singleton, emptyQueue, List.nil_append, classic] at member
    unfold resetReports at member
    simp only [List.mem_cons, List.not_mem_nil, or_false] at member
    rcases member with rfl | rfl | rfl
    · exact Report.disableAutocenter_spoken
    · exact Report.stop_spoken
    · exact Report.setLedPattern_spoken 0
  · cases member

theorem updated_understood {plugin : Plugin F} (understood : Understood plugin.line)
    (classic : plugin.simulator.wheel.protocol = .logitechClassic) :
    Understood plugin.updated.line := by
  let simulator := Simulator.updateEffects plugin.telemetryState plugin.simulator
  have defaultSlots : simulator.wheel.DefaultSlots :=
    Simulator.updateEffects_defaultSlots plugin.telemetryState plugin.simulator
  have forces := Wheel.refreshBatch_spoken defaultSlots classic
  rw [updated_attempts]
  apply understood.attemptAll
  intro report member
  unfold updateTransactions at member
  rw [classic] at member
  rcases List.mem_append.mp member with force | led
  · exact forces report force
  · rw [List.mem_singleton.mp led]
    exact Report.setLedPattern_spoken _

theorem load_understood {devices : List HidDevice} (outcome : Nat → Bool)
    (classic : (load devices outcome : Plugin F).simulator.wheel.protocol = .logitechClassic) :
    Understood (load devices outcome : Plugin F).line := by
  let rig := Wheel.construct devices (.idle outcome)
  have constructed : Understood rig.line := by
    intro report member
    obtain ⟨_, _, listed⟩ := Wheel.construct_initSequence devices outcome report member
    exact Report.initSequence_spoken listed
  have protocol : rig.wheel.protocol = .logitechClassic := by
    rw [Wheel.construct_wheel, ← load_wheel (F := F) devices outcome]
    exact classic
  have made : (Wheel.stopForces.run (Wheel.disableAutocenter.run rig).2).2.line =
      rig.line.attemptAll [[Protocol.disableAutocenter rig.wheel.protocol 0x0F],
        [Protocol.stopForce rig.wheel.protocol 0x0F]] :=
    (Wheel.disableAutocenter_makes.dropped Wheel.stopForces_makes).line rig
  rw [← rig_line, load_rig]
  unfold initializedRig
  split
  · rw [made, protocol]
    apply constructed.attemptAll
    intro report member
    simp only [List.flatten_cons, List.flatten_nil, List.mem_append, List.mem_cons,
      List.not_mem_nil, or_false] at member
    rcases member with rfl | rfl
    · exact Report.disableAutocenter_spoken
    · exact Report.stop_spoken
  · exact constructed

theorem step_understood {plugin next : Plugin F} {callback : Callback F}
    (understood : Understood plugin.line) (kept : WellKept plugin.simulator.wheel)
    (classic : plugin.simulator.wheel.protocol = .logitechClassic)
    (stepped : step plugin callback = some next) : Understood next.line := by
  rw [← rig_line]
  rcases step_rig stepped with ⟨_, same⟩ | ⟨_, _, _, calibrated⟩ | ⟨_, reset⟩ | ⟨_, _, rfl⟩
  · rw [same]
    exact understood
  · rw [calibrated]
    exact @calibrate_understood plugin.rig understood kept.slots classic
  · rw [reset]
    exact resetRig_understood understood kept.emptyQueue classic
  · rw [rig_line]
    exact updated_understood understood classic

omit [FloatArith F] in
theorem destroy_understood {plugin : Plugin F} (understood : Understood plugin.line)
    (classic : plugin.simulator.wheel.protocol = .logitechClassic) :
    Understood (Wheel.destroy.run plugin.rig).2.line := by
  cases present : plugin.rig.wheel.device.isPresent with
  | false =>
      rw [Wheel.destroy_run_of_absent plugin.rig present]
      exact understood
  | true =>
      have speaks : plugin.rig.wheel.protocol = .logitechClassic := classic
      rw [Wheel.destroy_run_of_present plugin.rig present]
      apply understood.attemptAll
      intro report member
      unfold Wheel.destroyBatches at member
      rw [List.flatten_cons, List.flatten_singleton, speaks] at member
      rcases List.mem_append.mp member with stop | center
      · exact Wheel.stopBatch_spoken speaks report stop
      · rw [List.mem_singleton.mp center]
        exact Report.enableAutocenter_spoken

/-- Whatever fails and whatever the game calls, all that a classic wheel
receives until it is destroyed, and then, is the switch to its native mode or a
command of its protocol with arguments that the driver uses. -/
theorem all_understood {devices : List HidDevice} {outcome : Nat → Bool}
    {callbacks : List (Callback F)} {last : Plugin F}
    (classic : (load devices outcome : Plugin F).simulator.wheel.protocol = .logitechClassic)
    (ends : run (load devices outcome) callbacks = some last) :
    (∀ report ∈ last.line.delivered, report.Spoken) ∧
      ∀ report ∈ (Wheel.destroy.run last.rig).2.line.delivered, report.Spoken := by
  let Kept : Plugin F → Prop := fun plugin => Understood plugin.line ∧
    WellKept plugin.simulator.wheel ∧ plugin.simulator.wheel.protocol = .logitechClassic
  have keeps : ∀ (before : Plugin F) (callback : Callback F) (after : Plugin F),
      Kept before → step before callback = some after → Kept after := by
    rintro before callback after ⟨understood, kept, protocol⟩ stepped
    exact ⟨step_understood understood kept protocol stepped, kept.step stepped,
      (step_sameDevice stepped).2.1.trans protocol⟩
  have loaded : Kept (load devices outcome) :=
    ⟨load_understood outcome classic, load_wellKept devices outcome, classic⟩
  obtain ⟨understood, _, protocol⟩ := Transition.run_preserves keeps loaded ends
  exact ⟨understood, destroy_understood understood protocol⟩

theorem all_understood_after_unopened :
    ∃ last : Plugin ℚ, run (load [.g29] fun position => position != 49)
        (.telemetryInit SCS_TELEMETRY_VERSION_1_01 acceptingGame :: pausedDrive) = some last ∧
      (∀ report ∈ last.line.delivered, report.Spoken) ∧
        ∀ report ∈ (Wheel.destroy.run last.rig).2.line.delivered, report.Spoken := by
  have survives : (run (load [.g29] fun position => position != 49)
      (.telemetryInit SCS_TELEMETRY_VERSION_1_01 acceptingGame :: pausedDrive)).isSome = true := by
    decide +kernel
  obtain ⟨last, ends⟩ := Option.isSome_iff_exists.mp survives
  exact ⟨last, ends, all_understood rfl ends⟩

end Fffb.Plugin
