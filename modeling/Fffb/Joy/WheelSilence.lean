import Fffb.Joy.Effects
import Fffb.Joy.Slots
import Fffb.Joy.WheelDelivery

/-
Reports after which no slot plays.

A stop of the classic protocol silences every slot.  A protocol without
builders never starts one, so there silence only has to be kept.
-/

namespace Fffb

def Silent (reports : List Report) : Prop := ∀ slot, Slot.playing slot reports = false

theorem silent_nil : Silent [] := by
  intro slot
  rfl

theorem Silent.append_quiet {before after : List Report} (silent : Silent before)
    (quiet : ∀ report ∈ after, report.Quiet) : Silent (before ++ after) := by
  intro slot
  rw [Slot.playing_append_quiet slot before after quiet]
  exact silent slot

theorem silent_append_stop (protocol : FfbProtocol) {before after : List Report}
    (kept : protocol ≠ .logitechClassic → Silent before)
    (quiet : ∀ report ∈ after, report.Quiet) :
    Silent (before ++ Protocol.stopForce protocol 0x0F :: after) := by
  by_cases classic : protocol = .logitechClassic
  · subst classic
    intro slot
    exact Slot.playing_append_stop slot before after quiet
  · rw [Protocol.stopForce_of_unsupported classic]
    apply (kept classic).append_quiet
    intro report member
    rcases List.mem_cons.mp member with rfl | later
    · exact Report.empty_quiet
    · exact quiet report later

namespace Wheel

theorem enabledReports_quiet {build : FfbProtocol → Force → Report} (wheel : Wheel)
    (quiet : ∀ protocol force, (build protocol force).Quiet) :
    ∀ report ∈ wheel.enabledReports build, report.Quiet := by
  intro report member
  obtain ⟨effect, _, rfl⟩ := (mem_enabledReports_iff build wheel report).mp member
  exact quiet _ _

theorem calibrationBatches_quiet {wheel : Wheel}
    (unsupported : wheel.protocol ≠ .logitechClassic) :
    ∀ report ∈ wheel.calibrationBatches.flatten, report.Quiet := by
  intro report member
  rcases mem_calibrationBatches member with
    (rfl | rfl | rfl | ⟨mask, rfl⟩) | right | left | shake
  · exact Protocol.disableAutocenter_quiet _ _
  · exact Protocol.enableAutocenter_quiet _ _
  · rw [Protocol.stopForce_of_unsupported unsupported]
    exact Report.empty_quiet
  · rw [Protocol.playForce_of_unsupported unsupported]
    exact Report.empty_quiet
  · exact enabledReports_quiet _ Protocol.downloadForce_quiet report right
  · exact enabledReports_quiet _ Protocol.refreshForce_quiet report left
  · exact enabledReports_quiet _ Protocol.downloadForce_quiet report shake

theorem calibrationBatches_flatten (wheel : Wheel) :
    ∃ before, wheel.calibrationBatches.flatten =
      before ++ [Protocol.stopForce wheel.protocol 0x0F] := by
  refine ⟨([[Protocol.disableAutocenter wheel.protocol 0x0F], wheel.stopBatch] ++
    wheel.turnRightBatches ++ wheel.turnLeftBatches ++ (wheel.turning 160).shakeItBatches ++
      wheel.returnToCenterBatches).flatten, ?_⟩
  unfold calibrationBatches
  rw [List.flatten_append]
  rfl

theorem calibrate_silent (rig : Rig) (healthy : rig.line.Healthy)
    (kept : rig.wheel.protocol ≠ .logitechClassic → Silent rig.line.delivered)
    (present : rig.wheel.device.isPresent = true) :
    Silent (calibrate.run rig).2.line.delivered := by
  rw [calibrate_run rig healthy present, Line.sendAll_delivered]
  by_cases classic : rig.wheel.protocol = .logitechClassic
  · obtain ⟨before, ends⟩ := calibrationBatches_flatten rig.wheel
    rw [ends, ← List.append_assoc]
    exact silent_append_stop _ (fun unsupported => False.elim (unsupported classic))
      fun _ absent => by cases absent
  · apply (kept classic).append_quiet
    exact calibrationBatches_quiet classic

/-- What a construction delivers belongs to the initialization of a protocol. -/
theorem construct_initSequence (devices : List HidDevice) (outcome : Nat → Bool) :
    ∀ report ∈ (construct devices (.idle outcome)).line.delivered,
      ∃ protocol deviceId, report ∈ Protocol.initSequence protocol deviceId := by
  rw [construct_eq]
  intro report member
  split at member
  · rw [initProtocol_makes.delivered] at member
    rcases List.mem_append.mp member with earlier | carried
    · cases earlier
    · have prepares := Line.mem_of_mem_carriedAll carried
      split at prepares
      · cases prepares
      · rw [List.flatten_singleton] at prepares
        exact ⟨_, _, prepares⟩
  · cases member

theorem construct_quiet (devices : List HidDevice) (outcome : Nat → Bool) :
    ∀ report ∈ (construct devices (.idle outcome)).line.delivered, report.Quiet := by
  intro report member
  obtain ⟨protocol, deviceId, prepares⟩ := construct_initSequence devices outcome report member
  exact Protocol.initSequence_quiet protocol deviceId report prepares

end Wheel

end Fffb
