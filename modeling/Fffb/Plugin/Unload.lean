import Fffb.Joy.Leds
import Fffb.Joy.WheelUnload
import Fffb.Plugin.Silence

/-
What is left on the wheel when the plugin is unloaded.

The destructor of the wheel stops the forces and gives the centering back to
the device, and it goes on to the second when the first fails.  The LEDs it
forgets.
-/

namespace Fffb

open FloatArith

namespace Wheel

theorem destroy_delivered (rig : Rig) (present : rig.wheel.device.isPresent = true) :
    (destroy.run rig).2.line.delivered =
      rig.line.delivered ++
        (if rig.line.Carries then [Protocol.stopForce rig.wheel.protocol 0x0F] else []) ++
        (if (rig.line.attempt rig.wheel.stopBatch).2.Carries then
          [Protocol.enableAutocenter rig.wheel.protocol 0x0F] else []) := by
  rw [destroy_run_of_present rig present]
  unfold destroyBatches
  rw [Line.attemptAll_delivered, Line.carriedAll, Line.carriedAll_singleton, List.append_assoc]
  unfold stopBatch
  rw [Line.carried_singleton, Line.carried_singleton]

theorem silent_append_quiet_iff {before after : List Report}
    (quiet : ∀ report ∈ after, report.Quiet) : Silent (before ++ after) ↔ Silent before := by
  unfold Silent
  simp only [Slot.playing_append_quiet _ _ _ quiet]

/-- The report of the destructor's second command, if it gets through. -/
theorem mem_returned {line : Line Report} {report : Report}
    (member : report ∈ if line.Carries then [Protocol.enableAutocenter .logitechClassic 0x0F]
      else []) : report = Protocol.enableAutocenter .logitechClassic 0x0F := by
  split at member
  · exact List.mem_singleton.mp member
  · cases member

theorem destroy_silent_iff (rig : Rig) (present : rig.wheel.device.isPresent = true)
    (classic : rig.wheel.protocol = .logitechClassic) :
    Silent (destroy.run rig).2.line.delivered ↔
      Silent rig.line.delivered ∨ rig.line.Carries := by
  rw [destroy_delivered rig present, classic, silent_append_quiet_iff fun report member => by
    rw [mem_returned member]
    exact Protocol.enableAutocenter_quiet _ _]
  by_cases stopped : rig.line.Carries
  · rw [if_pos stopped]
    refine iff_of_true ?_ (Or.inr stopped)
    exact silent_append_stop _ (fun unsupported => False.elim (unsupported rfl))
      fun _ absent => by cases absent
  · rw [if_neg stopped, List.append_nil]
    exact ⟨Or.inl, fun either => either.resolve_right stopped⟩

theorem destroy_autocenter_iff (rig : Rig) (present : rig.wheel.device.isPresent = true)
    (classic : rig.wheel.protocol = .logitechClassic) :
    lastAutocenter (destroy.run rig).2.line.delivered =
        some (Protocol.enableAutocenter .logitechClassic 0x0F) ↔
      lastAutocenter rig.line.delivered =
          some (Protocol.enableAutocenter .logitechClassic 0x0F) ∨
        (rig.line.attempt rig.wheel.stopBatch).2.Carries := by
  have stops : lastAutocenter (if rig.line.Carries then
      [Protocol.stopForce .logitechClassic 0x0F] else []) = none := by
    apply lastAutocenter_of_none
    intro report member
    split at member
    · rw [List.mem_singleton.mp member]
      exact Report.isAutocenter_of_opcode (Protocol.stopForce_opcode _) (by decide)
    · cases member
  have returns : lastAutocenter [Protocol.enableAutocenter .logitechClassic 0x0F] =
      some (Protocol.enableAutocenter .logitechClassic 0x0F) := rfl
  have nothing : lastAutocenter [] = none := rfl
  rw [destroy_delivered rig present, classic, lastAutocenter_append, lastAutocenter_append, stops,
    Option.none_or]
  by_cases returned : (rig.line.attempt rig.wheel.stopBatch).2.Carries
  · rw [if_pos returned, returns]
    exact iff_of_true rfl (Or.inr returned)
  · rw [if_neg returned, nothing, Option.none_or]
    exact ⟨Or.inl, fun either => either.resolve_right returned⟩

theorem destroy_leds (rig : Rig) (present : rig.wheel.device.isPresent = true)
    (classic : rig.wheel.protocol = .logitechClassic) :
    lastLeds (destroy.run rig).2.line.delivered = lastLeds rig.line.delivered := by
  rw [destroy_delivered rig present, classic, List.append_assoc]
  apply lastLeds_append_none
  intro report member
  rcases List.mem_append.mp member with stop | returned
  · split at stop
    · rw [List.mem_singleton.mp stop]
      exact Report.isLeds_of_opcode (Protocol.stopForce_opcode _) (by decide)
    · cases stop
  · rw [mem_returned returned]
    exact Report.isLeds_of_opcode (Protocol.enableAutocenter_opcode _) (by decide)

end Wheel

namespace Plugin

variable {F : Type} [FloatArith F]

/-- Whatever was called and whatever failed before, after the unloading no slot
plays exactly when none played before or the stop got through, the centering is
on exactly when it was on before or was given back, and the LEDs show what they
showed. -/
theorem unload_leaves {devices : List HidDevice} {outcome : Nat → Bool}
    {callbacks : List (Callback F)} {plugin : Plugin F}
    (reached : run (load devices outcome) callbacks = some plugin)
    (present : (load devices outcome : Plugin F).simulator.wheel.device.isPresent = true)
    (classic : (load devices outcome : Plugin F).simulator.wheel.protocol = .logitechClassic) :
    (Silent (Wheel.destroy.run plugin.rig).2.line.delivered ↔
      Silent plugin.line.delivered ∨ plugin.line.Carries) ∧
    (lastAutocenter (Wheel.destroy.run plugin.rig).2.line.delivered =
        some (Protocol.enableAutocenter .logitechClassic 0x0F) ↔
      lastAutocenter plugin.line.delivered =
          some (Protocol.enableAutocenter .logitechClassic 0x0F) ∨
        (plugin.line.attempt plugin.simulator.wheel.stopBatch).2.Carries) ∧
    lastLeds (Wheel.destroy.run plugin.rig).2.line.delivered = lastLeds plugin.line.delivered := by
  obtain ⟨device, protocol, _⟩ := run_sameDevice reached
  have held : plugin.rig.wheel.device.isPresent = true := by
    rw [device]
    exact present
  have speaks : plugin.rig.wheel.protocol = .logitechClassic := protocol.trans classic
  exact ⟨Wheel.destroy_silent_iff plugin.rig held speaks,
    Wheel.destroy_autocenter_iff plugin.rig held speaks,
    Wheel.destroy_leds plugin.rig held speaks⟩

/-- A plugin that is loaded and unloaded, where the stop of the unloading does
not get through. -/
theorem unload_leaves_at_failingStop :
    ∃ plugin : Plugin ℚ,
      run (load [.g29] fun position => position != 10) [] = some plugin ∧
      (Silent (Wheel.destroy.run plugin.rig).2.line.delivered ↔
        Silent plugin.line.delivered ∨ plugin.line.Carries) ∧
      (lastAutocenter (Wheel.destroy.run plugin.rig).2.line.delivered =
          some (Protocol.enableAutocenter .logitechClassic 0x0F) ↔
        lastAutocenter plugin.line.delivered =
            some (Protocol.enableAutocenter .logitechClassic 0x0F) ∨
          (plugin.line.attempt plugin.simulator.wheel.stopBatch).2.Carries) ∧
      lastLeds (Wheel.destroy.run plugin.rig).2.line.delivered =
        lastLeds plugin.line.delivered := by
  have loaded : run (load [.g29] fun position => position != 10) [] =
      some (load [.g29] fun position => position != 10 : Plugin ℚ) := rfl
  exact ⟨_, loaded, unload_leaves loaded rfl rfl⟩

end Plugin

end Fffb
