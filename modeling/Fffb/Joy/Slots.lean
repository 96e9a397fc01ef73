import Fffb.Foundation.Latch
import Fffb.Foundation.Overlay
import Fffb.Joy.Commands

/-
The wheel as its reports make it: four slots, each of which plays or does not
and holds the parameters that were last loaded into it.
-/

namespace Fffb.Slot

def starts (slot : Fin 4) (report : Report) : Bool := report.isPlay && report.names slot

def stops (slot : Fin 4) (report : Report) : Bool := report.isStop && report.names slot

def playing (slot : Fin 4) (reports : List Report) : Bool :=
  Latch.latched (starts slot) (stops slot) reports

/-- A download or a refresh replaces what it names. -/
def loads (report : Report) (slot : Fin 4) : Bool :=
  (report.opcode == 0x00 || report.opcode == 0x0C) && report.names slot

/-- What the slots hold after these reports: a type byte and six parameters. -/
def content (before : Fin 4 → Vector U8 7) (reports : List Report) : Fin 4 → Vector U8 7 :=
  Overlay.writeAll loads Report.payload before reports

theorem starts_of_quiet {report : Report} (quiet : report.Quiet) (slot : Fin 4) :
    starts slot report = false := by
  unfold starts
  rw [quiet.1]
  rfl

theorem stops_of_quiet {report : Report} (quiet : report.Quiet) (slot : Fin 4) :
    stops slot report = false := by
  unfold stops
  rw [quiet.2]
  rfl

theorem playing_append_quiet (slot : Fin 4) (before after : List Report)
    (quiet : ∀ report ∈ after, report.Quiet) :
    playing slot (before ++ after) = playing slot before := by
  unfold playing
  rw [Latch.latched_append]
  apply Latch.latchFrom_quiet
  · intro report member
    exact starts_of_quiet (quiet report member) slot
  · intro report member
    exact stops_of_quiet (quiet report member) slot

theorem playing_append_stop (slot : Fin 4) (before after : List Report)
    (quiet : ∀ report ∈ after, report.Quiet) :
    playing slot (before ++ Protocol.stopForce .logitechClassic 0x0F :: after) = false := by
  apply Latch.latched_of_cleared
  · revert slot
    decide
  · revert slot
    decide
  · intro report member
    exact starts_of_quiet (quiet report member) slot

theorem playing_append_play (slot : Fin 4) (before : List Report) (mask : U8)
    (silent : playing slot before = false) :
    playing slot (before ++ [Protocol.playForce .logitechClassic mask]) =
      mask.getLsbD slot := by
  have named : (Protocol.playForce .logitechClassic mask).names slot = mask.getLsbD slot := by
    unfold Report.names
    rw [Protocol.playForce_slots, Nibble.getLsbD_low]
    simp
  unfold playing at *
  rw [Latch.latched_append, silent, Latch.latchFrom_singleton]
  unfold starts stops
  rw [Protocol.playForce_isPlay, Protocol.playForce_isStop, named]
  cases mask.getLsbD slot with
  | false => rfl
  | true => rfl

theorem playing_append_started (slot : Fin 4) (before : List Report) (mask : U8) :
    playing slot (before ++ [Protocol.playForce .logitechClassic mask]) =
      (playing slot before || mask.getLsbD slot) := by
  cases already : playing slot before with
  | false =>
      rw [playing_append_play slot before mask already]
      rfl
  | true =>
      unfold playing at *
      rw [Latch.latched_append, already, Latch.latchFrom_singleton]
      unfold stops
      rw [Protocol.playForce_isStop]
      exact ite_self true

end Fffb.Slot
