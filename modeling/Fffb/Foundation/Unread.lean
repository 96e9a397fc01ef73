import Fffb.Foundation.CallLog
import Fffb.Foundation.Transition

/-
Machines that write to a line and never read what became of it.

When every step makes the same transactions whatever line it is given, a whole
run does so too: the messages are those of the run itself, and a failing line
only decides which of them get through.
-/

namespace Fffb

namespace Line

variable {Message : Type}

theorem carriedAll_sublist (batches : List (List Message)) (line : Line Message) :
    (line.carriedAll batches).Sublist batches.flatten := by
  induction batches generalizing line with
  | nil => exact List.Sublist.refl _
  | cons messages rest ih =>
      have front := carried_prefix line messages
      rw [List.flatten_cons]
      exact front.sublist.append (ih _)

end Line

namespace Transition

variable {State Event Message : Type}

/-- The state on some line goes through the event as it does on every other,
and makes these transactions on it. -/
def Unread (step : State → Event → Option State) (onLine : Line Message → State → State)
    (state : State) (event : Event) (batches : List (List Message)) : Prop :=
  ∀ line, step (onLine line state) event =
    (step state event).map (onLine (line.attemptAll batches))

theorem run_unread {step : State → Event → Option State} {onLine : Line Message → State → State}
    {Allowed : Event → Prop}
    (unread : ∀ state event, Allowed event → ∃ batches, Unread step onLine state event batches)
    {events : List Event} (allowed : ∀ event ∈ events, Allowed event) (state : State) :
    ∃ batches, ∀ line, run step (onLine line state) events =
      (run step state events).map (onLine (line.attemptAll batches)) := by
  induction events generalizing state with
  | nil => exact ⟨[], fun _ => rfl⟩
  | cons event rest ih =>
      obtain ⟨now, first⟩ := unread state event (allowed event List.mem_cons_self)
      cases stepped : step state event with
      | none =>
          refine ⟨[], fun line => ?_⟩
          rw [run_cons, run_cons, first line, stepped]
          rfl
      | some next =>
          obtain ⟨later, continued⟩ :=
            ih (fun other member => allowed other (List.mem_cons_of_mem event member)) next
          refine ⟨now ++ later, fun line => ?_⟩
          rw [run_cons, run_cons, first line, stepped, Line.attemptAll_append]
          exact continued (line.attemptAll now)

end Transition

end Fffb
