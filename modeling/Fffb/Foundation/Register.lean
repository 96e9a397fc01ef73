import Fffb.Foundation.Transition

/-
What a register of a machine holds.

Some events give a register a value and the others leave it alone.  After a run
it holds the last value that it was given, or what it held before.
-/

namespace Fffb.Register

variable {State Event Value : Type}

def lastGiven (given : Event → Option Value) (events : List Event) : Option Value :=
  (events.filterMap given).getLast?

theorem lastGiven_cons (given : Event → Option Value) (event : Event) (rest : List Event) :
    lastGiven given (event :: rest) = (lastGiven given rest).or (given event) := by
  unfold lastGiven
  cases first : given event with
  | none =>
      rw [List.filterMap_cons_none first, Option.or_none]
  | some value =>
      rw [List.filterMap_cons_some first, List.getLast?_cons]
      cases (rest.filterMap given).getLast? with
      | none => rfl
      | some last => rfl

theorem run_reads {step : State → Event → Option State} {Allowed : Event → Prop}
    {read : State → Value} {given : Event → Option Value}
    (stores : ∀ state event next, Allowed event → step state event = some next →
      read next = (given event).getD (read state))
    {state last : State} {events : List Event} (allowed : ∀ event ∈ events, Allowed event)
    (ends : Transition.run step state events = some last) :
    read last = (lastGiven given events).getD (read state) := by
  induction events generalizing state with
  | nil =>
      cases ends
      rfl
  | cons event rest ih =>
      obtain ⟨next, stepped, continued⟩ := Transition.run_cons_cases ends
      have first := stores state event next (allowed event List.mem_cons_self) stepped
      have later := ih (fun other member => allowed other (List.mem_cons_of_mem event member))
        continued
      rw [later, first, lastGiven_cons]
      cases lastGiven given rest with
      | none => rfl
      | some value => rfl

end Fffb.Register
