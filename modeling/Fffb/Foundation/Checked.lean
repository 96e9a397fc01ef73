/-
Steps of a stateful computation whose boolean result is checked at once.

A checked step that yields `false` ends the computation with `false`; one that
yields `true` hands its state to the rest.
-/

namespace Fffb.Checked

variable {State : Type} {operation : StateM State Bool} {state next : State}

theorem run_of_true (succeeds : operation.run state = (true, next)) (rest : StateM State Bool) :
    (do
      if !(← operation) then return false
      rest).run state = rest.run next := by
  simp only [StateT.run_bind]
  rw [succeeds]
  rfl

theorem run_of_false (fails : operation.run state = (false, next)) (rest : StateM State Bool) :
    (do
      if !(← operation) then return false
      rest).run state = (false, next) := by
  simp only [StateT.run_bind]
  rw [fails]
  rfl

theorem run_of_last (operation : StateM State Bool) :
    (do
      if !(← operation) then return false
      return true).run state = operation.run state := by
  cases ended : operation.run state with
  | mk succeeded next =>
      cases succeeded with
      | false => exact run_of_false ended _
      | true => exact run_of_true ended _

theorem run_of_get {Result : Type} (rest : State → StateM State Result) :
    (do
      let current ← get
      rest current).run state = (rest state).run state := rfl

theorem run_of_result {Returned Result : Type} {operation : StateM State Returned}
    {returned : Returned} (ends : operation.run state = (returned, next))
    (rest : Returned → StateM State Result) :
    (do
      let value ← operation
      rest value).run state = (rest returned).run next := by
  simp only [StateT.run_bind]
  rw [ends]
  rfl

theorem run_of_dropped {Dropped Result : Type} {operation : StateM State Dropped}
    {dropped : Dropped} (ends : operation.run state = (dropped, next))
    (rest : StateM State Result) :
    (do
      let _ ← operation
      rest).run state = rest.run next :=
  run_of_result ends fun _ => rest

end Fffb.Checked
