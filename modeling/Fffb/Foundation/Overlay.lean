import Mathlib.Data.List.Basic

/-
Places that messages overwrite.

Each message covers some places and puts one value into all of them.  What a
place holds in the end is the value of the last message that covers it, or what
it held before when none does.
-/

namespace Fffb.Overlay

variable {Place Value Message : Type}
variable (covers : Message → Place → Bool) (value : Message → Value)

def write (content : Place → Value) (message : Message) : Place → Value :=
  fun place => if covers message place then value message else content place

def writeAll (content : Place → Value) (messages : List Message) : Place → Value :=
  messages.foldl (write covers value) content

@[simp] theorem writeAll_cons (content : Place → Value) (message : Message)
    (rest : List Message) :
    writeAll covers value content (message :: rest) =
      writeAll covers value (write covers value content message) rest := rfl

theorem writeAll_append (content : Place → Value) (first second : List Message) :
    writeAll covers value content (first ++ second) =
      writeAll covers value (writeAll covers value content first) second :=
  List.foldl_append

theorem writeAll_uncovered (content : Place → Value) (messages : List Message) (place : Place)
    (uncovered : ∀ message ∈ messages, covers message place = false) :
    writeAll covers value content messages place = content place := by
  induction messages generalizing content with
  | nil => rfl
  | cons message rest ih =>
      have first := uncovered message List.mem_cons_self
      rw [writeAll_cons, ih _ fun later member => uncovered later (List.mem_cons_of_mem _ member)]
      unfold write
      rw [first]
      rfl

/-- Of a batch built from the chosen items only the chosen ones write. -/
theorem writeAll_chosen {Item : Type} (build : Item → Message) (chosen : Item → Bool)
    (content : Place → Value) (items : List Item) :
    writeAll covers value content ((items.filter chosen).map build) =
      items.foldl
        (fun current item =>
          if chosen item then write covers value current (build item) else current) content := by
  unfold writeAll
  rw [List.foldl_map, List.foldl_filter]

theorem chosen_write (chosen : Bool) (content : Place → Value) (message : Message)
    (place : Place) :
    (if chosen then write covers value content message else content) place =
      if chosen && covers message place then value message else content place := by
  cases chosen with
  | false => rfl
  | true => rfl

end Fffb.Overlay
