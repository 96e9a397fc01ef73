import Mathlib.Data.List.Induction

/-
A latch that some events set and others clear.

The state of the latch is computed by folding over the events seen so far.
`latched_iff` is what the fold is for: the latch is on exactly when some event
set it and nothing cleared it since.
-/

namespace Fffb.Latch

variable {Event : Type}

/-- The latch after more events, starting from `on`. -/
def latchFrom (sets clears : Event → Bool) (on : Bool) (events : List Event) : Bool :=
  events.foldl
    (fun on event => if sets event then true else if clears event then false else on) on

def latched (sets clears : Event → Bool) (events : List Event) : Bool :=
  latchFrom sets clears false events

/-- An event set the latch and no later event cleared it. -/
def SetSince (sets clears : Event → Bool) (events : List Event) : Prop :=
  ∃ before event after, events = before ++ event :: after ∧ sets event = true ∧
    ∀ later ∈ after, clears later = false

variable (sets clears : Event → Bool)

@[simp] theorem latchFrom_nil (on : Bool) : latchFrom sets clears on [] = on := rfl

@[simp] theorem latchFrom_cons (on : Bool) (event : Event) (rest : List Event) :
    latchFrom sets clears on (event :: rest) =
      latchFrom sets clears (if sets event then true else if clears event then false else on)
        rest := rfl

theorem latchFrom_singleton (on : Bool) (event : Event) :
    latchFrom sets clears on [event] =
      if sets event then true else if clears event then false else on := rfl

theorem latchFrom_append (on : Bool) (first second : List Event) :
    latchFrom sets clears on (first ++ second) =
      latchFrom sets clears (latchFrom sets clears on first) second :=
  List.foldl_append

theorem latched_append (first second : List Event) :
    latched sets clears (first ++ second) =
      latchFrom sets clears (latched sets clears first) second :=
  latchFrom_append sets clears false first second

theorem latchFrom_true (events : List Event) (quiet : ∀ event ∈ events, clears event = false) :
    latchFrom sets clears true events = true := by
  induction events with
  | nil => rfl
  | cons event rest ih =>
      have first := quiet event List.mem_cons_self
      have step : (if sets event then true else if clears event then false else true) = true := by
        simp [first]
      rw [latchFrom_cons, step]
      exact ih fun later member => quiet later (List.mem_cons_of_mem event member)

theorem latchFrom_false (events : List Event) (quiet : ∀ event ∈ events, sets event = false) :
    latchFrom sets clears false events = false := by
  induction events with
  | nil => rfl
  | cons event rest ih =>
      have first := quiet event List.mem_cons_self
      have step : (if sets event then true else if clears event then false else false) = false := by
        simp [first]
      rw [latchFrom_cons, step]
      exact ih fun later member => quiet later (List.mem_cons_of_mem event member)

theorem latchFrom_quiet (on : Bool) (events : List Event)
    (neverSets : ∀ event ∈ events, sets event = false)
    (neverClears : ∀ event ∈ events, clears event = false) :
    latchFrom sets clears on events = on := by
  cases on with
  | false => exact latchFrom_false sets clears events neverSets
  | true => exact latchFrom_true sets clears events neverClears

theorem SetSince.append_quiet {first second : List Event} (since : SetSince sets clears first)
    (quiet : ∀ event ∈ second, clears event = false) :
    SetSince sets clears (first ++ second) := by
  obtain ⟨before, event, after, split, setting, kept⟩ := since
  refine ⟨before, event, after ++ second, ?_, setting, ?_⟩
  · rw [split, List.append_assoc, List.cons_append]
  · intro later member
    rcases List.mem_append.mp member with inFirst | inSecond
    · exact kept later inFirst
    · exact quiet later inSecond

/-- The fold and the reading of the whole history agree. -/
theorem latched_iff (events : List Event) :
    latched sets clears events = true ↔ SetSince sets clears events := by
  constructor
  · induction events using List.reverseRecOn with
    | nil =>
        intro impossible
        cases impossible
    | append_singleton initial last ih =>
        intro on
        rw [latched_append] at on
        cases setting : sets last with
        | true =>
            exact ⟨initial, last, [], rfl, setting, fun _ absent => by cases absent⟩
        | false =>
            cases clearing : clears last with
            | true =>
                simp [setting, clearing] at on
            | false =>
                have before : latched sets clears initial = true := by
                  simpa [setting, clearing] using on
                apply SetSince.append_quiet sets clears (ih before)
                intro event member
                rw [List.mem_singleton.mp member]
                exact clearing
  · rintro ⟨before, event, after, split, setting, kept⟩
    rw [split, latched_append]
    simp only [latchFrom_cons, setting, if_true]
    exact latchFrom_true sets clears after kept

theorem latched_of_cleared (before after : List Event) (event : Event)
    (notSets : sets event = false) (clearing : clears event = true)
    (quiet : ∀ later ∈ after, sets later = false) :
    latched sets clears (before ++ event :: after) = false := by
  rw [latched_append]
  simp only [latchFrom_cons, notSets, clearing, if_true, Bool.false_eq_true, if_false]
  exact latchFrom_false sets clears after quiet

end Fffb.Latch
