import Mathlib.Data.Option.Defs
import Mathlib.Data.List.Basic
import Mathlib.Data.List.Forall2

/-
Runs of a deterministic machine that may get stuck.

A step consumes one event and either yields the next state or stops the
machine for good.  The rules below lift what one step does to what a whole run
does: an invariant, a relation between two runs on the same events, and a
history value that is carried along without influencing the machine.
-/

namespace Fffb.Transition

variable {State Event Note : Type}

def run (step : State → Event → Option State) (state : State) (events : List Event) :
    Option State :=
  events.foldlM step state

theorem run_cons (step : State → Event → Option State) (state : State) (event : Event)
    (rest : List Event) :
    run step state (event :: rest) = (step state event).bind fun next => run step next rest := rfl

theorem run_cons_cases {step : State → Event → Option State} {state last : State} {event : Event}
    {rest : List Event} (ends : run step state (event :: rest) = some last) :
    ∃ next, step state event = some next ∧ run step next rest = some last :=
  Option.bind_eq_some_iff.mp ends

theorem run_append (step : State → Event → Option State) (state : State)
    (first second : List Event) :
    run step state (first ++ second) =
      (run step state first).bind fun next => run step next second :=
  List.foldlM_append

theorem run_append_some {step : State → Event → Option State} {state middle last : State}
    {first rest : List Event} (reached : run step state first = some middle)
    (ends : run step middle rest = some last) : run step state (first ++ rest) = some last := by
  rw [run_append, reached]
  exact ends

theorem run_through {step : State → Event → Option State} {state middle next last : State}
    {first rest : List Event} {event : Event} (reached : run step state first = some middle)
    (stepped : step middle event = some next) (ends : run step next rest = some last) :
    run step state (first ++ event :: rest) = some last := by
  apply run_append_some reached
  rw [run_cons, stepped]
  exact ends

/-- What every step keeps, every run keeps. -/
theorem run_preserves {step : State → Event → Option State} {Invariant : State → Prop}
    (kept : ∀ state event next, Invariant state → step state event = some next → Invariant next)
    {state last : State} {events : List Event} (holds : Invariant state)
    (ends : run step state events = some last) : Invariant last := by
  induction events generalizing state with
  | nil =>
      cases ends
      exact holds
  | cons event rest ih =>
      obtain ⟨next, stepped, continued⟩ := run_cons_cases ends
      exact ih (kept state event next holds stepped) continued

/-- The same for a property that only some events keep. -/
theorem run_preserves_of_forall {step : State → Event → Option State}
    {Allowed : Event → Prop} {Invariant : State → Prop}
    (kept : ∀ state event next, Allowed event → Invariant state →
      step state event = some next → Invariant next)
    {state last : State} {events : List Event} (allowed : ∀ event ∈ events, Allowed event)
    (holds : Invariant state) (ends : run step state events = some last) : Invariant last := by
  induction events generalizing state with
  | nil =>
      cases ends
      exact holds
  | cons event rest ih =>
      obtain ⟨next, stepped, continued⟩ := run_cons_cases ends
      have first := allowed event List.mem_cons_self
      exact ih (fun later member => allowed later (List.mem_cons_of_mem event member))
        (kept state event next first holds stepped) continued

/-- A run keeps the invariant to its end, or it comes to an event that breaks
it while it still holds. -/
theorem run_preserves_or_breaks {step : State → Event → Option State} {Invariant : State → Prop}
    {Breaks : State → Event → Prop}
    (kept : ∀ state event next, Invariant state → step state event = some next →
      Invariant next ∨ Breaks state event)
    {state last : State} {events : List Event} (holds : Invariant state)
    (ends : run step state events = some last) :
    Invariant last ∨ ∃ before event after middle, events = before ++ event :: after ∧
      run step state before = some middle ∧ Invariant middle ∧ Breaks middle event := by
  induction events generalizing state with
  | nil =>
      cases ends
      exact Or.inl holds
  | cons event rest ih =>
      obtain ⟨next, stepped, continued⟩ := run_cons_cases ends
      rcases kept state event next holds stepped with still | broken
      · rcases ih still continued with throughout | ⟨before, later, after, middle, split, reached, both⟩
        · exact Or.inl throughout
        · refine Or.inr ⟨event :: before, later, after, middle, ?_, ?_, both⟩
          · rw [split, List.cons_append]
          · rw [run_cons, stepped]
            exact reached
      · exact Or.inr ⟨[], event, rest, state, rfl, rfl, holds, broken⟩

/-- Where the past tells which events a state serves, a run is never stopped
exactly when each of its events is served after those before it. -/
theorem run_isSome_iff {step : State → Event → Option State}
    {Follows : List Event → State → Prop} {Serves : List Event → Event → Prop}
    (kept : ∀ past state event next, Follows past state → step state event = some next →
      Follows (past ++ [event]) next)
    (served : ∀ past state event, Follows past state →
      ((step state event).isSome = true ↔ Serves past event))
    {past : List Event} {state : State} (follows : Follows past state) (events : List Event) :
    (run step state events).isSome = true ↔
      ∀ before event after, events = before ++ event :: after →
        Serves (past ++ before) event := by
  induction events generalizing past state with
  | nil =>
      constructor
      · intro _ before event after split
        cases before with
        | nil => cases split
        | cons first before => cases split
      · intro _
        rfl
  | cons event rest ih =>
      have now := served past state event follows
      rw [run_cons]
      cases stepped : step state event with
      | none =>
          rw [stepped] at now
          constructor
          · intro stuck
            cases stuck
          · intro all
            have first := all [] event rest rfl
            rw [List.append_nil] at first
            exact now.mpr first
      | some next =>
          rw [stepped] at now
          rw [Option.bind_some, ih (kept past state event next follows stepped)]
          constructor
          · intro later before other after split
            cases before with
            | nil =>
                cases split
                rw [List.append_nil]
                exact now.mp rfl
            | cons first before =>
                cases split
                have continued := later before other after rfl
                rw [List.append_assoc] at continued
                exact continued
          · intro all before other after split
            have continued := all (event :: before) other after (by rw [split]; rfl)
            rw [List.append_assoc]
            exact continued

/-- Two runs on the same events stay related, and either both stop or neither
does, when single steps do so. -/
theorem run_related {step : State → Event → Option State}
    {Allowed : Event → Prop} {Related : State → State → Prop}
    (kept : ∀ left right event, Allowed event → Related left right →
      Option.Rel Related (step left event) (step right event))
    {left right : State} {events : List Event} (allowed : ∀ event ∈ events, Allowed event)
    (related : Related left right) :
    Option.Rel Related (run step left events) (run step right events) := by
  induction events generalizing left right with
  | nil => exact .some related
  | cons event rest ih =>
      have first := kept left right event (allowed event List.mem_cons_self) related
      rw [run_cons, run_cons]
      revert first
      cases step left event <;> cases step right event <;> intro first
      · exact .none
      · cases first
      · cases first
      · cases first with
        | some next =>
            exact ih (fun later member => allowed later (List.mem_cons_of_mem event member)) next

theorem run_matched {Concrete Abstract Other : Type}
    {concrete : Concrete → Event → Option Concrete} {abstract : Abstract → Other → Option Abstract}
    {Related : Concrete → Abstract → Prop} {Matches : Event → Other → Prop}
    (kept : ∀ left right event other, Matches event other → Related left right →
      Option.Rel Related (concrete left event) (abstract right other))
    {events : List Event} {others : List Other} (matched : List.Forall₂ Matches events others)
    {left : Concrete} {right : Abstract} (related : Related left right) :
    Option.Rel Related (run concrete left events) (run abstract right others) := by
  induction matched generalizing left right with
  | nil => exact .some related
  | @cons event other rest remaining same matched ih =>
      have first := kept left right event other same related
      rw [run_cons, run_cons]
      revert first
      cases concrete left event <;> cases abstract right other <;> intro first
      · exact .none
      · cases first
      · cases first
      · cases first with
        | some next => exact ih next

theorem run_simulated {Concrete Abstract : Type} {concrete : Concrete → Event → Option Concrete}
    {abstract : Abstract → Event → Option Abstract} {Related : Concrete → Abstract → Prop}
    (kept : ∀ left right event, Related left right →
      Option.Rel Related (concrete left event) (abstract right event))
    {left : Concrete} {right : Abstract} (related : Related left right) (events : List Event) :
    Option.Rel Related (run concrete left events) (run abstract right events) := by
  have matched : List.Forall₂ (fun event other => event = other) events events :=
    List.forall₂_same.mpr fun _ _ => rfl
  refine run_matched (fun left right event other same held => ?_) matched related
  subst same
  exact kept left right event held

/-! ### Flags -/

/-- Some event of the run raises a flag, and no later one lowers it. -/
def RaisedSince (step : State → Event → Option State) (Raises : State → Event → Prop)
    (Lowers : Event → Prop) (state : State) (events : List Event) : Prop :=
  ∃ before event after middle, events = before ++ event :: after ∧
    run step state before = some middle ∧ Raises middle event ∧ ∀ later ∈ after, ¬ Lowers later

theorem not_raisedSince_nil (step : State → Event → Option State)
    (Raises : State → Event → Prop) (Lowers : Event → Prop) (state : State) :
    ¬ RaisedSince step Raises Lowers state [] := by
  rintro ⟨before, event, after, _, split, _⟩
  cases before with
  | nil => cases split
  | cons first before => cases split

theorem raisedSince_cons_iff {step : State → Event → Option State}
    {Raises : State → Event → Prop} {Lowers : Event → Prop} {state next : State} {event : Event}
    {rest : List Event} (stepped : step state event = some next) :
    RaisedSince step Raises Lowers state (event :: rest) ↔
      Raises state event ∧ (∀ later ∈ rest, ¬ Lowers later) ∨
        RaisedSince step Raises Lowers next rest := by
  constructor
  · rintro ⟨before, raising, after, middle, split, reached, raises, kept⟩
    cases before with
    | nil =>
        cases reached
        cases split
        exact Or.inl ⟨raises, kept⟩
    | cons first before =>
        cases split
        rw [run_cons, stepped] at reached
        exact Or.inr ⟨before, raising, after, middle, rfl, reached, raises, kept⟩
  · rintro (⟨raises, kept⟩ | ⟨before, raising, after, middle, rfl, reached, raises, kept⟩)
    · exact ⟨[], event, rest, state, rfl, rfl, raises, kept⟩
    · refine ⟨event :: before, raising, after, middle, rfl, ?_, raises, kept⟩
      rw [run_cons, stepped]
      exact reached

/-- A flag is up at the end of a run when it was up and nothing lowered it, or
when it was raised on the way and nothing lowered it since. -/
theorem run_flag_iff {step : State → Event → Option State} {Allowed : Event → Prop}
    {Invariant Up : State → Prop} {Raises : State → Event → Prop} {Lowers : Event → Prop}
    (kept : ∀ state event next, Allowed event → Invariant state → step state event = some next →
      Invariant next ∧ (Up next ↔ Raises state event ∨ Up state ∧ ¬ Lowers event))
    {state last : State} {events : List Event} (allowed : ∀ event ∈ events, Allowed event)
    (holds : Invariant state) (ends : run step state events = some last) :
    Up last ↔ Up state ∧ (∀ event ∈ events, ¬ Lowers event) ∨
      RaisedSince step Raises Lowers state events := by
  induction events generalizing state with
  | nil =>
      cases ends
      simp [not_raisedSince_nil]
  | cons event rest ih =>
      obtain ⟨next, stepped, continued⟩ := run_cons_cases ends
      obtain ⟨still, flag⟩ := kept state event next (allowed event List.mem_cons_self) holds stepped
      have later := ih (fun later member => allowed later (List.mem_cons_of_mem event member))
        still continued
      rw [later, flag, raisedSince_cons_iff stepped, List.forall_mem_cons, or_and_right, and_assoc,
        ← or_assoc]
      exact or_congr_left or_comm

/-! ### History values -/

def annotate (step : State → Event → Option State) (revise : Note → State → State → Note)
    (noted : State × Note) (event : Event) : Option (State × Note) :=
  (step noted.1 event).map fun next => (next, revise noted.2 noted.1 next)

/-- The note never stops or steers the machine. -/
theorem run_annotate (step : State → Event → Option State) (revise : Note → State → State → Note)
    (noted : State × Note) (events : List Event) :
    (run (annotate step revise) noted events).map Prod.fst = run step noted.1 events := by
  induction events generalizing noted with
  | nil => rfl
  | cons event rest ih =>
      rw [run_cons, run_cons]
      unfold annotate
      cases step noted.1 event with
      | none => rfl
      | some next => exact ih (next, revise noted.2 noted.1 next)

theorem exists_note {step : State → Event → Option State} {revise : Note → State → State → Note}
    {state last : State} {events : List Event} (note : Note)
    (ends : run step state events = some last) :
    ∃ final, run (annotate step revise) (state, note) events = some (last, final) := by
  have same := run_annotate step revise (state, note) events
  rw [ends] at same
  obtain ⟨⟨reached, final⟩, noted, rfl⟩ := Option.map_eq_some_iff.mp same
  exact ⟨final, noted⟩

end Fffb.Transition
