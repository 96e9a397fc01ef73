import Fffb.Foundation.Simulation
import Fffb.Foundation.Transition

/-
Steps that touch only some parts of a state, and the order they are taken in.

A state is made of parts: two states that agree in every part are the same.  A
step is confined to some parts when it leaves the others alone and what it does
depends on these parts only.  Steps confined to different parts commute, so a
run is decided by the events that touch each part, in their order there,
however the events of different parts are interleaved.
-/

namespace Fffb

/-- The parts of a state, each with the relation of two states that hold the
same in it. -/
structure Parts (State Part : Type) where
  Same : Part → State → State → Prop
  refl : ∀ part state, Same part state state
  symm : ∀ {part left right}, Same part left right → Same part right left
  trans : ∀ {part left middle right}, Same part left middle → Same part middle right →
    Same part left right
  ext : ∀ {left right}, (∀ part, Same part left right) → left = right

namespace Footprint

variable {State Event Part : Type} (parts : Parts State Part)

def Agree (touched : Part → Bool) (left right : State) : Prop :=
  ∀ part, touched part = true → parts.Same part left right

/-- The step leaves the parts that it does not touch alone, and what it makes of
the others depends on these others only. -/
structure Confined (touched : Part → Bool) (step : State → Option State) : Prop where
  frame : ∀ {state next}, step state = some next →
    ∀ part, touched part = false → parts.Same part state next
  reads : ∀ {left right}, Agree parts touched left right →
    Option.Rel (Agree parts touched) (step left) (step right)

variable {parts} {touched other : Part → Bool} {first second : State → Option State}

theorem confined_of_all (all : ∀ part, touched part = true) (step : State → Option State) :
    Confined parts touched step where
  frame _ part untouched := by
    rw [all part] at untouched
    cases untouched
  reads agree := by
    rw [parts.ext fun part => agree part (all part)]
    cases step _ with
    | none => exact .none
    | some next => exact .some fun part _ => parts.refl part next

theorem Confined.reads_after (one : Confined parts touched first)
    (two : Confined parts other second) (apart : ∀ part, touched part = true → other part = false)
    {state next : State} (stepped : second state = some next) :
    Option.Rel (Agree parts touched) (first state) (first next) :=
  one.reads fun part touches => two.frame stepped part (apart part touches)

theorem Confined.commutes (one : Confined parts touched first)
    (two : Confined parts other second) (apart : ∀ part, touched part = true → other part = false)
    (state : State) :
    ((first state).bind second) = ((second state).bind first) := by
  have swapped : ∀ part, other part = true → touched part = false := by
    intro part touches
    cases inFirst : touched part with
    | false => rfl
    | true =>
        rw [apart part inFirst] at touches
        cases touches
  cases ended : first state with
  | none =>
      cases later : second state with
      | none => rfl
      | some right =>
          have still := one.reads_after two apart later
          rw [ended] at still
          exact ((Simulation.rel_none_iff still).mp rfl).symm
  | some left =>
      have again := two.reads_after one swapped ended
      cases later : second state with
      | none =>
          rw [later] at again
          exact (Simulation.rel_none_iff again).mp rfl
      | some right =>
          have still := one.reads_after two apart later
          rw [later] at again
          rw [ended] at still
          change second left = first right
          cases fromLeft : second left with
          | none =>
              rw [fromLeft] at again
              cases again
          | some last =>
              cases fromRight : first right with
              | none =>
                  rw [fromRight] at still
                  cases still
              | some final =>
                  rw [fromLeft] at again
                  rw [fromRight] at still
                  obtain ⟨secondAgree⟩ := again
                  obtain ⟨firstAgree⟩ := still
                  refine congrArg some (parts.ext fun part => ?_)
                  cases inFirst : touched part with
                  | true =>
                      have kept := two.frame fromLeft part (apart part inFirst)
                      exact parts.trans (parts.symm kept) (firstAgree part inFirst)
                  | false =>
                      have keptAfter := one.frame fromRight part inFirst
                      cases inSecond : other part with
                      | true => exact parts.trans (parts.symm (secondAgree part inSecond)) keptAfter
                      | false =>
                          have toLeft := one.frame ended part inFirst
                          have toLast := two.frame fromLeft part inSecond
                          have toRight := two.frame later part inSecond
                          have fromStart := parts.trans toLeft toLast
                          exact parts.trans (parts.symm fromStart) (parts.trans toRight keptAfter)

variable {step : State → Event → Option State} {touches : Event → Part → Bool}

def projection (touches : Event → Part → Bool) (part : Part) (events : List Event) : List Event :=
  events.filter fun event => touches event part

theorem mem_projection {part : Part} {event : Event} {events : List Event} :
    event ∈ projection touches part events ↔ event ∈ events ∧ touches event part = true :=
  List.mem_filter

theorem projection_append (part : Part) (front back : List Event) :
    projection touches part (front ++ back) =
      projection touches part front ++ projection touches part back :=
  List.filter_append front back

theorem projection_cons_of_touched {part : Part} {event : Event}
    (touched : touches event part = true) (rest : List Event) :
    projection touches part (event :: rest) = event :: projection touches part rest :=
  List.filter_cons_of_pos touched

theorem projection_cons_of_untouched {part : Part} {event : Event}
    (untouched : touches event part = false) (rest : List Event) :
    projection touches part (event :: rest) = projection touches part rest := by
  have skipped : ¬ touches event part = true := Bool.eq_false_iff.mp untouched
  exact List.filter_cons_of_neg skipped

theorem run_earlier {event : Event} {before : List Event}
    (moving : Confined parts (touches event) fun state => step state event)
    (passed : ∀ other ∈ before, Confined parts (touches other) fun state => step state other)
    (apart : ∀ other ∈ before, ∀ part, touches event part = true → touches other part = false)
    (after : List Event) (state : State) :
    Transition.run step state (before ++ event :: after) =
      Transition.run step state (event :: (before ++ after)) := by
  induction before generalizing state with
  | nil => rfl
  | cons other before ih =>
      have rest := ih (fun later member => passed later (List.mem_cons_of_mem other member))
        fun later member => apart later (List.mem_cons_of_mem other member)
      have commuted := moving.commutes (passed other List.mem_cons_self)
        (apart other List.mem_cons_self) state
      calc Transition.run step state (other :: before ++ event :: after)
          = (step state other).bind fun next =>
              Transition.run step next (before ++ event :: after) := rfl
        _ = (step state other).bind fun next =>
              (step next event).bind fun last => Transition.run step last (before ++ after) := by
            congr 1
            funext next
            exact rest next
        _ = ((step state other).bind fun next => step next event).bind fun last =>
              Transition.run step last (before ++ after) := by rw [Option.bind_assoc]
        _ = ((step state event).bind fun next => step next other).bind fun last =>
              Transition.run step last (before ++ after) := by rw [← commuted]
        _ = _ := by
            rw [Option.bind_assoc]
            rfl

/-- The events that touch each part, in their order there, decide the run. -/
theorem run_eq_of_projections {Allowed : Event → Prop}
    (confined : ∀ event, Allowed event →
      Confined parts (touches event) fun state => step state event)
    (touching : ∀ event, Allowed event → ∃ part, touches event part = true)
    {left right : List Event} (leftAllowed : ∀ event ∈ left, Allowed event)
    (rightAllowed : ∀ event ∈ right, Allowed event)
    (same : ∀ part, projection touches part left = projection touches part right)
    (state : State) : Transition.run step state left = Transition.run step state right := by
  induction left generalizing right state with
  | nil =>
      cases right with
      | nil => rfl
      | cons event rest =>
          obtain ⟨part, touched⟩ := touching event (rightAllowed event List.mem_cons_self)
          have absent := same part
          rw [projection_cons_of_touched touched] at absent
          cases absent
  | cons event rest ih =>
      have allowed := leftAllowed event List.mem_cons_self
      have listed : event ∈ right := by
        obtain ⟨part, touched⟩ := touching event allowed
        have member : event ∈ projection touches part (event :: rest) :=
          mem_projection.mpr ⟨List.mem_cons_self, touched⟩
        rw [same part] at member
        exact (mem_projection.mp member).1
      obtain ⟨before, after, rfl, fresh⟩ := List.eq_append_cons_of_mem listed
      -- on a part of the event nothing stands before its first occurrence
      have split : ∀ part, touches event part = true → projection touches part before = [] ∧
          projection touches part rest = projection touches part after := by
        intro part touched
        have projected := same part
        rw [projection_append, projection_cons_of_touched touched,
          projection_cons_of_touched touched] at projected
        cases front : projection touches part before with
        | nil =>
            rw [front, List.nil_append] at projected
            exact ⟨rfl, (List.cons.inj projected).2⟩
        | cons first others =>
            have member : first ∈ projection touches part before := by
              rw [front]
              exact List.mem_cons_self
            rw [front, List.cons_append] at projected
            rw [← (List.cons.inj projected).1] at member
            exact False.elim (fresh (mem_projection.mp member).1)
      have passed : ∀ other ∈ before, Confined parts (touches other) fun state => step state other :=
        fun other member => confined other (rightAllowed other (List.mem_append_left _ member))
      have apart : ∀ other ∈ before, ∀ part, touches event part = true →
          touches other part = false := by
        intro other member part touched
        have none := (split part touched).1
        cases inOther : touches other part with
        | false => rfl
        | true =>
            have projected := mem_projection.mpr ⟨member, inOther⟩
            rw [none] at projected
            cases projected
      have remaining : ∀ part,
          projection touches part rest = projection touches part (before ++ after) := by
        intro part
        cases touched : touches event part with
        | true =>
            obtain ⟨none, behind⟩ := split part touched
            rw [projection_append, none, behind, List.nil_append]
        | false =>
            have projected := same part
            rw [projection_append, projection_cons_of_untouched touched,
              projection_cons_of_untouched touched, ← projection_append] at projected
            exact projected
      have othersAllowed : ∀ other ∈ before ++ after, Allowed other := by
        intro other member
        apply rightAllowed other
        rcases List.mem_append.mp member with front | back
        · exact List.mem_append_left _ front
        · exact List.mem_append_right _ (List.mem_cons_of_mem event back)
      rw [run_earlier (confined event allowed) passed apart]
      exact congrArg (Option.bind (step state event)) (funext fun next =>
        ih (fun other member => leftAllowed other (List.mem_cons_of_mem event member))
          othersAllowed remaining next)

end Footprint

end Fffb
