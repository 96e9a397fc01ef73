/-
A computation that may be undefined against one that is not.

The concrete computation simulates the abstract one over a relation between
their states when, from related states on, it is defined, returns the same
value and leaves related states.  The rules follow the shape of the programs.
-/

namespace Fffb.Simulation

variable {Concrete Abstract α β : Type}

def Simulates (Related : Concrete → Abstract → Prop) (concrete : StateT Concrete Option α)
    (abstract : StateM Abstract α) : Prop :=
  ∀ left right, Related left right →
    ∃ after, concrete.run left = some ((abstract.run right).1, after) ∧
      Related after (abstract.run right).2

variable {Related : Concrete → Abstract → Prop}

theorem simulates_pure (value : α) : Simulates Related (pure value) (pure value) :=
  fun left _ related => ⟨left, rfl, related⟩

theorem simulates_bind {concrete : StateT Concrete Option α} {abstract : StateM Abstract α}
    {concreteRest : α → StateT Concrete Option β} {abstractRest : α → StateM Abstract β}
    (first : Simulates Related concrete abstract)
    (rest : ∀ value, Simulates Related (concreteRest value) (abstractRest value)) :
    Simulates Related (concrete >>= concreteRest) (abstract >>= abstractRest) := by
  intro left right related
  obtain ⟨middle, ran, still⟩ := first left right related
  obtain ⟨after, continued, final⟩ := rest (abstract.run right).1 middle (abstract.run right).2 still
  refine ⟨after, ?_, final⟩
  rw [StateT.run_bind, ran]
  exact continued

theorem simulates_get (read : Concrete → α) (readAbstract : Abstract → α)
    {concreteRest : α → StateT Concrete Option β} {abstractRest : α → StateM Abstract β}
    (same : ∀ left right, Related left right → read left = readAbstract right)
    (rest : ∀ value, Simulates Related (concreteRest value) (abstractRest value)) :
    Simulates Related (do concreteRest (read (← get))) (do abstractRest (readAbstract (← get))) := by
  intro left right related
  obtain ⟨after, continued, final⟩ := rest (readAbstract right) left right related
  refine ⟨after, ?_, final⟩
  change (concreteRest (read left)).run left = _
  rw [same left right related]
  exact continued

theorem simulates_checked {concrete concreteRest : StateT Concrete Option Bool}
    {abstract abstractRest : StateM Abstract Bool} (first : Simulates Related concrete abstract)
    (rest : Simulates Related concreteRest abstractRest) :
    Simulates Related
      (do
        if !(← concrete) then return false
        concreteRest)
      (do
        if !(← abstract) then return false
        abstractRest) := by
  apply simulates_bind first
  intro succeeded
  cases succeeded with
  | false => exact simulates_pure false
  | true => exact rest

theorem simulates_dropped {concrete : StateT Concrete Option α} {abstract : StateM Abstract α}
    {concreteRest : StateT Concrete Option β} {abstractRest : StateM Abstract β}
    (first : Simulates Related concrete abstract)
    (rest : Simulates Related concreteRest abstractRest) :
    Simulates Related
      (do
        let _ ← concrete
        concreteRest)
      (do
        let _ ← abstract
        abstractRest) :=
  simulates_bind first fun _ => rest

/-- Two computations that may both be undefined, one step after another. -/
theorem rel_bind {Left Right NextLeft NextRight : Type} {Before : Left → Right → Prop}
    {After : NextLeft → NextRight → Prop} {left : Option Left} {right : Option Right}
    {leftRest : Left → Option NextLeft} {rightRest : Right → Option NextRight}
    (first : Option.Rel Before left right)
    (rest : ∀ left right, Before left right → Option.Rel After (leftRest left) (rightRest right)) :
    Option.Rel After (left.bind leftRest) (right.bind rightRest) := by
  cases first with
  | none => exact .none
  | some related => exact rest _ _ related

theorem rel_imp {Left Right : Type} {Before After : Left → Right → Prop} {left : Option Left}
    {right : Option Right} (related : Option.Rel Before left right)
    (weaker : ∀ left right, Before left right → After left right) :
    Option.Rel After left right := by
  cases related with
  | none => exact .none
  | some before => exact .some (weaker _ _ before)

/-- What the second computation is mapped to may depend on the value of the
first. -/
theorem rel_map {Left Right Other : Type} {Before : Left → Right → Prop}
    {After : Left → Other → Prop} {left : Option Left} {right : Option Right}
    {change : Right → Other} (related : Option.Rel Before left right)
    (changed : ∀ first second, left = some first → Before first second →
      After first (change second)) :
    Option.Rel After left (right.map change) := by
  cases related with
  | none => exact .none
  | some before => exact .some (changed _ _ rfl before)

theorem rel_some_left {Left Right : Type} {Related : Left → Right → Prop} {left : Option Left}
    {right : Option Right} {first : Left} (related : Option.Rel Related left right)
    (reached : left = some first) : ∃ second, right = some second ∧ Related first second := by
  cases related with
  | none => cases reached
  | some held =>
      cases reached
      exact ⟨_, rfl, held⟩

theorem rel_some_right {Left Right : Type} {Related : Left → Right → Prop} {left : Option Left}
    {right : Option Right} {second : Right} (related : Option.Rel Related left right)
    (reached : right = some second) : ∃ first, left = some first ∧ Related first second := by
  cases related with
  | none => cases reached
  | some held =>
      cases reached
      exact ⟨_, rfl, held⟩

theorem rel_none_iff {Left Right : Type} {Related : Left → Right → Prop} {left : Option Left}
    {right : Option Right} (related : Option.Rel Related left right) :
    left = none ↔ right = none := by
  cases related with
  | none => exact iff_of_true rfl rfl
  | some => exact iff_of_false (Option.some_ne_none _) (Option.some_ne_none _)

end Fffb.Simulation
