import Mathlib.Algebra.Order.BigOperators.Group.List
import Mathlib.Algebra.Order.Ring.Int
import Mathlib.Data.List.Chain

/-
Readings of a clock that starts over.

A sequence of readings falls into segments: one begins at every restart, and
the first may begin without.  The time a segment takes is counted from zero
after a restart and from the first reading otherwise.  Whoever adds up the
differences of successive readings gets the times of all segments together.
-/

namespace Fffb.Clock

variable {Reading : Type} (restarts : Reading → Bool) (value : Reading → Int)

/-- A reading and those after it up to the next restart. -/
structure Segment where
  first : Reading
  rest : List Reading
  unbroken : ∀ later ∈ rest, restarts later = false

variable {restarts}

namespace Segment

def readings (segment : Segment restarts) : List Reading := segment.first :: segment.rest

def last (segment : Segment restarts) : Reading := segment.rest.getLast?.getD segment.first

def base (segment : Segment restarts) : Int :=
  if restarts segment.first then 0 else value segment.first

def elapsed (segment : Segment restarts) : Int := value segment.last - segment.base value

def Nondecreasing (segment : Segment restarts) : Prop :=
  segment.readings.Pairwise fun earlier later => value earlier ≤ value later

instance (segment : Segment restarts) : Decidable (segment.Nondecreasing value) :=
  inferInstanceAs (Decidable (List.Pairwise _ _))

def single (first : Reading) : Segment restarts :=
  { first := first
    rest := []
    unbroken := fun _ absent => absurd absent List.not_mem_nil }

/-- A reading before a segment that does not begin with a restart. -/
def extend (first : Reading) (next : Segment restarts) (joined : restarts next.first = false) :
    Segment restarts :=
  { first := first
    rest := next.readings
    unbroken := by
      intro later member
      rcases List.mem_cons.mp member with rfl | inRest
      · exact joined
      · exact next.unbroken later inRest }

/-- A reading before some segments joins the first of them, unless that begins
with a restart. -/
def prepend (first : Reading) : List (Segment restarts) → List (Segment restarts)
  | [] => [single first]
  | next :: others =>
      if joined : restarts next.first = false then extend first next joined :: others
      else single first :: next :: others

end Segment

section

variable (restarts)

def segments : List Reading → List (Segment restarts)
  | [] => []
  | first :: rest => Segment.prepend first (segments rest)

def elapsed (readings : List Reading) : Int :=
  ((segments restarts readings).map (Segment.elapsed value)).sum

def advance (last : Option Int) (reading : Reading) : Int :=
  value reading - if restarts reading then 0 else last.getD (value reading)

def drift (last : Option Int) : List Reading → Int
  | [] => 0
  | reading :: rest => advance restarts value last reading + drift (some (value reading)) rest

end

namespace Segment

theorem prepend_of_joined (first : Reading) {next : Segment restarts}
    (joined : restarts next.first = false) (others : List (Segment restarts)) :
    prepend first (next :: others) = extend first next joined :: others :=
  dif_pos joined

theorem prepend_of_restarted (first : Reading) {next : Segment restarts}
    (restarted : restarts next.first = true) (others : List (Segment restarts)) :
    prepend first (next :: others) = single first :: next :: others := by
  apply dif_neg
  rw [restarted]
  exact Bool.noConfusion

theorem flatMap_prepend (first : Reading) (others : List (Segment restarts)) :
    (prepend first others).flatMap readings = first :: others.flatMap readings := by
  cases others with
  | nil => rfl
  | cons next others =>
      cases broken : restarts next.first with
      | false =>
          rw [prepend_of_joined first broken]
          rfl
      | true =>
          rw [prepend_of_restarted first broken]
          rfl

theorem extend_last (first : Reading) (next : Segment restarts)
    (joined : restarts next.first = false) : (extend first next joined).last = next.last := by
  unfold last extend readings
  dsimp only
  rw [List.getLast?_cons]
  rfl

end Segment

theorem flatMap_segments (readings : List Reading) :
    (segments restarts readings).flatMap Segment.readings = readings := by
  induction readings with
  | nil => rfl
  | cons first rest ih =>
      unfold segments
      rw [Segment.flatMap_prepend, ih]

theorem restarts_of_mem_tail {readings : List Reading} {segment : Segment restarts}
    (member : segment ∈ (segments restarts readings).tail) : restarts segment.first = true := by
  induction readings with
  | nil => cases member
  | cons first rest ih =>
      unfold segments at member
      revert ih member
      cases segments restarts rest with
      | nil =>
          intro _ member
          cases member
      | cons next others =>
          intro ih member
          cases broken : restarts next.first with
          | false =>
              rw [Segment.prepend_of_joined first broken] at member
              exact ih member
          | true =>
              rw [Segment.prepend_of_restarted first broken] at member
              rcases List.mem_cons.mp member with rfl | later
              · exact broken
              · exact ih later

/-! ### Adding up -/

/-- How far the first reading of the segments is ahead of the last one before. -/
def ahead (last : Option Int) : List (Segment restarts) → Int
  | [] => 0
  | segment :: _ =>
      if restarts segment.first then 0
      else value segment.first - last.getD (value segment.first)

theorem ahead_none (others : List (Segment restarts)) : ahead value none others = 0 := by
  cases others with
  | nil => rfl
  | cons segment others => simp [ahead]

theorem ahead_prepend (last : Option Int) (first : Reading) (others : List (Segment restarts)) :
    ahead value last (Segment.prepend first others) =
      if restarts first then 0 else value first - last.getD (value first) := by
  cases others with
  | nil => rfl
  | cons next others =>
      cases broken : restarts next.first with
      | false =>
          rw [Segment.prepend_of_joined first broken]
          rfl
      | true =>
          rw [Segment.prepend_of_restarted first broken]
          rfl

/-- A reading moves the sum of the times and the lead over the last reading by
what it advances. -/
theorem advance_prepend (last : Option Int) (first : Reading) (others : List (Segment restarts)) :
    advance restarts value last first +
        ((others.map (Segment.elapsed value)).sum + ahead value (some (value first)) others) =
      ((Segment.prepend first others).map (Segment.elapsed value)).sum +
        ahead value last (Segment.prepend first others) := by
  have alone : (Segment.single first : Segment restarts).elapsed value =
      value first - if restarts first then 0 else value first := rfl
  rw [ahead_prepend]
  unfold advance
  cases others with
  | nil =>
      simp only [Segment.prepend, ahead, alone, List.map_cons, List.map_nil, List.sum_cons,
        List.sum_nil]
      split_ifs <;> omega
  | cons next others =>
      cases broken : restarts next.first with
      | false =>
          have extended : (Segment.extend first next broken).first = first := rfl
          rw [Segment.prepend_of_joined first broken]
          simp only [ahead, Segment.elapsed, Segment.base, Segment.extend_last, extended, broken,
            List.map_cons, List.sum_cons, Option.getD_some, Bool.false_eq_true, if_false]
          split_ifs <;> omega
      | true =>
          rw [Segment.prepend_of_restarted first broken]
          simp only [ahead, alone, broken, List.map_cons, List.sum_cons, if_true]
          split_ifs <;> omega

theorem drift_eq (last : Option Int) (readings : List Reading) :
    drift restarts value last readings =
      elapsed restarts value readings + ahead value last (segments restarts readings) := by
  induction readings generalizing last with
  | nil => rfl
  | cons first rest ih =>
      unfold drift
      rw [ih]
      exact advance_prepend value last first (segments restarts rest)

/-- Counted from the first reading on, the differences are the times of the
segments. -/
theorem drift_none (readings : List Reading) :
    drift restarts value none readings = elapsed restarts value readings := by
  rw [drift_eq, ahead_none, add_zero]

namespace Segment

variable {value}

theorem nondecreasing_of_prepend {first : Reading} {others : List (Segment restarts)}
    (nondecreasing : ∀ segment ∈ prepend first others, segment.Nondecreasing value) :
    (∀ segment ∈ others, segment.Nondecreasing value) ∧
      0 ≤ ahead value (some (value first)) others := by
  cases others with
  | nil => exact ⟨fun _ absent => absurd absent List.not_mem_nil, le_refl 0⟩
  | cons next others =>
      cases broken : restarts next.first with
      | false =>
          rw [prepend_of_joined first broken] at nondecreasing
          have extended := nondecreasing _ List.mem_cons_self
          obtain ⟨least, rest⟩ := List.pairwise_cons.mp extended
          have begins : value first ≤ value next.first := least _ List.mem_cons_self
          refine ⟨?_, ?_⟩
          · rintro segment member
            rcases List.mem_cons.mp member with rfl | later
            · exact rest
            · exact nondecreasing segment (List.mem_cons_of_mem _ later)
          · simp only [ahead, broken, Option.getD_some, Bool.false_eq_true, if_false]
            omega
      | true =>
          rw [prepend_of_restarted first broken] at nondecreasing
          refine ⟨fun segment member => nondecreasing segment (List.mem_cons_of_mem _ member), ?_⟩
          simp only [ahead, broken, if_true, le_refl]

end Segment

variable {value}

theorem drift_nonneg {last : Option Int} {before after : List Reading}
    (nondecreasing : ∀ segment ∈ segments restarts (before ++ after), segment.Nondecreasing value)
    (lead : 0 ≤ ahead value last (segments restarts (before ++ after)))
    (nonneg : ∀ reading ∈ before ++ after, 0 ≤ value reading) :
    0 ≤ drift restarts value last before := by
  induction before generalizing last with
  | nil => exact le_refl 0
  | cons first rest ih =>
      obtain ⟨later, next⟩ := Segment.nondecreasing_of_prepend nondecreasing
      have positive := ih later next fun reading member =>
        nonneg reading (List.mem_cons_of_mem _ member)
      have begins := nonneg first List.mem_cons_self
      have advanced : 0 ≤ advance restarts value last first := by
        rw [List.cons_append, segments, ahead_prepend] at lead
        unfold advance
        split_ifs at lead ⊢ <;> omega
      exact add_nonneg advanced positive

theorem drift_le_append {last : Option Int} {before middle after : List Reading}
    (nondecreasing : ∀ segment ∈ segments restarts (before ++ (middle ++ after)),
      segment.Nondecreasing value)
    (lead : 0 ≤ ahead value last (segments restarts (before ++ (middle ++ after))))
    (nonneg : ∀ reading ∈ before ++ (middle ++ after), 0 ≤ value reading) :
    drift restarts value last before ≤ drift restarts value last (before ++ middle) := by
  induction before generalizing last with
  | nil => exact drift_nonneg nondecreasing lead nonneg
  | cons first rest ih =>
      obtain ⟨later, next⟩ := Segment.nondecreasing_of_prepend nondecreasing
      exact add_le_add (le_refl _)
        (ih later next fun reading member => nonneg reading (List.mem_cons_of_mem _ member))

/-- The time goes up from zero with the readings. -/
theorem elapsed_between {before middle after : List Reading}
    (nondecreasing : ∀ segment ∈ segments restarts (before ++ (middle ++ after)),
      segment.Nondecreasing value)
    (nonneg : ∀ reading ∈ before ++ (middle ++ after), 0 ≤ value reading) :
    0 ≤ elapsed restarts value before ∧
      elapsed restarts value before ≤ elapsed restarts value (before ++ middle) := by
  have lead := (ahead_none value (segments restarts (before ++ (middle ++ after)))).ge
  rw [← drift_none, ← drift_none]
  exact ⟨drift_nonneg nondecreasing lead nonneg, drift_le_append nondecreasing lead nonneg⟩

end Fffb.Clock
