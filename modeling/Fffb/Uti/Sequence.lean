import Fffb.Foundation.Transition
import Mathlib.Algebra.Group.Nat.Defs
import Mathlib.Data.Nat.Log

/-
A vector without its memory: the items, and what decides whether the next one
finds a place.

The allocator is the list of its answers.  As long as it grants every request,
the vector is a list whose capacity is the least power of two that ever held
it; once it refused a larger block, the next push has no meaning.
-/

namespace Fffb.Uti

variable {Value : Type}

structure Sequence (Value : Type) where
  items : List Value
  capacity : Nat
  /-- The buffer forgot its block. -/
  lost : Bool
  /-- The number of the next request. -/
  requests : Nat
  deriving DecidableEq, Repr

namespace Sequence

def empty (requests : Nat) : Sequence Value :=
  { items := []
    capacity := 0
    lost := false
    requests := requests }

def grown (capacity : Nat) : Nat :=
  if capacity = 0 then 1 else capacity * 2

def push (outcome : Nat → Bool) (sequence : Sequence Value) (value : Value) :
    Option (Sequence Value) :=
  if sequence.lost then
    none
  else if sequence.items.length < sequence.capacity then
    some { sequence with items := sequence.items ++ [value] }
  else if outcome sequence.requests then
    some { sequence with
      items := sequence.items ++ [value]
      capacity := grown sequence.capacity
      requests := sequence.requests + 1 }
  else
    some { sequence with
      lost := decide (sequence.capacity ≠ 0)
      requests := sequence.requests + 1 }

def clear (sequence : Sequence Value) : Sequence Value :=
  { sequence with items := [] }

theorem lt_grown (capacity : Nat) : capacity < grown capacity := by
  unfold grown
  split <;> omega

section

variable {outcome : Nat → Bool} {sequence : Sequence Value}

theorem push_lost (lost : sequence.lost = true) (value : Value) :
    sequence.push outcome value = none :=
  if_pos lost

theorem push_room (kept : sequence.lost = false)
    (room : sequence.items.length < sequence.capacity) (value : Value) :
    sequence.push outcome value = some { sequence with items := sequence.items ++ [value] } := by
  rw [push, kept, if_neg Bool.false_ne_true, if_pos room]

theorem push_granted (kept : sequence.lost = false)
    (full : sequence.capacity ≤ sequence.items.length)
    (granted : outcome sequence.requests = true) (value : Value) :
    sequence.push outcome value =
      some { sequence with
        items := sequence.items ++ [value]
        capacity := grown sequence.capacity
        requests := sequence.requests + 1 } := by
  rw [push, kept, if_neg Bool.false_ne_true, if_neg (Nat.not_lt.mpr full), if_pos granted]

theorem push_refused (kept : sequence.lost = false)
    (full : sequence.capacity ≤ sequence.items.length)
    (refused : outcome sequence.requests = false) (value : Value) :
    sequence.push outcome value =
      some { sequence with
        lost := decide (sequence.capacity ≠ 0)
        requests := sequence.requests + 1 } := by
  rw [push, kept, if_neg Bool.false_ne_true, if_neg (Nat.not_lt.mpr full), refused,
    if_neg Bool.false_ne_true]

end

end Sequence

inductive Usage (Value : Type) where
  | push (value : Value)
  | clear
  deriving DecidableEq, Repr

def held (items : List Value) : List (Usage Value) → List Value
  | [] => items
  | .push value :: rest => held (items ++ [value]) rest
  | .clear :: rest => held [] rest

def peak (count : Nat) : List (Usage Value) → Nat
  | [] => count
  | .push _ :: rest => peak (count + 1) rest
  | .clear :: rest => max count (peak 0 rest)

namespace Sequence

def step (outcome : Nat → Bool) (sequence : Sequence Value) : Usage Value → Option (Sequence Value)
  | .push value => sequence.push outcome value
  | .clear => some sequence.clear

def run (outcome : Nat → Bool) (sequence : Sequence Value) (usages : List (Usage Value)) :
    Option (Sequence Value) :=
  Transition.run (step outcome) sequence usages

/-! ### Growth -/

def capacityFor (count : Nat) : Nat :=
  if count = 0 then 0 else 2 ^ Nat.clog 2 count

def requestsFor (count : Nat) : Nat :=
  if count = 0 then 0 else Nat.clog 2 count + 1

theorem le_capacityFor (count : Nat) : count ≤ capacityFor count := by
  unfold capacityFor
  split
  · omega
  · exact Nat.le_pow_clog Nat.one_lt_two count

theorem clog_max_of_fits {count more : Nat} (fits : more ≤ 2 ^ Nat.clog 2 count) :
    Nat.clog 2 (max count more) = Nat.clog 2 count := by
  apply Nat.le_antisymm
  · exact Nat.clog_le_of_le_pow (Nat.max_le.mpr ⟨Nat.le_pow_clog Nat.one_lt_two count, fits⟩)
  · exact Nat.clog_mono_right 2 (Nat.le_max_left count more)

theorem growth_of_fits {count more : Nat} (fits : more ≤ capacityFor count) :
    capacityFor (max count more) = capacityFor count ∧
      requestsFor (max count more) = requestsFor count := by
  by_cases zero : count = 0
  · subst zero
    have nothing : more = 0 := Nat.le_zero.mp fits
    rw [nothing, Nat.max_self]
    exact ⟨rfl, rfl⟩
  · have some : max count more ≠ 0 := by omega
    rw [capacityFor, if_neg zero] at fits
    unfold capacityFor requestsFor
    rw [if_neg zero, if_neg some, if_neg zero, if_neg some, clog_max_of_fits fits]
    exact ⟨rfl, rfl⟩

theorem growth_of_full {count : Nat} (full : capacityFor count = count) :
    capacityFor (count + 1) = grown count ∧ requestsFor (count + 1) = requestsFor count + 1 := by
  by_cases zero : count = 0
  · subst zero
    decide
  · rw [capacityFor, if_neg zero] at full
    have next : Nat.clog 2 (count + 1) = Nat.clog 2 count + 1 := by
      apply Nat.le_antisymm
      · apply Nat.clog_le_of_le_pow
        rw [Nat.pow_succ, full]
        omega
      · apply (Nat.lt_clog_iff_pow_lt Nat.one_lt_two).mpr
        omega
    unfold capacityFor requestsFor grown
    rw [if_neg (Nat.succ_ne_zero count), if_neg zero, if_neg (Nat.succ_ne_zero count), if_neg zero,
      next, Nat.pow_succ, full]
    exact ⟨rfl, rfl⟩

/-- What the requests of a sequence brought it so far; `most` is the largest
number of items that it held. -/
structure Grown (start most : Nat) (sequence : Sequence Value) : Prop where
  kept : sequence.lost = false
  capacity : sequence.capacity = capacityFor most
  requests : sequence.requests = start + requestsFor most
  fits : sequence.items.length ≤ most

theorem grown_empty (start : Nat) : Grown start 0 (empty start : Sequence Value) :=
  { kept := rfl
    capacity := rfl
    requests := rfl
    fits := Nat.le_refl 0 }

theorem push_grown {outcome : Nat → Bool} {start most : Nat} {sequence : Sequence Value}
    (reliable : ∀ request, start ≤ request → outcome request = true)
    (grows : Grown start most sequence) (value : Value) :
    ∃ next, sequence.push outcome value = some next ∧
      next.items = sequence.items ++ [value] ∧
      Grown start (max most (sequence.items.length + 1)) next := by
  have room := le_capacityFor most
  have fits := grows.fits
  by_cases inside : sequence.items.length < sequence.capacity
  · have more : sequence.items.length + 1 ≤ capacityFor most := by
      rw [← grows.capacity]
      exact inside
    have same := growth_of_fits more
    refine ⟨_, push_room grows.kept inside value, rfl, ?_⟩
    exact
      { kept := grows.kept
        capacity := grows.capacity.trans same.1.symm
        requests := same.2 ▸ grows.requests
        fits := by
          rw [List.length_append, List.length_singleton]
          omega }
  · have reached : sequence.items.length = most ∧ capacityFor most = most := by
      rw [grows.capacity] at inside
      omega
    have larger := growth_of_full reached.2
    have granted := reliable sequence.requests (by rw [grows.requests]; omega)
    refine ⟨_, push_granted grows.kept (Nat.not_lt.mp inside) granted value, rfl, ?_⟩
    rw [reached.1, Nat.max_eq_right (Nat.le_succ most)]
    exact
      { kept := grows.kept
        capacity := by
          rw [larger.1, grows.capacity, reached.2]
        requests := by
          rw [larger.2, grows.requests, Nat.add_assoc]
        fits := by
          rw [List.length_append, List.length_singleton, reached.1] }

theorem clear_grown {start most : Nat} {sequence : Sequence Value}
    (grows : Grown start most sequence) : Grown start most sequence.clear :=
  { grows with
    fits := Nat.zero_le most }

theorem le_peak (count : Nat) (usages : List (Usage Value)) : count ≤ peak count usages := by
  induction usages generalizing count with
  | nil => exact Nat.le_refl count
  | cons usage rest ih =>
      cases usage with
      | push value => exact Nat.le_of_succ_le (ih (count + 1))
      | clear => exact Nat.le_max_left count _

/-- Under an allocator that grants every request, a vector is a list. -/
theorem run_grown {outcome : Nat → Bool} {start most : Nat} {sequence : Sequence Value}
    (reliable : ∀ request, start ≤ request → outcome request = true)
    (grows : Grown start most sequence) (usages : List (Usage Value)) :
    ∃ last, sequence.run outcome usages = some last ∧ last.items = held sequence.items usages ∧
      Grown start (max most (peak sequence.items.length usages)) last := by
  induction usages generalizing most sequence with
  | nil =>
      refine ⟨sequence, rfl, rfl, ?_⟩
      rw [peak, Nat.max_eq_left grows.fits]
      exact grows
  | cons usage rest ih =>
      cases usage with
      | push value =>
          obtain ⟨next, pushed, items, further⟩ := push_grown reliable grows value
          obtain ⟨last, ends, left, final⟩ := ih further
          refine ⟨last, ?_, ?_, ?_⟩
          · rw [run, Transition.run_cons, step, pushed]
            exact ends
          · rw [left, items]
            rfl
          · have later := le_peak (sequence.items.length + 1) rest
            rw [items, List.length_append, List.length_singleton, Nat.max_assoc,
              Nat.max_eq_right later] at final
            exact final
      | clear =>
          obtain ⟨last, ends, left, final⟩ := ih (clear_grown grows)
          refine ⟨last, ends, left, ?_⟩
          rw [peak, ← Nat.max_assoc, Nat.max_eq_left grows.fits]
          exact final

/-! ### Refusals -/

def AllRefused (outcome : Nat → Bool) (start bound : Nat) : Prop :=
  ∀ request, start ≤ request → request < bound → outcome request = false

/-- A block was refused after one had been granted. -/
def Refused (outcome : Nat → Bool) (start requests : Nat) : Prop :=
  ∃ granted refused, start ≤ granted ∧ granted < refused ∧ refused < requests ∧
    outcome granted = true ∧ outcome refused = false

/-- What a sequence remembers of the answers to its requests. -/
structure Answered (outcome : Nat → Bool) (start : Nat) (sequence : Sequence Value) : Prop where
  since : start ≤ sequence.requests
  unallocated : sequence.capacity = 0 ↔ AllRefused outcome start sequence.requests
  lost : sequence.lost = true ↔ Refused outcome start sequence.requests

theorem answered_empty (outcome : Nat → Bool) (start : Nat) :
    Answered outcome start (empty start : Sequence Value) :=
  { since := Nat.le_refl start
    unallocated := by
      constructor
      · intro _ request after before
        exact absurd before (Nat.not_lt.mpr after)
      · intro _
        rfl
    lost := by
      constructor
      · intro impossible
        cases impossible
      · rintro ⟨granted, refused, after, later, before, _⟩
        change refused < start at before
        omega }

theorem answered_granted {outcome : Nat → Bool} {start : Nat} {sequence : Sequence Value}
    (answered : Answered outcome start sequence) (kept : sequence.lost = false)
    (granted : outcome sequence.requests = true) (items : List Value) :
    Answered outcome start
      { items := items, capacity := grown sequence.capacity, lost := false,
        requests := sequence.requests + 1 } :=
  { since := Nat.le_succ_of_le answered.since
    unallocated := by
      have positive := lt_grown sequence.capacity
      constructor
      · intro zero
        change grown sequence.capacity = 0 at zero
        omega
      · intro refused
        rw [refused sequence.requests answered.since (Nat.lt_succ_self _)] at granted
        cases granted
    lost := by
      constructor
      · intro impossible
        cases impossible
      · rintro ⟨first, second, after, later, before, yes, no⟩
        change second < sequence.requests + 1 at before
        have earlier : second ≠ sequence.requests := by
          rintro rfl
          rw [granted] at no
          cases no
        have lost := answered.lost.mpr ⟨first, second, after, later, by omega, yes, no⟩
        rw [kept] at lost
        cases lost }

theorem answered_refused {outcome : Nat → Bool} {start : Nat} {sequence : Sequence Value}
    (answered : Answered outcome start sequence) (refused : outcome sequence.requests = false) :
    Answered outcome start
      { sequence with
        lost := decide (sequence.capacity ≠ 0)
        requests := sequence.requests + 1 } :=
  { since := Nat.le_succ_of_le answered.since
    unallocated := by
      constructor
      · intro zero request after before
        change request < sequence.requests + 1 at before
        by_cases last : request = sequence.requests
        · rw [last]
          exact refused
        · exact answered.unallocated.mp zero request after (by omega)
      · intro all
        exact answered.unallocated.mpr fun request after before =>
          all request after (Nat.lt_succ_of_lt before)
    lost := by
      rw [decide_eq_true_iff]
      constructor
      · intro allocated
        have some := mt answered.unallocated.mpr allocated
        unfold AllRefused at some
        push Not at some
        obtain ⟨request, after, before, yes⟩ := some
        exact ⟨request, sequence.requests, after, before, Nat.lt_succ_self _,
          eq_true_of_ne_false yes, refused⟩
      · rintro ⟨first, second, after, later, before, yes, _⟩ zero
        change second < sequence.requests + 1 at before
        rw [answered.unallocated.mp zero first after (by omega)] at yes
        cases yes }

theorem step_answered {outcome : Nat → Bool} {start : Nat} {sequence next : Sequence Value}
    {usage : Usage Value} (answered : Answered outcome start sequence)
    (stepped : sequence.step outcome usage = some next) : Answered outcome start next := by
  cases usage with
  | clear =>
      cases stepped
      exact { answered with }
  | push value =>
      change sequence.push outcome value = some next at stepped
      cases kept : sequence.lost with
      | true =>
          rw [push_lost kept] at stepped
          cases stepped
      | false =>
          by_cases room : sequence.items.length < sequence.capacity
          · rw [push_room kept room] at stepped
            cases stepped
            exact { answered with }
          · cases answer : outcome sequence.requests with
            | true =>
                rw [push_granted kept (Nat.not_lt.mp room) answer] at stepped
                cases stepped
                rw [kept]
                exact answered_granted answered kept answer _
            | false =>
                rw [push_refused kept (Nat.not_lt.mp room) answer] at stepped
                cases stepped
                exact answered_refused answered answer

theorem run_answered {outcome : Nat → Bool} {start : Nat} {sequence last : Sequence Value}
    {usages : List (Usage Value)} (answered : Answered outcome start sequence)
    (ends : sequence.run outcome usages = some last) : Answered outcome start last :=
  Transition.run_preserves (fun _ _ _ holds stepped => step_answered holds stepped) answered ends

theorem push_kept {outcome : Nat → Bool} {sequence : Sequence Value}
    (kept : sequence.lost = false) (value : Value) :
    ∃ next, sequence.push outcome value = some next := by
  by_cases room : sequence.items.length < sequence.capacity
  · exact ⟨_, push_room kept room value⟩
  · cases answer : outcome sequence.requests with
    | true => exact ⟨_, push_granted kept (Nat.not_lt.mp room) answer value⟩
    | false => exact ⟨_, push_refused kept (Nat.not_lt.mp room) answer value⟩

def PushesOnLost (outcome : Nat → Bool) (sequence : Sequence Value)
    (usages : List (Usage Value)) : Prop :=
  ∃ before value after middle, usages = before ++ .push value :: after ∧
    sequence.run outcome before = some middle ∧ middle.lost = true

/-- A run stops at a push on a vector that lost its block, and nowhere else. -/
theorem run_eq_none_iff {outcome : Nat → Bool} {sequence : Sequence Value}
    {usages : List (Usage Value)} :
    sequence.run outcome usages = none ↔ PushesOnLost outcome sequence usages := by
  constructor
  · intro stuck
    induction usages generalizing sequence with
    | nil => cases stuck
    | cons usage rest ih =>
        cases stepped : sequence.step outcome usage with
        | some next =>
            rw [run, Transition.run_cons, stepped] at stuck
            obtain ⟨before, value, after, middle, split, reached, lost⟩ := ih stuck
            refine ⟨usage :: before, value, after, middle, ?_, ?_, lost⟩
            · rw [split, List.cons_append]
            · rw [run, Transition.run_cons, stepped]
              exact reached
        | none =>
            cases usage with
            | clear => cases stepped
            | push value =>
                cases kept : sequence.lost with
                | true => exact ⟨[], value, rest, sequence, rfl, rfl, kept⟩
                | false =>
                    obtain ⟨next, pushed⟩ := push_kept kept value
                    rw [step, pushed] at stepped
                    cases stepped
  · rintro ⟨before, value, after, middle, rfl, reached, lost⟩
    have stuck : middle.step outcome (.push value) = none := push_lost lost value
    rw [run, Transition.run_append]
    change (sequence.run outcome before).bind _ = none
    rw [reached, Option.bind_some, Transition.run_cons, stuck, Option.bind_none]

end Sequence

end Fffb.Uti
