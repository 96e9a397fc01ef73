import Fffb.Foundation.Simulation
import Fffb.Uti.VectorStorage

/-
Runs of a vector in memory: any pushes and clears, under any allocator.

The vector does what its sequence does.  It has a meaning up to the first push
after a refused larger block, and it gives its memory back unless it lost it.
-/

namespace Fffb.Uti.Vector

variable {Value : Type}

def step (stored : Vector × Heap Value) : Usage Value → Option (Vector × Heap Value)
  | .push value => (stored.1.emplaceBack value).run stored.2
  | .clear => some (stored.1.clear, stored.2)

def run (vector : Vector) (usages : List (Usage Value)) (heap : Heap Value) :
    Option (Vector × Heap Value) :=
  Transition.run step (vector, heap) usages

section

variable {outside : Nat → Option (List (Option Value))}

theorem step_represents {outcome : Nat → Bool} {stored : Vector × Heap Value}
    {sequence : Sequence Value} (usage : Usage Value)
    (pushed : Pushed outside outcome stored sequence) :
    Option.Rel (Pushed outside outcome) (step stored usage) (sequence.step outcome usage) := by
  obtain ⟨represents, rfl⟩ := pushed
  cases usage with
  | push value => exact emplaceBack_represents represents value
  | clear => exact .some ⟨clear_represents represents, rfl⟩

theorem run_represents {heap : Heap Value} {vector : Vector} {sequence : Sequence Value}
    (represents : Represents outside heap vector sequence) (usages : List (Usage Value)) :
    Option.Rel (Pushed outside heap.outcome) (vector.run usages heap)
      (sequence.run heap.outcome usages) := by
  have start : Pushed outside heap.outcome (vector, heap) sequence := ⟨represents, rfl⟩
  exact Transition.run_simulated (fun _ _ usage pushed => step_represents usage pushed) start usages

end

/-! ### From an empty vector on -/

theorem represents_empty (heap : Heap Value) :
    Represents heap.blocks heap empty (Sequence.empty heap.requests) :=
  .unallocated rfl

theorem represents_blocks {outside : Nat → Option (List (Option Value))} {heap : Heap Value}
    {vector : Vector} {sequence : Sequence Value}
    (represents : Represents outside heap vector sequence) :
    heap.blocks = outside ∨ ∃ own cells, outside own = none ∧
      heap.blocks = Function.update outside own (some cells) := by
  cases represents with
  | unallocated blocks => exact Or.inl blocks
  | allocated own cells _ foreign blocks => exact Or.inr ⟨own, cells, foreign, blocks⟩
  | lost own cells _ foreign blocks => exact Or.inr ⟨own, cells, foreign, blocks⟩
  | cleared own cells foreign blocks => exact Or.inr ⟨own, cells, foreign, blocks⟩

/-- The vector has one block, of all its capacity, beside those outside. -/
def OwnsBlock (outside : Nat → Option (List (Option Value))) (heap : Heap Value)
    (vector : Vector) : Prop :=
  ∃ block cells, outside block = none ∧
    heap.blocks = Function.update outside block (some cells) ∧
    vector.buffer.begin = some ⟨block, 0⟩ ∧ cells.length = vector.buffer.capacity

theorem represents_owns {outside : Nat → Option (List (Option Value))} {heap : Heap Value}
    {vector : Vector} {sequence : Sequence Value}
    (represents : Represents outside heap vector sequence) (kept : sequence.lost = false) :
    (sequence.capacity = 0 → heap.blocks = outside) ∧
      (0 < sequence.capacity → OwnsBlock outside heap vector) := by
  cases represents with
  | unallocated blocks => exact ⟨fun _ => blocks, fun some => absurd some (Nat.lt_irrefl 0)⟩
  | allocated block cells items foreign blocks nonempty fits filled =>
      exact ⟨fun none => absurd none (Nat.ne_of_gt nonempty),
        fun _ => ⟨block, cells, foreign, blocks, rfl, rfl⟩⟩
  | lost => cases kept
  | cleared => cases kept

theorem represents_outside {outside : Nat → Option (List (Option Value))} {heap : Heap Value}
    {vector : Vector} {sequence : Sequence Value}
    (represents : Represents outside heap vector sequence) {block : Nat}
    {cells : List (Option Value)} (live : outside block = some cells) :
    heap.blocks block = some cells := by
  rcases represents_blocks represents with same | ⟨own, moved, foreign, updated⟩
  · rw [same, live]
  · rw [updated, Function.update_of_ne, live]
    rintro rfl
    rw [foreign] at live
    cases live

theorem empty_run_cases {heap : Heap Value} {usages : List (Usage Value)}
    {stored : Vector × Heap Value} (ends : empty.run usages heap = some stored) :
    ∃ sequence, (Sequence.empty heap.requests).run heap.outcome usages = some sequence ∧
      Represents heap.blocks stored.2 stored.1 sequence ∧ stored.2.outcome = heap.outcome := by
  obtain ⟨sequence, reached, represents, outcome⟩ :=
    Simulation.rel_some_left (run_represents (represents_empty heap) usages) ends
  exact ⟨sequence, reached, represents, outcome⟩

/-- A vector and its sequence stop together; where they do not, a loop over the
vector reads the items, and no other block was touched. -/
theorem empty_run_related (heap : Heap Value) (usages : List (Usage Value)) :
    Option.Rel
      (fun stored sequence =>
        stored.1.items.run stored.2 = some (sequence.items, stored.2) ∧
          stored.1.buffer.capacity = sequence.capacity ∧
          stored.2.requests = sequence.requests ∧
          ∀ block cells, heap.blocks block = some cells → stored.2.blocks block = some cells)
      (empty.run usages heap) ((Sequence.empty heap.requests).run heap.outcome usages) := by
  have related := run_represents (represents_empty heap) usages
  refine Simulation.rel_imp related fun stored sequence pushed => ?_
  obtain ⟨represents, _⟩ := pushed
  exact ⟨items_represents represents, represents_capacity represents,
    represents_requests represents, fun _ _ live => represents_outside represents live⟩

/-- With every request granted, the vector is the list of its items since the
last clear.  Once something was pushed, it has one block, of the least power of
two that held the items at any time; each doubling took one request.  The
destructors leave the blocks as they were. -/
theorem empty_run_reliable {heap : Heap Value} (reliable : heap.Reliable)
    (usages : List (Usage Value)) :
    ∃ vector after, empty.run usages heap = some (vector, after) ∧
      vector.items.run after = some (held [] usages, after) ∧
      vector.buffer.capacity = Sequence.capacityFor (peak 0 usages) ∧
      after.requests = heap.requests + Sequence.requestsFor (peak 0 usages) ∧
      (peak 0 usages = 0 → after.blocks = heap.blocks) ∧
      (0 < peak 0 usages → OwnsBlock heap.blocks after vector) ∧
      ∃ freed, vector.destroy.run after = some ((), freed) ∧ freed.blocks = heap.blocks := by
  obtain ⟨last, reached, items, grown⟩ :=
    Sequence.run_grown reliable (Sequence.grown_empty heap.requests) usages
  obtain ⟨stored, ends, represents, _⟩ :=
    Simulation.rel_some_right (run_represents (represents_empty heap) usages) reached
  have read := items_represents represents
  obtain ⟨freed, destroyed, _, _, given, _⟩ := destroy_represents represents
  rw [items] at read
  rw [Nat.zero_max] at grown
  change Sequence.Grown heap.requests (peak 0 usages) last at grown
  obtain ⟨unallocated, owns⟩ := represents_owns represents grown.kept
  rw [grown.capacity] at unallocated owns
  refine ⟨stored.1, stored.2, ends, read, ?_, ?_, ?_, ?_, freed, destroyed, given grown.kept⟩
  · exact (represents_capacity represents).trans grown.capacity
  · exact (represents_requests represents).trans grown.requests
  · intro none
    apply unallocated
    rw [none]
    rfl
  · intro some
    exact owns (Nat.lt_of_lt_of_le some (Sequence.le_capacityFor _))

/-- Three items take three requests and a block of four cells. -/
theorem empty_run_reliable_three :
    ∃ vector after, empty.run [.push 7, .push 8, .push 9] (Heap.initial fun _ => true) =
        some (vector, after) ∧
      vector.items.run after = some ([7, 8, 9], after) ∧ vector.buffer.capacity = 4 ∧
      after.requests = 3 ∧ OwnsBlock (fun _ => none) after vector ∧
      ∃ freed, vector.destroy.run after = some ((), freed) ∧
        freed.blocks = (Heap.initial fun _ => true : Heap Nat).blocks := by
  have reliable : (Heap.initial fun _ => true : Heap Nat).Reliable := fun _ _ => rfl
  obtain ⟨vector, after, ends, items, capacity, requests, _, owns, freed⟩ :=
    empty_run_reliable reliable [.push 7, .push 8, .push 9]
  rw [show Sequence.capacityFor _ = 4 by decide] at capacity
  rw [show Sequence.requestsFor _ = 3 by decide] at requests
  exact ⟨vector, after, ends, items, capacity, requests, owns (by decide), freed⟩

theorem empty_run_lost_iff {heap : Heap Value} {usages : List (Usage Value)}
    {stored : Vector × Heap Value} {sequence : Sequence Value}
    (reached : (Sequence.empty heap.requests).run heap.outcome usages = some sequence)
    (represents : Represents heap.blocks stored.2 stored.1 sequence) :
    sequence.lost = true ↔ Sequence.Refused heap.outcome heap.requests stored.2.requests := by
  have answered :=
    Sequence.run_answered (Sequence.answered_empty heap.outcome heap.requests) reached
  rw [represents_requests represents]
  exact answered.lost

theorem empty_run_none_iff (heap : Heap Value) (usages : List (Usage Value)) :
    empty.run usages heap = none ↔
      (Sequence.empty heap.requests).run heap.outcome usages = none :=
  Simulation.rel_none_iff (run_represents (represents_empty heap) usages)

/-- A run of a vector has no meaning exactly when some push comes after a
larger block was refused to it. -/
theorem empty_run_eq_none_iff (heap : Heap Value) (usages : List (Usage Value)) :
    empty.run usages heap = none ↔
      ∃ before value after middle, usages = before ++ .push value :: after ∧
        empty.run before heap = some middle ∧
        Sequence.Refused heap.outcome heap.requests middle.2.requests := by
  rw [empty_run_none_iff, Sequence.run_eq_none_iff]
  constructor
  · rintro ⟨before, value, after, sequence, split, reached, lost⟩
    cases ends : empty.run before heap with
    | none =>
        rw [(empty_run_none_iff heap before).mp ends] at reached
        cases reached
    | some middle =>
        obtain ⟨same, again, represents, _⟩ := empty_run_cases ends
        rw [reached] at again
        cases again
        exact ⟨before, value, after, middle, split, ends,
          (empty_run_lost_iff reached represents).mp lost⟩
  · rintro ⟨before, value, after, middle, split, ends, refused⟩
    obtain ⟨sequence, reached, represents, _⟩ := empty_run_cases ends
    exact ⟨before, value, after, sequence, split, reached,
      (empty_run_lost_iff reached represents).mpr refused⟩

/-- The destructors leave the blocks as they were exactly when no larger block
was refused; otherwise a block of the vector's last capacity stays behind. -/
theorem empty_run_destroy {heap after : Heap Value} {usages : List (Usage Value)} {vector : Vector}
    (ends : empty.run usages heap = some (vector, after)) :
    ∃ freed, vector.destroy.run after = some ((), freed) ∧
      (freed.blocks = heap.blocks ↔
        ¬ Sequence.Refused heap.outcome heap.requests after.requests) ∧
      (Sequence.Refused heap.outcome heap.requests after.requests →
        ∃ block cells, heap.blocks block = none ∧
          freed.blocks = Function.update heap.blocks block (some cells) ∧
            cells.length = vector.buffer.capacity) := by
  obtain ⟨sequence, reached, represents, _⟩ := empty_run_cases ends
  have lostIff := empty_run_lost_iff reached represents
  obtain ⟨freed, destroyed, _, _, given, left⟩ := destroy_represents represents
  have leaks : Sequence.Refused heap.outcome heap.requests after.requests →
      ∃ block cells, heap.blocks block = none ∧
        freed.blocks = Function.update heap.blocks block (some cells) ∧
          cells.length = vector.buffer.capacity := by
    rw [represents_capacity represents]
    exact fun refused => left (lostIff.mpr refused)
  refine ⟨freed, destroyed, ⟨?_, ?_⟩, leaks⟩
  · intro same refused
    obtain ⟨block, cells, absent, updated, _⟩ := leaks refused
    rw [same] at updated
    have held := congrFun updated block
    rw [absent, Function.update_self] at held
    cases held
  · intro granted
    exact given (Bool.eq_false_iff.mpr (mt lostIff.mp granted))

/-- The second of two requests is refused, and the first block stays behind. -/
theorem empty_run_destroy_refused :
    ∃ vector after, empty.run [.push 7, .push 8] (Heap.initial fun request => request == 0) =
        some (vector, after) ∧
      ∃ freed, vector.destroy.run after = some ((), freed) ∧
        ∃ block cells, freed.blocks = Function.update (fun _ => none) block (some cells) ∧
          cells.length = 1 := by
  have ends : empty.run [.push 7, .push 8] (Heap.initial fun request => request == 0) =
      some (_, _) := rfl
  obtain ⟨freed, destroyed, _, leaks⟩ := empty_run_destroy ends
  obtain ⟨block, cells, _, left, length⟩ :=
    leaks ⟨0, 1, Nat.le_refl 0, Nat.one_pos, by decide, rfl, rfl⟩
  exact ⟨_, _, ends, freed, destroyed, block, cells, left, length⟩

end Fffb.Uti.Vector
