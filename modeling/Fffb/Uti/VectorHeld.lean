import Fffb.Foundation.Simulation
import Fffb.Uti.VectorStorage

/-
Vectors while every request for memory is granted: no push is dropped, no block
is lost, and a vector that goes out of scope gives its memory back.
-/

namespace Fffb.Uti

variable {Value : Type} {outside : Nat → Option (List (Option Value))} {heap : Heap Value}
  {vector : Vector} {items : List Value}

/-- The vector has these items and never lost a block. -/
def Holds (outside : Nat → Option (List (Option Value))) (heap : Heap Value) (vector : Vector)
    (items : List Value) : Prop :=
  ∃ capacity, Represents outside heap vector
    { items := items, capacity := capacity, lost := false, requests := heap.requests }

theorem holds_empty (heap : Heap Value) : Holds heap.blocks heap Vector.empty [] :=
  ⟨0, .unallocated rfl⟩

theorem Holds.of_blocks {after : Heap Value} (holds : Holds outside heap vector items)
    (same : after.blocks = heap.blocks) : Holds outside after vector items := by
  obtain ⟨capacity, represents⟩ := holds
  refine ⟨capacity, ?_⟩
  generalize carried : (⟨items, capacity, false, heap.requests⟩ : Sequence Value) = sequence
    at represents
  cases represents with
  | unallocated blocks =>
      cases carried
      exact .unallocated (same.trans blocks)
  | allocated block cells _ foreign blocks nonempty fits filled =>
      cases carried
      exact .allocated block cells items foreign (same.trans blocks) nonempty fits filled
  | lost => cases carried
  | cleared => cases carried

theorem Holds.reads (holds : Holds outside heap vector items) :
    heap.read vector.begin vector.size = some items := by
  obtain ⟨capacity, represents⟩ := holds
  exact read_represents represents

theorem Holds.clear (holds : Holds outside heap vector items) :
    Holds outside heap vector.clear [] := by
  obtain ⟨capacity, represents⟩ := holds
  exact ⟨capacity, clear_represents represents⟩

theorem Sequence.push_kept_granted {outcome : Nat → Bool} {sequence : Sequence Value}
    (kept : sequence.lost = false) (granted : outcome sequence.requests = true) (value : Value) :
    ∃ next, sequence.push outcome value = some next ∧
      next.items = sequence.items ++ [value] ∧ next.lost = false ∧
      sequence.requests ≤ next.requests := by
  by_cases room : sequence.items.length < sequence.capacity
  · exact ⟨_, push_room kept room value, rfl, kept, Nat.le_refl _⟩
  · exact ⟨_, push_granted kept (Nat.not_lt.mp room) granted value, rfl, kept, Nat.le_succ _⟩

theorem Holds.emplaceBack (holds : Holds outside heap vector items) (reliable : heap.Reliable)
    (value : Value) :
    ∃ next after, (vector.emplaceBack value).run heap = some (next, after) ∧
      Holds outside after next (items ++ [value]) ∧ after.Reliable := by
  obtain ⟨capacity, represents⟩ := holds
  have unharmed : (⟨items, capacity, false, heap.requests⟩ : Sequence Value).lost = false := rfl
  obtain ⟨sequence, pushed, appended, kept, later⟩ :=
    Sequence.push_kept_granted unharmed reliable.granted value
  obtain ⟨stored, ran, stands, outcome⟩ :=
    Simulation.rel_some_right (emplaceBack_represents represents value) pushed
  have number := (represents_requests stands).symm
  refine ⟨stored.1, stored.2, ran, ⟨sequence.capacity, ?_⟩, ?_⟩
  · rw [← appended, ← kept, ← number]
    exact stands
  · intro request beyond
    rw [outcome]
    apply reliable
    rw [number] at later
    exact Nat.le_trans later beyond

theorem holds_withCapacity (heap : Heap Value) (reliable : heap.Reliable) {capacity : Nat}
    (positive : 0 < capacity) (bounded : capacity < i64Max) :
    ∃ vector after, (Vector.withCapacity capacity).run heap = some (vector, after) ∧
      Holds heap.blocks after vector [] ∧ after.Reliable := by
  have allocated := Buffer.allocate_granted reliable.granted capacity
  rw [show Buffer.allocate capacity = Buffer.withCapacity capacity from
    (if_pos ⟨positive, bounded⟩).symm] at allocated
  let cells : List (Option Value) := List.replicate capacity none
  have full : cells.length = capacity := List.length_replicate
  have owned : (heap.grant cells).blocks =
      Function.update heap.blocks heap.requests (some cells) := rfl
  have represents := Represents.allocated heap.requests cells []
    (heap.fresh _ (Nat.le_refl _)) owned (full ▸ positive) (Nat.zero_le _) (filled_nil cells)
  rw [full] at represents
  exact ⟨_, _, Heap.run_bind_of_some allocated, ⟨capacity, represents⟩, reliable.grant cells⟩

theorem Holds.destroy (holds : Holds outside heap vector items) (reliable : heap.Reliable) :
    ∃ after, vector.destroy.run heap = some ((), after) ∧ after.blocks = outside ∧
      after.Reliable := by
  obtain ⟨capacity, represents⟩ := holds
  obtain ⟨after, destroyed, outcome, requests, given, _⟩ := destroy_represents represents
  refine ⟨after, destroyed, given rfl, ?_⟩
  intro request beyond
  rw [outcome]
  rw [requests] at beyond
  exact reliable request beyond

end Fffb.Uti
