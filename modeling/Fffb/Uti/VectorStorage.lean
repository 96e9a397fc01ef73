import Fffb.Uti.Vector
import Fffb.Uti.Sequence
import Mathlib.Data.Option.Basic

/-
A vector in memory and the sequence it stands for.

Pushing and clearing do the same to a vector as to the sequence it represents,
whatever the allocator answers, undefined behaviour included.  The blocks that
are not the vector's are never touched.
-/

namespace Fffb.Uti

variable {Value : Type}

def Filled (cells : List (Option Value)) (items : List Value) : Prop :=
  ∀ index (inside : index < items.length), cells[index]? = some (some items[index])

def Vector.placed (block capacity size : Nat) : Vector :=
  { buffer := { begin := some ⟨block, 0⟩, capacity := capacity }
    begin := some ⟨block, 0⟩
    size := size }

/-- A vector whose buffer forgot its block. -/
def Vector.adrift (begin : Pointer) (capacity size : Nat) : Vector :=
  { buffer := { begin := none, capacity := capacity }
    begin := begin
    size := size }

/-- A vector in memory and the sequence it stands for; `outside` are the blocks
that are not the vector's. -/
inductive Represents (outside : Nat → Option (List (Option Value))) (heap : Heap Value) :
    Vector → Sequence Value → Prop
  | unallocated (blocks : heap.blocks = outside) :
      Represents outside heap Vector.empty (Sequence.empty heap.requests)
  | allocated (block : Nat) (cells : List (Option Value)) (items : List Value)
      (foreign : outside block = none)
      (blocks : heap.blocks = Function.update outside block (some cells))
      (nonempty : 0 < cells.length) (fits : items.length ≤ cells.length)
      (filled : Filled cells items) :
      Represents outside heap (Vector.placed block cells.length items.length)
        { items := items, capacity := cells.length, lost := false, requests := heap.requests }
  | lost (block : Nat) (cells : List (Option Value)) (items : List Value)
      (foreign : outside block = none)
      (blocks : heap.blocks = Function.update outside block (some cells))
      (nonempty : 0 < cells.length) (full : items.length = cells.length)
      (filled : Filled cells items) :
      Represents outside heap (Vector.adrift (some ⟨block, 0⟩) cells.length items.length)
        { items := items, capacity := cells.length, lost := true, requests := heap.requests }
  | cleared (block : Nat) (cells : List (Option Value))
      (foreign : outside block = none)
      (blocks : heap.blocks = Function.update outside block (some cells))
      (nonempty : 0 < cells.length) :
      Represents outside heap (Vector.adrift none cells.length 0)
        { items := [], capacity := cells.length, lost := true, requests := heap.requests }

theorem filled_append {cells : List (Option Value)} {items : List Value}
    (filled : Filled cells items) (room : items.length < cells.length) (value : Value) :
    Filled (cells.set items.length (some value)) (items ++ [value]) := by
  intro index inside
  rw [List.length_append, List.length_singleton] at inside
  by_cases last : index = items.length
  · subst last
    rw [List.getElem?_set_self room, List.getElem_concat_length rfl]
  · rw [List.getElem?_set_ne (Ne.symm last), List.getElem_append_left (by omega)]
    exact filled index (by omega)

theorem filled_resized {cells : List (Option Value)} {items : List Value}
    (filled : Filled cells items) {count : Nat} (fits : items.length ≤ count) :
    Filled (Heap.resized cells count) items := by
  intro index inside
  have written := filled index inside
  have older : index < cells.length := (List.getElem?_eq_some_iff.mp written).1
  have kept : index < (cells.take count).length := by
    rw [List.length_take]
    omega
  rw [Heap.resized, List.getElem?_append_left kept, List.getElem?_take_of_lt (by omega), written]

theorem length_resized {cells : List (Option Value)} {count : Nat} (grows : cells.length ≤ count) :
    (Heap.resized cells count).length = count := by
  rw [Heap.resized, List.length_append, List.length_take, List.length_replicate]
  omega

theorem filled_nil (cells : List (Option Value)) : Filled cells ([] : List Value) := by
  intro index inside
  cases inside

namespace Buffer

theorem allocate_granted {heap : Heap Value} (granted : heap.outcome heap.requests = true)
    (count : Nat) :
    (allocate count).run heap =
      some (⟨some ⟨heap.requests, 0⟩, count⟩, heap.grant (List.replicate count none)) :=
  Heap.run_bind_of_some (Heap.malloc_granted granted count)

theorem allocate_refused {heap : Heap Value} (refused : heap.outcome heap.requests = false)
    (count : Nat) : (allocate count).run heap = some (empty, heap.refuse) :=
  Heap.run_bind_of_some (Heap.malloc_refused refused count)

theorem reallocate_granted {heap : Heap Value} {block : Nat} {cells : List (Option Value)}
    (live : heap.blocks block = some cells) (granted : heap.outcome heap.requests = true)
    (capacity count : Nat) :
    (reallocate ⟨some ⟨block, 0⟩, capacity⟩ count).run heap =
      some (⟨some ⟨heap.requests, 0⟩, count⟩,
        (heap.grant (Heap.resized cells count)).release block) := by
  have moved : (some ⟨heap.requests, 0⟩ : Pointer) ≠ some ⟨block, 0⟩ := by
    intro same
    have older := Heap.lt_requests_of_live live
    have number := congrArg Address.block (Option.some.inj same)
    change heap.requests = block at number
    omega
  rw [reallocate, Heap.run_bind_of_some (Heap.realloc_granted live granted count)]
  simp only [Option.isSome_some, if_true, if_pos moved]
  rfl

theorem reallocate_refused {heap : Heap Value} {block : Nat} {cells : List (Option Value)}
    (live : heap.blocks block = some cells) (refused : heap.outcome heap.requests = false)
    (capacity count : Nat) :
    (reallocate ⟨some ⟨block, 0⟩, capacity⟩ count).run heap =
      some (⟨none, capacity⟩, heap.refuse) :=
  Heap.run_bind_of_some (Heap.realloc_refused live refused count)

theorem reserve_of_empty {count : Nat} (wanted : 0 < count) :
    (empty.reserve count : HeapM Value Buffer) = allocate count := by
  have more : ¬ count ≤ empty.capacity := Nat.not_le.mpr wanted
  rw [reserve, if_neg more]
  rfl

theorem reserve_of_allocated {buffer : Buffer} {count : Nat} (positive : 0 < buffer.capacity)
    (wanted : buffer.capacity < count) :
    (buffer.reserve count : HeapM Value Buffer) = buffer.reallocate count := by
  rw [reserve, if_neg (Nat.not_le.mpr wanted), if_neg (Nat.ne_of_gt positive)]

end Buffer

namespace Vector

theorem lift_bind_of_some {α β : Type} {result : Option α} {value : α}
    (ends : result = some value) (rest : α → HeapM Value β) :
    ((StateT.lift result : HeapM Value α) >>= rest) = rest value := by
  subst ends
  rfl

theorem lift_bind_none {α β : Type} (rest : α → HeapM Value β) (heap : Heap Value) :
    ((StateT.lift none : HeapM Value α) >>= rest).run heap = none := rfl

theorem emplace_placed {heap : Heap Value} {block : Nat} {cells : List (Option Value)}
    (live : heap.blocks block = some cells) {size : Nat} (room : size < cells.length)
    (value : Value) :
    ((placed block cells.length size).emplace value).run heap =
      some (placed block cells.length (size + 1), heap.write ⟨block, size⟩ value) := by
  have position : (placed block cells.length size).begin.advance (size : Nat) =
      some (some ⟨block, size⟩) := by
    have moved := Pointer.advance_some block 0 size
    rw [Nat.zero_add] at moved
    exact moved
  have stored : (Heap.store (some ⟨block, size⟩) value).run heap = _ :=
    Heap.store_run live room value
  rw [emplace, show (placed block cells.length size).size = size from rfl,
    lift_bind_of_some position, Heap.run_bind_of_some stored]
  rfl

theorem emplaceBack_of_fits {vector next : Vector} {heap middle : Heap Value}
    (reserved : vector.reserve.run heap = some ((true, next), middle)) (value : Value) :
    (vector.emplaceBack value).run heap = (next.emplace value).run middle := by
  rw [emplaceBack, Heap.run_bind_of_some reserved]
  rfl

theorem emplaceBack_of_dropped {vector next : Vector} {heap middle : Heap Value}
    (reserved : vector.reserve.run heap = some ((false, next), middle)) (value : Value) :
    (vector.emplaceBack value).run heap = some (next, middle) := by
  rw [emplaceBack, Heap.run_bind_of_some reserved]
  rfl

theorem emplaceBack_of_stuck {vector : Vector} {heap : Heap Value}
    (stuck : vector.reserve.run heap = none) (value : Value) :
    (vector.emplaceBack value).run heap = none :=
  Heap.run_bind_of_none _ stuck

theorem reserve_of_room {vector : Vector} (room : vector.size < vector.buffer.capacity)
    (heap : Heap Value) : vector.reserve.run heap = some ((true, vector), heap) := by
  have notFull : vector.isFull = false := decide_eq_false (Nat.not_le.mpr room)
  rw [reserve, notFull]
  rfl

section

variable {vector next : Vector} {heap middle : Heap Value}

theorem reserve_of_full (full : vector.buffer.capacity ≤ vector.size)
    (reserved : (vector.reserveTo (Sequence.grown vector.buffer.capacity)).run heap =
      some (next, middle)) :
    vector.reserve.run heap =
      some ((decide (next.size < next.buffer.capacity), next), middle) := by
  have isFull : vector.isFull = true := decide_eq_true full
  rw [reserve, isFull, if_pos rfl]
  exact Heap.run_bind_of_some reserved

theorem reserve_of_grown (full : vector.buffer.capacity ≤ vector.size)
    (reserved : (vector.reserveTo (Sequence.grown vector.buffer.capacity)).run heap =
      some (next, middle)) (room : next.size < next.buffer.capacity) :
    vector.reserve.run heap = some ((true, next), middle) := by
  rw [reserve_of_full full reserved, decide_eq_true room]

theorem reserve_of_refused (full : vector.buffer.capacity ≤ vector.size)
    (reserved : (vector.reserveTo (Sequence.grown vector.buffer.capacity)).run heap =
      some (next, middle)) (still : next.buffer.capacity ≤ next.size) :
    vector.reserve.run heap = some ((false, next), middle) := by
  rw [reserve_of_full full reserved, decide_eq_false (Nat.not_lt.mpr still)]

end

theorem reserve_of_full_stuck {vector : Vector} (full : vector.buffer.capacity ≤ vector.size)
    {heap : Heap Value}
    (stuck : (vector.reserveTo (Sequence.grown vector.buffer.capacity)).run heap = none) :
    vector.reserve.run heap = none := by
  have isFull : vector.isFull = true := decide_eq_true full
  rw [reserve, isFull, if_pos rfl]
  exact Heap.run_bind_of_none _ stuck

/-! ### Growing -/

section

variable {vector : Vector} {heap middle : Heap Value} {buffer : Buffer} {count : Nat}

theorem reserveTo_first (unallocated : vector.buffer.capacity = 0)
    (wanted : vector.buffer.capacity < count)
    (reserved : (vector.buffer.reserve count).run heap = some (buffer, middle)) :
    (vector.reserveTo count).run heap =
      some ({ buffer := buffer, begin := buffer.begin, size := 0 }, middle) := by
  rw [reserveTo, if_neg (Nat.not_le.mpr wanted), if_pos unallocated]
  exact Heap.run_bind_of_some reserved

/-- The items keep their place in the buffer. -/
theorem reserveTo_moved {beginPos : Int} {begin : Pointer} (positive : 0 < vector.buffer.capacity)
    (wanted : vector.buffer.capacity < count)
    (distance : vector.begin.distance vector.buffer.begin = some beginPos)
    (reserved : (vector.buffer.reserve count).run heap = some (buffer, middle))
    (enough : count ≤ buffer.capacity) (advanced : buffer.begin.advance beginPos = some begin) :
    (vector.reserveTo count).run heap =
      some ({ buffer := buffer, begin := begin, size := vector.size }, middle) := by
  rw [reserveTo, if_neg (Nat.not_le.mpr wanted), if_neg (Nat.ne_of_gt positive),
    lift_bind_of_some distance, Heap.run_bind_of_some reserved, if_neg (Nat.not_lt.mpr enough),
    lift_bind_of_some advanced]
  rfl

theorem reserveTo_short {beginPos : Int} (positive : 0 < vector.buffer.capacity)
    (wanted : vector.buffer.capacity < count)
    (distance : vector.begin.distance vector.buffer.begin = some beginPos)
    (reserved : (vector.buffer.reserve count).run heap = some (buffer, middle))
    (short : buffer.capacity < count) :
    (vector.reserveTo count).run heap = some ({ vector with buffer := buffer }, middle) := by
  rw [reserveTo, if_neg (Nat.not_le.mpr wanted), if_neg (Nat.ne_of_gt positive),
    lift_bind_of_some distance, Heap.run_bind_of_some reserved, if_pos short]
  rfl

theorem reserveTo_apart (positive : 0 < vector.buffer.capacity)
    (wanted : vector.buffer.capacity < count)
    (apart : vector.begin.distance vector.buffer.begin = none) :
    (vector.reserveTo count).run heap = none := by
  rw [reserveTo, if_neg (Nat.not_le.mpr wanted), if_neg (Nat.ne_of_gt positive), apart]
  exact lift_bind_none _ heap

end

theorem reserveTo_placed_granted {heap : Heap Value} {block : Nat} {cells : List (Option Value)}
    (live : heap.blocks block = some cells) (granted : heap.outcome heap.requests = true)
    (positive : 0 < cells.length) {count : Nat} (wanted : cells.length < count) (size : Nat) :
    ((placed block cells.length size).reserveTo count).run heap =
      some (placed heap.requests count size,
        (heap.grant (Heap.resized cells count)).release block) := by
  have reserved := Buffer.reallocate_granted live granted cells.length count
  rw [← Buffer.reserve_of_allocated positive wanted] at reserved
  exact reserveTo_moved positive wanted (Pointer.distance_self _) reserved (Nat.le_refl count)
    (Pointer.advance_zero _)

theorem reserveTo_placed_refused {heap : Heap Value} {block : Nat} {cells : List (Option Value)}
    (live : heap.blocks block = some cells) (refused : heap.outcome heap.requests = false)
    (positive : 0 < cells.length) {count : Nat} (wanted : cells.length < count) (size : Nat) :
    ((placed block cells.length size).reserveTo count).run heap =
      some (adrift (some ⟨block, 0⟩) cells.length size, heap.refuse) := by
  have reserved := Buffer.reallocate_refused live refused cells.length count
  rw [← Buffer.reserve_of_allocated positive wanted] at reserved
  exact reserveTo_short positive wanted (Pointer.distance_self _) reserved wanted

theorem reserveTo_empty_granted {heap : Heap Value} (granted : heap.outcome heap.requests = true)
    {count : Nat} (wanted : 0 < count) :
    (empty.reserveTo count).run heap =
      some (placed heap.requests count 0, heap.grant (List.replicate count none)) := by
  have reserved := Buffer.allocate_granted granted count
  rw [← Buffer.reserve_of_empty wanted] at reserved
  exact reserveTo_first rfl wanted reserved

theorem reserveTo_empty_refused {heap : Heap Value} (refused : heap.outcome heap.requests = false)
    {count : Nat} (wanted : 0 < count) :
    (empty.reserveTo count).run heap = some (empty, heap.refuse) := by
  have reserved := Buffer.allocate_refused refused count
  rw [← Buffer.reserve_of_empty wanted] at reserved
  exact reserveTo_first rfl wanted reserved

end Vector

variable {outside : Nat → Option (List (Option Value))} {heap : Heap Value}

theorem Represents.owns {block : Nat} {cells : List (Option Value)}
    (blocks : heap.blocks = Function.update outside block (some cells)) :
    heap.blocks block = some cells := by
  rw [blocks, Function.update_self]

theorem Represents.emplaced {block : Nat} {cells : List (Option Value)} {items : List Value}
    (foreign : outside block = none)
    (blocks : heap.blocks = Function.update outside block (some cells))
    (room : items.length < cells.length) (filled : Filled cells items) (value : Value) :
    Represents outside (heap.write ⟨block, items.length⟩ value)
      (Vector.placed block cells.length (items.length + 1))
      { items := items ++ [value], capacity := cells.length, lost := false,
        requests := heap.requests } := by
  have written : (heap.write ⟨block, items.length⟩ value).blocks =
      Function.update outside block (some (cells.set items.length (some value))) := by
    change Function.update heap.blocks block _ = _
    rw [Represents.owns blocks, blocks, Function.update_idem]
    rfl
  have represents := Represents.allocated block (cells.set items.length (some value))
    (items ++ [value]) foreign written (by rw [List.length_set]; omega)
    (by rw [List.length_set, List.length_append, List.length_singleton]; omega)
    (filled_append filled room value)
  rw [List.length_set, List.length_append, List.length_singleton] at represents
  exact represents

/-- What a push leaves: the same sequence, under the same allocator. -/
def Pushed (outside : Nat → Option (List (Option Value))) (outcome : Nat → Bool)
    (result : Vector × Heap Value) (sequence : Sequence Value) : Prop :=
  Represents outside result.2 result.1 sequence ∧ result.2.outcome = outcome

theorem emplace_pushed {block : Nat} {cells : List (Option Value)} {items : List Value}
    (foreign : outside block = none)
    (blocks : heap.blocks = Function.update outside block (some cells))
    (room : items.length < cells.length) (filled : Filled cells items) (value : Value) :
    Option.Rel (Pushed outside heap.outcome)
      (((Vector.placed block cells.length items.length).emplace value).run heap)
      (some { items := items ++ [value], capacity := cells.length, lost := false,
              requests := heap.requests }) := by
  rw [Vector.emplace_placed (Represents.owns blocks) room]
  exact .some ⟨Represents.emplaced foreign blocks room filled value, rfl⟩

theorem emplaceBack_room {block : Nat} {cells : List (Option Value)} {items : List Value}
    (foreign : outside block = none)
    (blocks : heap.blocks = Function.update outside block (some cells))
    (room : items.length < cells.length) (filled : Filled cells items) (value : Value) :
    Option.Rel (Pushed outside heap.outcome)
      (((Vector.placed block cells.length items.length).emplaceBack value).run heap)
      (some { items := items ++ [value], capacity := cells.length, lost := false,
              requests := heap.requests }) := by
  rw [Vector.emplaceBack_of_fits (Vector.reserve_of_room room heap)]
  exact emplace_pushed foreign blocks room filled value

theorem emplaceBack_empty_refused (blocks : heap.blocks = outside)
    (refused : heap.outcome heap.requests = false) (value : Value) :
    Option.Rel (Pushed outside heap.outcome) ((Vector.empty.emplaceBack value).run heap)
      (some (Sequence.empty (heap.requests + 1))) := by
  have reserved := Vector.reserveTo_empty_refused refused Nat.one_pos
  rw [Vector.emplaceBack_of_dropped
    (Vector.reserve_of_refused (Nat.le_refl 0) reserved (Nat.le_refl 0))]
  have kept : heap.refuse.blocks = outside := blocks
  exact .some ⟨Represents.unallocated kept, rfl⟩

theorem emplaceBack_empty_granted (blocks : heap.blocks = outside)
    (granted : heap.outcome heap.requests = true) (value : Value) :
    Option.Rel (Pushed outside heap.outcome) ((Vector.empty.emplaceBack value).run heap)
      (some { items := [value], capacity := 1, lost := false, requests := heap.requests + 1 }) := by
  have reserved := Vector.reserveTo_empty_granted granted Nat.one_pos
  have foreign : outside heap.requests = none := by
    rw [← blocks]
    exact heap.fresh _ (Nat.le_refl _)
  have owned : (heap.grant [none]).blocks =
      Function.update outside heap.requests (some [none]) := by
    rw [← blocks]
    rfl
  rw [Vector.emplaceBack_of_fits (Vector.reserve_of_grown (Nat.le_refl 0) reserved Nat.one_pos)]
  have room : ([] : List Value).length < [(none : Option Value)].length := Nat.one_pos
  exact emplace_pushed foreign owned room (filled_nil [none]) value

section

variable {block : Nat} {cells : List (Option Value)} {items : List Value}

theorem emplaceBack_full_granted (foreign : outside block = none)
    (blocks : heap.blocks = Function.update outside block (some cells))
    (granted : heap.outcome heap.requests = true) (nonempty : 0 < cells.length)
    (full : items.length = cells.length) (filled : Filled cells items) (value : Value) :
    Option.Rel (Pushed outside heap.outcome)
      (((Vector.placed block cells.length items.length).emplaceBack value).run heap)
      (some { items := items ++ [value], capacity := Sequence.grown cells.length, lost := false,
              requests := heap.requests + 1 }) := by
  have larger := Sequence.lt_grown cells.length
  have live := Represents.owns blocks
  have reserved := Vector.reserveTo_placed_granted live granted nonempty larger items.length
  have room : items.length < Sequence.grown cells.length := full ▸ larger
  have absent : outside heap.requests = none := by
    have fresh := heap.fresh heap.requests (Nat.le_refl _)
    have older := Heap.lt_requests_of_live live
    rw [blocks, Function.update_of_ne (by omega)] at fresh
    exact fresh
  have owned := Heap.release_grant_update foreign blocks
    (Heap.resized cells (Sequence.grown cells.length))
  have resized := length_resized (Nat.le_of_lt larger)
  rw [Vector.emplaceBack_of_fits
    (Vector.reserve_of_grown (Nat.le_of_eq full.symm) reserved room)]
  have pushed := emplace_pushed absent owned (by rw [resized]; exact room)
    (filled_resized filled (Nat.le_of_lt room)) value
  rw [resized] at pushed
  exact pushed

theorem emplaceBack_full_refused (foreign : outside block = none)
    (blocks : heap.blocks = Function.update outside block (some cells))
    (refused : heap.outcome heap.requests = false) (nonempty : 0 < cells.length)
    (full : items.length = cells.length) (filled : Filled cells items) (value : Value) :
    Option.Rel (Pushed outside heap.outcome)
      (((Vector.placed block cells.length items.length).emplaceBack value).run heap)
      (some { items := items, capacity := cells.length, lost := true,
              requests := heap.requests + 1 }) := by
  have larger := Sequence.lt_grown cells.length
  have reserved := Vector.reserveTo_placed_refused (Represents.owns blocks) refused nonempty larger
    items.length
  rw [Vector.emplaceBack_of_dropped (Vector.reserve_of_refused (Nat.le_of_eq full.symm) reserved
    (Nat.le_of_eq full.symm))]
  have kept : heap.refuse.blocks = Function.update outside block (some cells) := blocks
  exact .some ⟨Represents.lost block cells items foreign kept nonempty full filled, rfl⟩

end

theorem emplaceBack_lost (heap : Heap Value) (address : Address) {capacity size : Nat}
    (positive : 0 < capacity) (full : capacity ≤ size) (value : Value) :
    ((Vector.adrift (some address) capacity size).emplaceBack value).run heap = none := by
  apply Vector.emplaceBack_of_stuck
  apply Vector.reserve_of_full_stuck full
  exact Vector.reserveTo_apart positive (Sequence.lt_grown capacity) rfl

theorem emplaceBack_cleared (heap : Heap Value) {capacity : Nat} (positive : 0 < capacity)
    (value : Value) : ((Vector.adrift none capacity 0).emplaceBack value).run heap = none := by
  rw [Vector.emplaceBack_of_fits (Vector.reserve_of_room positive heap)]
  rfl

theorem emplaceBack_represents {vector : Vector} {sequence : Sequence Value}
    (represents : Represents outside heap vector sequence) (value : Value) :
    Option.Rel (Pushed outside heap.outcome) ((vector.emplaceBack value).run heap)
      (sequence.push heap.outcome value) := by
  cases represents with
  | unallocated blocks =>
      cases answer : heap.outcome heap.requests with
      | true =>
          rw [Sequence.push_granted rfl (Nat.le_refl 0) answer]
          exact emplaceBack_empty_granted blocks answer value
      | false =>
          rw [Sequence.push_refused rfl (Nat.le_refl 0) answer]
          exact emplaceBack_empty_refused blocks answer value
  | allocated block cells items foreign blocks nonempty fits filled =>
      by_cases room : items.length < cells.length
      · rw [Sequence.push_room rfl room]
        exact emplaceBack_room foreign blocks room filled value
      · have full : items.length = cells.length := by omega
        cases answer : heap.outcome heap.requests with
        | true =>
            rw [Sequence.push_granted rfl (Nat.le_of_eq full.symm) answer]
            exact emplaceBack_full_granted foreign blocks answer nonempty full filled value
        | false =>
            rw [Sequence.push_refused rfl (Nat.le_of_eq full.symm) answer]
            rw [show decide _ = true from decide_eq_true (Nat.ne_of_gt nonempty)]
            exact emplaceBack_full_refused foreign blocks answer nonempty full filled value
  | lost block cells items foreign blocks nonempty full filled =>
      rw [emplaceBack_lost heap _ nonempty (Nat.le_of_eq full.symm)]
      exact .none
  | cleared block cells foreign blocks nonempty =>
      rw [emplaceBack_cleared heap nonempty]
      exact .none

theorem clear_represents {vector : Vector} {sequence : Sequence Value}
    (represents : Represents outside heap vector sequence) :
    Represents outside heap vector.clear sequence.clear := by
  cases represents with
  | unallocated blocks => exact .unallocated blocks
  | allocated block cells items foreign blocks nonempty fits filled =>
      exact .allocated block cells [] foreign blocks nonempty (Nat.zero_le _) (filled_nil cells)
  | lost block cells items foreign blocks nonempty full filled =>
      exact .cleared block cells foreign blocks nonempty
  | cleared block cells foreign blocks nonempty =>
      exact .cleared block cells foreign blocks nonempty

theorem represents_capacity {vector : Vector} {sequence : Sequence Value}
    (represents : Represents outside heap vector sequence) :
    vector.buffer.capacity = sequence.capacity := by
  cases represents <;> rfl

theorem represents_requests {vector : Vector} {sequence : Sequence Value}
    (represents : Represents outside heap vector sequence) :
    heap.requests = sequence.requests := by
  cases represents <;> rfl

/-! ### Reading and destroying -/

/-- The items can be read, also after the block was lost. -/
theorem read_represents {vector : Vector} {sequence : Sequence Value}
    (represents : Represents outside heap vector sequence) :
    heap.read vector.begin vector.size = some sequence.items := by
  cases represents with
  | unallocated blocks => rfl
  | allocated block cells items foreign blocks nonempty fits filled =>
      apply Heap.read_of_cells (Represents.owns blocks)
      intro index inside
      rw [Nat.zero_add]
      exact filled index inside
  | lost block cells items foreign blocks nonempty full filled =>
      apply Heap.read_of_cells (Represents.owns blocks)
      intro index inside
      rw [Nat.zero_add]
      exact filled index inside
  | cleared block cells foreign blocks nonempty => rfl

theorem items_represents {vector : Vector} {sequence : Sequence Value}
    (represents : Represents outside heap vector sequence) :
    vector.items.run heap = some (sequence.items, heap) := by
  change (heap.read vector.begin vector.size).map _ = _
  rw [read_represents represents]
  rfl

/-- The destructors give back everything but a block that was lost. -/
theorem destroy_represents {vector : Vector} {sequence : Sequence Value}
    (represents : Represents outside heap vector sequence) :
    ∃ after, vector.destroy.run heap = some ((), after) ∧
      after.outcome = heap.outcome ∧ after.requests = heap.requests ∧
      (sequence.lost = false → after.blocks = outside) ∧
      (sequence.lost = true → ∃ block cells, outside block = none ∧
        after.blocks = Function.update outside block (some cells) ∧
          cells.length = sequence.capacity) := by
  cases represents with
  | unallocated blocks =>
      refine ⟨heap, rfl, rfl, rfl, fun _ => blocks, ?_⟩
      intro impossible
      cases impossible
  | allocated block cells items foreign blocks nonempty fits filled =>
      have freed := Heap.free_run (Represents.owns blocks)
      refine ⟨heap.release block, ?_, rfl, rfl, ?_, ?_⟩
      · exact Heap.run_bind_of_some (Heap.run_bind_of_some freed)
      · intro _
        change Function.update heap.blocks block none = _
        rw [blocks, Function.update_idem, ← foreign, Function.update_eq_self]
      · intro impossible
        cases impossible
  | lost block cells items foreign blocks nonempty full filled =>
      refine ⟨heap, rfl, rfl, rfl, ?_, fun _ => ⟨block, cells, foreign, blocks, rfl⟩⟩
      intro impossible
      cases impossible
  | cleared block cells foreign blocks nonempty =>
      refine ⟨heap, rfl, rfl, rfl, ?_, fun _ => ⟨block, cells, foreign, blocks, rfl⟩⟩
      intro impossible
      cases impossible

end Fffb.Uti
