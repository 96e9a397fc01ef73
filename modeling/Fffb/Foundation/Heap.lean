import Mathlib.Data.List.Basic
import Mathlib.Logic.Function.Basic

/-
A heap whose every request for memory may be refused.

A block is named by the request that granted it, so no name is ever used twice
and a pointer to a block that was freed or moved stays recognizable.  Whatever
the C standard leaves undefined (an access outside a live block, the read of a
cell before it is written, arithmetic across blocks) has no result.
-/

namespace Fffb

structure Address where
  block : Nat
  offset : Nat
  deriving DecidableEq, Repr

/-- `none` is the null pointer. -/
abbrev Pointer := Option Address

namespace Pointer

def distance : Pointer → Pointer → Option Int
  | none, none => some 0
  | some left, some right =>
      if left.block = right.block then some ((left.offset : Int) - right.offset) else none
  | _, _ => none

/-- A pointer moved by some cells; the null pointer stays where it is. -/
def advance : Pointer → Int → Option Pointer
  | none, count => if count = 0 then some none else none
  | some address, count =>
      if 0 ≤ address.offset + count then
        some (some { address with offset := (address.offset + count).toNat })
      else
        none

theorem distance_self (pointer : Pointer) : pointer.distance pointer = some 0 := by
  cases pointer with
  | none => rfl
  | some address => exact (if_pos rfl).trans (congrArg some (Int.sub_self _))

theorem advance_inside {address : Address} {count : Int} (inside : 0 ≤ address.offset + count) :
    advance (some address) count =
      some (some { address with offset := (address.offset + count).toNat }) :=
  if_pos inside

theorem advance_zero (pointer : Pointer) : pointer.advance 0 = some pointer := by
  cases pointer with
  | none => rfl
  | some address =>
      rw [advance_inside (by omega), Int.add_zero, Int.toNat_natCast]

theorem advance_some (block offset count : Nat) :
    advance (some ⟨block, offset⟩) count = some (some ⟨block, offset + count⟩) := by
  rw [advance_inside (by omega), ← Int.natCast_add, Int.toNat_natCast]

end Pointer

structure Heap (Value : Type) where
  /-- Which of the requests, counted from zero, are granted. -/
  outcome : Nat → Bool
  requests : Nat
  /-- The cells of the live blocks; a cell without a value was never written. -/
  blocks : Nat → Option (List (Option Value))
  fresh : ∀ block, requests ≤ block → blocks block = none

/-- A computation on the heap; `none` is undefined behaviour. -/
abbrev HeapM (Value : Type) := StateT (Heap Value) Option

namespace Heap

variable {Value : Type}

def initial (outcome : Nat → Bool) : Heap Value :=
  { outcome := outcome
    requests := 0
    blocks := fun _ => none
    fresh := fun _ _ => rfl }

def grant (cells : List (Option Value)) (heap : Heap Value) : Heap Value :=
  { outcome := heap.outcome
    requests := heap.requests + 1
    blocks := Function.update heap.blocks heap.requests (some cells)
    fresh := by
      intro block beyond
      rw [Function.update_of_ne (by omega)]
      exact heap.fresh block (by omega) }

def refuse (heap : Heap Value) : Heap Value :=
  { heap with
    requests := heap.requests + 1
    fresh := fun block beyond => heap.fresh block (by omega) }

def release (block : Nat) (heap : Heap Value) : Heap Value :=
  { heap with
    blocks := Function.update heap.blocks block none
    fresh := by
      intro other beyond
      by_cases same : other = block
      · rw [same, Function.update_self]
      · rw [Function.update_of_ne same]
        exact heap.fresh other beyond }

def write (address : Address) (value : Value) (heap : Heap Value) : Heap Value :=
  { heap with
    blocks := Function.update heap.blocks address.block
      ((heap.blocks address.block).map fun cells => cells.set address.offset (some value))
    fresh := by
      intro other beyond
      by_cases same : other = address.block
      · rw [same] at beyond ⊢
        rw [Function.update_self, heap.fresh _ beyond]
        rfl
      · rw [Function.update_of_ne same]
        exact heap.fresh other beyond }

def resized (cells : List (Option Value)) (count : Nat) : List (Option Value) :=
  cells.take count ++ List.replicate (count - cells.length) none

def malloc (count : Nat) : HeapM Value Pointer := fun heap =>
  if heap.outcome heap.requests then
    some (some ⟨heap.requests, 0⟩, heap.grant (List.replicate count none))
  else
    some (none, heap.refuse)

/-- A refused request leaves the old block as it is. -/
def realloc (pointer : Pointer) (count : Nat) : HeapM Value Pointer :=
  match pointer with
  | none => malloc count
  | some address => fun heap =>
      match heap.blocks address.block with
      | none => none
      | some cells =>
          if address.offset ≠ 0 then
            none
          else if heap.outcome heap.requests then
            some (some ⟨heap.requests, 0⟩,
              (heap.grant (resized cells count)).release address.block)
          else
            some (none, heap.refuse)

def free (pointer : Pointer) : HeapM Value Unit := fun heap =>
  match pointer with
  | none => some ((), heap)
  | some address =>
      if address.offset = 0 ∧ (heap.blocks address.block).isSome then
        some ((), heap.release address.block)
      else
        none

def peek (heap : Heap Value) : Pointer → Option Value
  | none => none
  | some address => do
      let cells ← heap.blocks address.block
      let cell ← cells[address.offset]?
      cell

def load (pointer : Pointer) : HeapM Value Value := fun heap =>
  (heap.peek pointer).map fun value => (value, heap)

def store (pointer : Pointer) (value : Value) : HeapM Value Unit := fun heap =>
  match pointer with
  | none => none
  | some address =>
      match heap.blocks address.block with
      | none => none
      | some cells =>
          if address.offset < cells.length then some ((), heap.write address value) else none

def read (heap : Heap Value) (pointer : Pointer) : Nat → Option (List Value)
  | 0 => some []
  | count + 1 => do
      let value ← heap.peek pointer
      let next ← pointer.advance 1
      let rest ← heap.read next count
      return value :: rest

def Reliable (heap : Heap Value) : Prop :=
  ∀ request, heap.requests ≤ request → heap.outcome request = true

theorem run_bind_of_some {α β : Type} {first : HeapM Value α} {rest : α → HeapM Value β}
    {heap next : Heap Value} {value : α} (ends : first.run heap = some (value, next)) :
    (first >>= rest).run heap = (rest value).run next := by
  rw [StateT.run_bind, ends]
  rfl

theorem run_bind_of_none {α β : Type} {first : HeapM Value α} (rest : α → HeapM Value β)
    {heap : Heap Value} (stuck : first.run heap = none) : (first >>= rest).run heap = none := by
  rw [StateT.run_bind, stuck]
  rfl

theorem lt_requests_of_live {heap : Heap Value} {block : Nat} {cells : List (Option Value)}
    (live : heap.blocks block = some cells) : block < heap.requests := by
  by_contra beyond
  rw [heap.fresh block (by omega)] at live
  cases live

theorem malloc_granted {heap : Heap Value} (granted : heap.outcome heap.requests = true)
    (count : Nat) :
    (malloc count).run heap =
      some (some ⟨heap.requests, 0⟩, heap.grant (List.replicate count none)) :=
  if_pos granted

theorem malloc_refused {heap : Heap Value} (refused : heap.outcome heap.requests = false)
    (count : Nat) : (malloc count).run heap = some (none, heap.refuse) := by
  change (if heap.outcome heap.requests then _ else _) = _
  rw [refused]
  rfl

theorem realloc_granted {heap : Heap Value} {block : Nat} {cells : List (Option Value)}
    (live : heap.blocks block = some cells) (granted : heap.outcome heap.requests = true)
    (count : Nat) :
    (realloc (some ⟨block, 0⟩) count).run heap =
      some (some ⟨heap.requests, 0⟩, (heap.grant (resized cells count)).release block) := by
  unfold realloc StateT.run
  simp only [live, granted]
  rfl

theorem realloc_refused {heap : Heap Value} {block : Nat} {cells : List (Option Value)}
    (live : heap.blocks block = some cells) (refused : heap.outcome heap.requests = false)
    (count : Nat) : (realloc (some ⟨block, 0⟩) count).run heap = some (none, heap.refuse) := by
  unfold realloc StateT.run
  simp only [live, refused]
  rfl

theorem free_run {heap : Heap Value} {block : Nat} {cells : List (Option Value)}
    (live : heap.blocks block = some cells) :
    (free (some ⟨block, 0⟩)).run heap = some ((), heap.release block) := by
  unfold free StateT.run
  simp only [live]
  rfl

/-- A block that moves leaves the others where they are. -/
theorem release_grant_update {heap : Heap Value} {block : Nat} {cells : List (Option Value)}
    {outside : Nat → Option (List (Option Value))} (foreign : outside block = none)
    (owned : heap.blocks = Function.update outside block (some cells))
    (moved : List (Option Value)) :
    ((heap.grant moved).release block).blocks =
      Function.update outside heap.requests (some moved) := by
  have live : heap.blocks block = some cells := by rw [owned, Function.update_self]
  have older := lt_requests_of_live live
  change Function.update (Function.update heap.blocks heap.requests (some moved)) block none = _
  rw [Function.update_comm (by omega), owned, Function.update_idem, ← foreign,
    Function.update_eq_self]

theorem Reliable.granted {heap : Heap Value} (reliable : heap.Reliable) :
    heap.outcome heap.requests = true :=
  reliable heap.requests (Nat.le_refl _)

theorem Reliable.grant {heap : Heap Value} (reliable : heap.Reliable)
    (cells : List (Option Value)) : (heap.grant cells).Reliable :=
  fun request beyond => reliable request (Nat.le_of_succ_le beyond)

theorem peek_of_cells {heap : Heap Value} {address : Address} {cells : List (Option Value)}
    {value : Value} (live : heap.blocks address.block = some cells)
    (held : cells[address.offset]? = some (some value)) :
    heap.peek (some address) = some value := by
  change ((heap.blocks address.block).bind fun cells => cells[address.offset]?.bind id) = _
  rw [live, Option.bind_some, held]
  rfl

theorem store_run {heap : Heap Value} {address : Address} {cells : List (Option Value)}
    (live : heap.blocks address.block = some cells) (inside : address.offset < cells.length)
    (value : Value) :
    (store (some address) value).run heap = some ((), heap.write address value) := by
  change (match heap.blocks address.block with
    | none => none
    | some cells => if address.offset < cells.length then some ((), heap.write address value)
      else none) = _
  rw [live]
  exact if_pos inside

theorem read_succ {heap : Heap Value} {pointer next : Pointer} {value : Value}
    (peeked : heap.peek pointer = some value) (advanced : pointer.advance 1 = some next)
    (count : Nat) :
    heap.read pointer (count + 1) = (heap.read next count).map (value :: ·) := by
  rw [read, peeked, Option.bind_eq_bind, Option.bind_some, advanced, Option.bind_eq_bind,
    Option.bind_some]
  cases heap.read next count <;> rfl

theorem read_of_cells {heap : Heap Value} {block offset : Nat} {cells : List (Option Value)}
    (live : heap.blocks block = some cells) {values : List Value}
    (held : ∀ index (inside : index < values.length),
      cells[offset + index]? = some (some values[index])) :
    heap.read (some ⟨block, offset⟩) values.length = some values := by
  induction values generalizing offset with
  | nil => rfl
  | cons value rest ih =>
      have peeked : heap.peek (some ⟨block, offset⟩) = some value :=
        peek_of_cells live (held 0 (Nat.succ_pos _))
      have later : heap.read (some ⟨block, offset + 1⟩) rest.length = some rest := by
        apply ih
        intro index inside
        have shifted : offset + 1 + index = offset + (index + 1) := by omega
        rw [shifted]
        exact held (index + 1) (Nat.succ_lt_succ inside)
      rw [List.length_cons, read_succ peeked (Pointer.advance_some block offset 1), later]
      rfl

theorem read_succ_cases {heap : Heap Value} {pointer : Pointer} {count : Nat} {values : List Value}
    (reads : heap.read pointer (count + 1) = some values) :
    ∃ value next rest, values = value :: rest ∧ heap.peek pointer = some value ∧
      pointer.advance 1 = some next ∧ heap.read next count = some rest := by
  cases peeked : heap.peek pointer with
  | none =>
      rw [read, peeked] at reads
      cases reads
  | some value =>
      cases advanced : pointer.advance 1 with
      | none =>
          rw [read, peeked, Option.bind_eq_bind, Option.bind_some, advanced] at reads
          cases reads
      | some next =>
          rw [read_succ peeked advanced] at reads
          obtain ⟨rest, later, same⟩ := Option.map_eq_some_iff.mp reads
          exact ⟨value, next, rest, same.symm, rfl, rfl, later⟩

theorem read_length {heap : Heap Value} {pointer : Pointer} {count : Nat} {values : List Value}
    (reads : heap.read pointer count = some values) : values.length = count := by
  induction count generalizing pointer values with
  | zero =>
      cases reads
      rfl
  | succ count ih =>
      obtain ⟨value, next, rest, rfl, _, _, later⟩ := read_succ_cases reads
      rw [List.length_cons, ih later]

end Heap

end Fffb
