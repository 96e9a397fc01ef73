import Fffb.Foundation.Heap

/-
The vector of the vendored uti library, over the malloc resource.

A buffer owns a block and remembers its capacity; a vector is a buffer and a
view of the items in it.  Only a refused request for more memory separates the
two: the buffer forgets its block and keeps its capacity, the view keeps
pointing at the block that was not moved.
-/

namespace Fffb.Uti

variable {Value : Type}

def i64Max : Nat := 9223372036854775807

structure Buffer where
  begin : Pointer
  capacity : Nat
  deriving DecidableEq, Repr

structure Vector where
  buffer : Buffer
  begin : Pointer
  size : Nat
  deriving DecidableEq, Repr

namespace Buffer

def allocate (count : Nat) : HeapM Value Buffer := do
  let buff ← Heap.malloc count
  return if buff.isSome then { begin := buff, capacity := count }
    else { begin := none, capacity := 0 }

/-- A refused request leaves the capacity as it is and the pointer null. -/
def reallocate (block : Buffer) (count : Nat) : HeapM Value Buffer := do
  let buff ← Heap.realloc block.begin count
  let block := if buff.isSome then { block with capacity := count } else block
  return if buff ≠ block.begin then { block with begin := buff } else block

def release (block : Buffer) : HeapM Value Buffer := do
  Heap.free block.begin
  return { begin := none, capacity := 0 }

def empty : Buffer :=
  { begin := none
    capacity := 0 }

def withCapacity (capacity : Nat) : HeapM Value Buffer :=
  if 0 < capacity ∧ capacity < i64Max then allocate capacity else return empty

def reserve (buffer : Buffer) (capacity : Nat) : HeapM Value Buffer :=
  if capacity ≤ buffer.capacity then
    return buffer
  else if buffer.capacity = 0 then
    allocate capacity
  else
    buffer.reallocate capacity

def deallocate (buffer : Buffer) : HeapM Value Buffer :=
  if buffer.begin.isSome then buffer.release else return buffer

end Buffer

namespace Vector

def empty : Vector :=
  { buffer := .empty
    begin := none
    size := 0 }

def withCapacity (capacity : Nat) : HeapM Value Vector := do
  let buffer ← Buffer.withCapacity capacity
  return { buffer := buffer, begin := buffer.begin, size := 0 }

/-- The overload with an argument; the capacity it returns is the new vector's.
The malloc resource never resizes a block in place. -/
def reserveTo (vector : Vector) (capacity : Nat) : HeapM Value Vector :=
  if capacity ≤ vector.buffer.capacity then
    return vector
  else if vector.buffer.capacity = 0 then do
    let buffer ← vector.buffer.reserve capacity
    return { buffer := buffer, begin := buffer.begin, size := 0 }
  else do
    let beginPos ← StateT.lift (vector.begin.distance vector.buffer.begin)
    let buffer ← vector.buffer.reserve capacity
    if buffer.capacity < capacity then
      return { vector with buffer := buffer }
    else
      let begin ← StateT.lift (buffer.begin.advance beginPos)
      return { buffer := buffer, begin := begin, size := vector.size }

def isFull (vector : Vector) : Bool :=
  decide (vector.buffer.capacity ≤ vector.size)

def reserve (vector : Vector) : HeapM Value (Bool × Vector) :=
  if vector.isFull then do
    let vector ← vector.reserveTo
      (if vector.buffer.capacity = 0 then 1 else vector.buffer.capacity * 2)
    return (decide (vector.size < vector.buffer.capacity), vector)
  else
    return (true, vector)

def emplace (vector : Vector) (value : Value) : HeapM Value Vector := do
  let position ← StateT.lift (vector.begin.advance vector.size)
  Heap.store position value
  return { vector with size := vector.size + 1 }

/-- An item that no place can be found for is dropped. -/
def emplaceBack (vector : Vector) (value : Value) : HeapM Value Vector := do
  let (fits, vector) ← vector.reserve
  if !fits then return vector
  vector.emplace value

def clear (vector : Vector) : Vector :=
  { vector with
    begin := vector.buffer.begin
    size := 0 }

def destroy (vector : Vector) : HeapM Value Unit := do
  let _ ← vector.clear.buffer.deallocate
  return ()

def items (vector : Vector) : HeapM Value (List Value) := fun heap =>
  (heap.read vector.begin vector.size).map fun values => (values, heap)

end Vector

end Fffb.Uti
