import Callstack.Trace

/-!
# Filling a trace

A writer holds the slots of a trace to be. Frames are pushed one after the other until it is full;
a reset makes it empty again in the same allocation.
-/

namespace Callstack.Trace

/-- A trace under construction. -/
structure Writer where
  /-- The allocated slots. -/
  slots : Array Address
  /-- How many of them are used. -/
  len : Nat

namespace Writer

/-- An empty writer with room for `capacity` frames, and for one at least. -/
def withCapacity (capacity : Nat) : Writer :=
  ⟨Array.replicate (max capacity 1) Address.null, 0⟩

variable (writer : Writer)

/-- Whether every slot is used. -/
def isFull : Bool := writer.len == writer.slots.size

/-- Store a frame, unless the writer is full. The answer says whether there is room for another
one afterwards. -/
def push (a : Address) : Writer × Bool :=
  if writer.isFull then (writer, false)
  else
    let next : Writer := ⟨writer.slots.setIfInBounds writer.len a, writer.len + 1⟩
    (next, !next.isFull)

/-- Forget all frames and keep the allocation. -/
def reset : Writer :=
  ⟨Array.replicate writer.slots.size Address.null, 0⟩

/-- The finished trace, without a label. -/
def finish : Trace :=
  ⟨writer.slots, writer.len, none⟩

end Writer

/-- The trace that holds exactly the given addresses. -/
def ofAddresses (addresses : List Address) : Trace :=
  (addresses.foldl (fun writer a => (writer.push a).1)
    (Writer.withCapacity addresses.length)).finish

end Callstack.Trace
