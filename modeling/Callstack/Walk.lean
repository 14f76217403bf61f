import Callstack.Trace.Writer

/-!
# Walking a stack

A stack walker reports frames from the innermost one outwards and asks after each one whether to go
on. A walk decides which of them belong into the trace: it hides the frames of the capturing code
itself, skips as many frames as its caller wants, and stores the following ones until the stack
ends, the trace is full or its budget of frames is used up.

The capturing code is recognised by an anchor: the function that all its frames lie above. If
the walker does not report the anchor, a fixed number of frames is hidden instead.

## Main definitions

* `Walk.anchored`, `Walk.fixed` — the two ways to begin
* `Walk.visitBy` — what happens at one frame, with any way to store it
* `Walk.visit` — what happens at one frame
* `Walk.run` — a whole pass over the frames that a walker reports
-/

namespace Callstack

/-- A frame as a walker reports it. -/
structure Frame where
  /-- The return address. -/
  ip : Address
  /-- The start of the function around it. -/
  symbol : Address
  deriving DecidableEq, Repr

/-- The state of a walk. -/
structure Walk where
  /-- The function that ends the hidden frames, or `none` when a fixed number is hidden. -/
  anchor : Option Address
  /-- Whether the anchor has been seen. -/
  foundAnchor : Bool
  /-- How many more frames are hidden in a walk without anchor. -/
  hidden : Nat
  /-- How many more frames are skipped. -/
  skip : Nat
  /-- How many more frames may be looked at. -/
  budget : Nat
  /-- How many frames have been searched for the anchor. -/
  searched : Nat
  deriving DecidableEq, Repr

namespace Walk

/-- How many frames the capturing code itself has. -/
def internalFrames : Nat := 2

/-- How many frames are searched for the anchor. -/
def searchLimit : Nat := 32

/-- A walk that hides everything up to the anchor. -/
def anchored (anchor : Address) (requested skip : Nat) : Walk where
  anchor := some anchor
  foundAnchor := false
  hidden := 0
  skip := skip
  budget := requested
  searched := 0

/-- A walk that hides a fixed number of frames. -/
def fixed (requested skip : Nat) : Walk where
  anchor := none
  foundAnchor := false
  hidden := internalFrames
  skip := skip
  budget := requested
  searched := 0

section Visit

variable {m : Type → Type} [Monad m]
  (push : Trace.Writer → Address → m (Trace.Writer × Bool)) (walk : Walk) (writer : Trace.Writer)

/-- A frame behind the hidden ones: it is skipped, stored, or ends the walk. How a frame is stored
is left open. -/
def visitShownBy (ip : Address) : m (Walk × Trace.Writer × Bool) := do
  if walk.budget = 0 then return (walk, writer, false)
  else
    let walk := { walk with budget := walk.budget - 1 }
    if 0 < walk.skip then
      return ({ walk with skip := walk.skip - 1 }, writer, decide (0 < walk.budget))
    else if ip.isNull || writer.isFull then return (walk, writer, false)
    else
      let (writer, hasRoom) ← push writer ip
      return (walk, writer, hasRoom && decide (0 < walk.budget))

/-- Visit one frame. The answer says whether the walker should report another one. How a frame is
stored is left open. -/
def visitBy (frame : Frame) : m (Walk × Trace.Writer × Bool) := do
  match walk.anchor with
  | some anchor =>
    if walk.foundAnchor then walk.visitShownBy push writer frame.ip
    else
      let walk := { walk with searched := walk.searched + 1 }
      if frame.symbol = anchor then
        -- The search has not used up any of the budget, so the hidden frames are taken off here.
        let walk := { walk with foundAnchor := true, budget := walk.budget - internalFrames }
        return (walk, writer, decide (0 < walk.budget))
      else return (walk, writer, decide (walk.searched < searchLimit))
  | none =>
    if 0 < walk.hidden then
      let walk := { walk with hidden := walk.hidden - 1, budget := walk.budget - 1 }
      return (walk, writer, decide (0 < walk.budget))
    else walk.visitShownBy push writer frame.ip

end Visit

/-- A frame behind the hidden ones: it is skipped, stored, or ends the walk. -/
def visitShown (walk : Walk) (writer : Trace.Writer) (ip : Address) : Walk × Trace.Writer × Bool :=
  Id.run (walk.visitShownBy (fun writer ip => pure (writer.push ip)) writer ip)

/-- Visit one frame. The answer says whether the walker should report another one. -/
def visit (walk : Walk) (writer : Trace.Writer) (frame : Frame) : Walk × Trace.Writer × Bool :=
  Id.run (walk.visitBy (fun writer ip => pure (writer.push ip)) writer frame)

/-- The end of a pass: the walk, the writer, and how many frames were reported. -/
structure Pass where
  /-- The walk after the pass. -/
  walk : Walk
  /-- The writer after the pass. -/
  writer : Trace.Writer
  /-- How many frames the walker reported. -/
  reported : Nat

/-- Report frames to a walk until it has enough. A stubborn walker reports all of them whatever the
walk answers. -/
def run (stubborn : Bool) (walk : Walk) (writer : Trace.Writer) : List Frame → Pass
  | [] => ⟨walk, writer, 0⟩
  | frame :: rest =>
    let (walk, writer, goOn) := walk.visit writer frame
    if goOn || stubborn then
      let pass := run stubborn walk writer rest
      { pass with reported := pass.reported + 1 }
    else ⟨walk, writer, 1⟩

end Walk

end Callstack
