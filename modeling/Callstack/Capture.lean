import Callstack.Text.Numeral
import Callstack.Walk

/-!
# Capturing the call stack

A capture looks for its own frame among those that the walker reports and keeps what lies behind
it. If that frame is not reported, a second pass hides a fixed number of frames instead; nothing of
the first pass remains.
-/

namespace Callstack

/-- A source of stack frames: what it reports in the first pass and in the second one. -/
structure Walker where
  /-- The frames of the first pass. -/
  first : List Frame
  /-- The frames of the second pass. -/
  second : List Frame
  /-- Whether it goes on reporting when it is told to stop. -/
  stubborn : Bool := false

/-- A captured trace, and how it came about. -/
structure Capture where
  /-- The trace. -/
  trace : Trace
  /-- How many frames were reported in each pass. -/
  reported : List Nat

namespace Capture

/-- The sum of two counts, or the greatest count if it does not fit into a word. -/
def saturatingAdd (a b : Nat) : Nat :=
  min (a + b) (Numeral.wordLimit - 1)

/-- The number of frames to look at, for at most `maxFrames` stored ones. -/
def requested (maxFrames skip : Nat) : Nat :=
  saturatingAdd (saturatingAdd maxFrames skip) Walk.internalFrames

/-- Capture at most `maxFrames` frames, one at least, after leaving out the frames up to `anchor`
and `skip` more. -/
def run (maxFrames skip : Nat) (anchor : Address) (walker : Walker) : Capture :=
  let maxFrames := max maxFrames 1
  let requested := requested maxFrames skip
  let first := (Walk.anchored anchor requested skip).run walker.stubborn
    (Trace.Writer.withCapacity maxFrames) walker.first
  if first.walk.foundAnchor then ⟨first.writer.finish, [first.reported]⟩
  else
    let second := (Walk.fixed requested skip).run walker.stubborn first.writer.reset walker.second
    ⟨second.writer.finish, [first.reported, second.reported]⟩

/-- Whether the second pass was needed. -/
def fellBack (capture : Capture) : Bool :=
  capture.reported.length == 2

/-- The note about a second pass. -/
def fallbackNote : String :=
  "capture: anchor frame not reported, hiding " ++ toString Walk.internalFrames ++ " frames"

end Capture

end Callstack
