import Callstack.Address
import Callstack.Text.Quoted

/-!
# Captured traces

A trace holds the return addresses of a call stack, innermost first, in an allocation of fixed
size. The slots behind the last frame are null. A trace may carry a label, a text that is written
in front of every line of its dump.

Two traces are equal when their slots, lengths and labels are.
-/

namespace Callstack

/-- A captured call stack. -/
structure Trace where
  /-- The allocated slots, used ones first. -/
  slots : Array Address
  /-- How many slots are used. -/
  len : Nat
  /-- The text in front of every dumped line. -/
  label : Option String
  deriving DecidableEq

namespace Trace

variable (trace : Trace)

/-- How many frames fit. -/
def capacity : Nat := trace.slots.size

/-- Whether no frame was captured. -/
def isEmpty : Bool := trace.len == 0

/-- The captured addresses, innermost first. -/
def frames : List Address := trace.slots.toList.take trace.len

/-- The trace with the given label. -/
def withLabel (label : String) : Trace := { trace with label := some label }

/-- The trace without a label. -/
def withoutLabel : Trace := { trace with label := none }

/-- The outline of a trace: counts, label and frames. -/
def outline : Outline :=
  .record "CapturedTrace"
    [("len", .text (toString trace.len)),
     ("capacity", .text (toString trace.capacity)),
     ("prefix",
       match trace.label with
       | none => .text "None"
       | some label => .tuple "Some" [.text (String.ofList (Quoted.encode '"' label.toList))]),
     ("frames", .list (trace.frames.map Address.outline))]

end Trace

end Callstack
