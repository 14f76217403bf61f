/-!
# Log records

A record has a level, a target, which names the part of the program it comes from, and a text. A
threshold lets the records of its level and of more severe ones pass.
-/

namespace Callstack.Log

/-- How severe a record is, the most severe first. -/
inductive Level where
  | error
  | warn
  | info
  | debug
  | trace
  deriving DecidableEq, Repr

/-- The written form of a level. -/
def Level.name : Level → String
  | .error => "ERROR"
  | .warn => "WARN"
  | .info => "INFO"
  | .debug => "DEBUG"
  | .trace => "TRACE"

/-- How far a level is from silence. -/
def Level.verbosity : Level → Nat
  | .error => 1
  | .warn => 2
  | .info => 3
  | .debug => 4
  | .trace => 5

/-- The least severe level that passes, or `none` for silence. -/
abbrev Threshold := Option Level

/-- Whether records of a level pass a threshold. -/
def Threshold.passes (threshold : Threshold) (level : Level) : Bool :=
  match threshold with
  | none => false
  | some least => level.verbosity ≤ least.verbosity

/-- A log record. -/
structure Record where
  /-- How severe it is. -/
  level : Level
  /-- Where it comes from. -/
  target : String
  /-- What it says. -/
  text : String
  deriving DecidableEq, Repr

end Callstack.Log
