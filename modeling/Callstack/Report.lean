import Callstack.Capture
import Callstack.Dump
import Callstack.Log
import Callstack.Text.Lines

/-!
# Reports of the current stack

A report captures the stack of its caller and shows it, either as one text or as log records, one
for each line of the dump.

## Main definitions

* `Report.capture` — the trace that is reported
* `Report.text` — the report as a text
* `Report.log` — the report as log records, with that of its capture
-/

namespace Callstack.Report

/-- How many frames are reported. -/
def maxFrames : Nat := 31

/-- How many frames of the caller are left out: that of the report itself. -/
def skip : Nat := 1

/-- Where the records of captures come from. -/
def captureTarget : String := "framedump::capture"

/-- Where the records of reports come from. -/
def target : String := "framedump::format"

/-- The records that a capture leaves behind. -/
def captureRecords (threshold : Log.Threshold) (capture : Capture) : List Log.Record :=
  if capture.fellBack && threshold.passes .trace then
    [⟨.trace, captureTarget, Capture.fallbackNote⟩]
  else []

/-- The trace that is reported. -/
def capture (anchor : Address) (walker : Walker) : Capture :=
  Capture.run maxFrames skip anchor walker

/-- The report of a captured trace as a text. -/
def text (backend : Backend) (trace : Trace) : String :=
  Dump.text backend trace ""

/-- The report of a captured trace as log records, one for each line. -/
def records (level : Log.Level) (backend : Backend) (trace : Trace) : List Log.Record :=
  (Text.lines (text backend trace).toList).map fun line => ⟨level, target, String.ofList line⟩

/-- Log the stack at a level: the capture, unless the level does not pass, and the records of the
capture and of the report, in order. A backend may leave records of its own behind while it is asked
for names, as that of the loader does (`Loader.records`). Those have another target and are left out
here. -/
def log (level : Log.Level) (threshold : Log.Threshold) (backend : Backend) (anchor : Address)
    (walker : Walker) : Option Capture × List Log.Record :=
  if threshold.passes level then
    let capture := capture anchor walker
    (some capture, captureRecords threshold capture ++ records level backend capture.trace)
  else (none, [])

end Callstack.Report
