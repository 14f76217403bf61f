import Callstack.Cli.Args
import Callstack.Cli.Host
import Callstack.Log.Filter
import Callstack.Report

/-!
# The command

The command nests some calls, captures the stack below them and prints it. Before that it may show
which backend is in use. What it logs depends on a filter, which the environment or an argument may
give.

## Main definitions

* `Cli.Outcome` — what comes out of the command
* `Cli.session` — a run with given settings
* `Cli.run` — the command, from its arguments
-/

namespace Callstack.Cli

/-- What comes out of the command. -/
structure Outcome where
  /-- The exit status. -/
  status : Nat
  /-- What is printed. -/
  output : String := ""
  /-- What is logged. -/
  records : List Log.Record := []
  /-- What is complained about. -/
  complaints : List String := []

/-- The statuses of the command. -/
def statusSuccess : Nat := 0

/-- The status after a failure. -/
def statusFailure : Nat := 1

/-- The status after wrong arguments. -/
def statusUsage : Nat := 2

/-- The status when the command cannot go on. -/
def statusAborted : Nat := 101

/-- Where the command's own records come from. -/
def target : String := "framedump"

/-- The filter if nobody gives one. -/
def standardFilter : String := "warn"

/-- The record about a capture. -/
def captureRecord (trace : Trace) : Log.Record :=
  ⟨.info, target, "Captured " ++ toString trace.frames.length ++ " of at most " ++
    toString trace.capacity ++ " frames"⟩

/-- Print a text. If that is impossible nothing is printed, and an empty text always succeeds. -/
def print (host : Host) (text : String) : Except AccessFault String :=
  match host.printFault with
  | some fault => if text.isEmpty then .ok "" else .error fault
  | none => .ok text

/-- The trace that the command captures. -/
def capture (host : Host) (settings : Settings) : Capture :=
  let capture := Capture.run settings.maxFrames settings.skip host.anchor
    (host.stack settings.depth)
  match settings.label with
  | some label => { capture with trace := capture.trace.withLabel label }
  | none => capture

/-- Run the command with its settings. The records are not yet filtered. -/
def session (host : Host) (settings : Settings) : Outcome :=
  let (backend, loading) := host.backend
  let capture := capture host settings
  let captured := Report.captureRecords (some .trace) capture ++ [captureRecord capture.trace]
  let dump := Dump.text backend capture.trace settings.indent
  let (intro, records) :=
    if settings.showsBackend then
      ("backend: " ++ backend.name ++ "\n", loading ++ captured)
    else ("", captured ++ loading)
  match print host intro with
  | .error fault =>
    { status := statusAborted, records := loading,
      complaints := ["failed printing to stdout: " ++ fault.message] }
  | .ok shown =>
    match print host dump with
    | .error fault =>
      { status := statusFailure, output := shown, records := records,
        complaints := ["error: Failed to write stack trace: " ++ fault.message] }
    | .ok text => { status := statusSuccess, output := shown ++ text, records := records }

/-- The filter that the environment asks for, else the arguments. -/
def filter (host : Host) (settings : Settings) : Log.Filter × List String :=
  Log.Filter.parse ((host.logFilter <|> settings.log).getD standardFilter)

/-- Run the command with its arguments. -/
def run (host : Host) (arguments : List String) : Outcome :=
  match parse arguments with
  | .error problem =>
    match problem.message? with
    | some message =>
      { status := statusUsage, complaints := ["error: " ++ message, "",
          "For more information, try '--help'."] }
    | none => { status := statusSuccess, output := (print host helpText).toOption.getD "" }
  | .ok settings =>
    let (filter, complaints) := filter host settings
    let outcome := session host settings
    { outcome with
      records := outcome.records.filter filter.passes
      complaints :=
        complaints.map (fun text => "warning: " ++ text ++ ", ignoring it") ++ outcome.complaints }

end Callstack.Cli
