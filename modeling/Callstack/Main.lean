import Callstack.Cli.Run

/-!
# The command-line program

The outer layer of the command: it asks the environment for the log filter, runs the command, and
writes what comes out of it. Records and complaints go to the standard error stream.
-/

namespace Callstack.Cli

/-- A log record as a line. -/
def recordLine (record : Log.Record) : String :=
  "[" ++ String.ofList (record.level.name.toList.rightpad 5 ' ') ++ " " ++ record.target ++ "] " ++
    record.text

/-- The path under which the command is taken to be installed. -/
def installedPath : List UInt8 := "/usr/bin/framedump".toUTF8.toList

end Callstack.Cli

open Callstack in
/-- Run the command. If its output cannot be written, the outcome is the one for that fault. -/
def main (arguments : List String) : IO UInt32 := do
  let logFilter ← IO.getEnv "RUST_LOG"
  let host := { Cli.Host.ofExecutable Cli.installedPath Cli.Executable.bytes with logFilter }
  let outcome := Cli.run host arguments
  let outcome ←
    try
      let out ← IO.getStdout
      out.putStr outcome.output
      out.flush
      pure outcome
    catch fault =>
      pure (Cli.run { host with printFault := some (.other (toString fault)) } arguments)
  for record in outcome.records do
    IO.eprintln (Cli.recordLine record)
  for complaint in outcome.complaints do
    IO.eprintln complaint
  return UInt32.ofNat outcome.status
