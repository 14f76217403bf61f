import Callstack.Capture
import Callstack.Cli.Executable
import Callstack.Image.Listing
import Callstack.Symbolizer

/-!
# The host of the command

What the command finds out about the process that it runs in: the path of the executable and the
bytes of that file, the listing of the mappings, and the call stack. The backend of the process is
made from these.

A program cannot look at its own stack here, so the host is a model of one: an executable of a few
functions, mapped in one piece, whose stack consists of the nested calls that the command makes
before it captures.

## Main definitions

* `Cli.Host` — what the command finds out
* `Cli.Host.backend` — the backend of the process, with what is logged about it
* `Cli.Host.ofExecutable` — the modelled host
-/

namespace Callstack.Cli

/-- What the command finds out about the process that it runs in. -/
structure Host where
  /-- The path of the executable. -/
  path : List UInt8
  /-- The listing of the mappings. -/
  listing : Except AccessFault (List UInt8)
  /-- The bytes of the executable. -/
  executable : Except AccessFault (List UInt8)
  /-- The start of the capturing function. -/
  anchor : Address
  /-- The stack below so many nested calls. -/
  stack : Nat → Walker
  /-- The log filter that the environment asks for. -/
  logFilter : Option String := none
  /-- The fault of every attempt to print, if there is one. -/
  printFault : Option AccessFault := none

namespace Host

/-- Where the records about the backend come from. -/
def target : String := "framedump::symbolization"

/-- The path under which a process reads its own executable. -/
def ownExecutable : String := "/proc/self/exe"

/-- Load the symbolizer of the process. The records up to a failure count as well. -/
def load (host : Host) : Except Failure Symbolizer × List Log.Record :=
  match Image.locate host.listing (Utf8.lossy host.path) with
  | .error failure => (.error failure, [])
  | .ok image =>
    match Symbolizer.load ownExecutable host.executable image with
    | .error failure => (.error failure, [image.record])
    | .ok loaded => (.ok loaded.symbolizer, [image.record, loaded.record])

/-- The backend of the process, with what is logged when it is first needed. If it cannot be loaded
no name is known. -/
def backend (host : Host) : Backend × List Log.Record :=
  match host.load with
  | (.error failure, records) =>
    let text := "Symbol resolution disabled for this process: " ++ failure.message
    (Backend.unavailable, records ++ [⟨.warn, target, text⟩])
  | (.ok symbolizer, records) =>
    let backend := symbolizer.backend .free
    (backend, records ++ [⟨.debug, target, "Symbol backend ready: " ++ backend.name⟩])

/-- How the listing shows a byte of a path: a line feed by its octal number. -/
def listedByte (b : UInt8) : List UInt8 :=
  if b = 10 then "\\012".toUTF8.toList else [b]

/-- The listing with one mapping, that of the executable with the given path. -/
def listingOf (path : List UInt8) : List UInt8 :=
  let shown (n : Nat) : String := String.ofList (Hex.minimal n)
  let range := shown Executable.base ++ "-" ++ shown (Executable.base + Executable.extent)
  (range ++ " r-xp 00000000 fd:01 1311 ").toUTF8.toList ++ path.flatMap listedByte ++ [10]

/-- A frame in a function of the executable. -/
def frameIn (function : Executable.Function) : Frame where
  ip := Address.ofNat (Executable.base + function.value + 0x2a)
  symbol := Address.ofNat (Executable.base + function.value)

/-- The start of the capturing function, which is not part of the executable's image. -/
def captureStart : Address := Address.ofNat 0x7ffff7a00000

/-- The frame of the capturing function. -/
def captureFrame : Frame where
  ip := Address.ofNat 0x7ffff7a00040
  symbol := captureStart

/-- The stack below so many nested calls: that of the walker itself, of the capture, of the nested
calls and of what is around them. -/
def stackOf (depth : Nat) : Walker :=
  let walker : Frame := ⟨Address.ofNat 0x7ffff7a10020, Address.ofNat 0x7ffff7a10000⟩
  let frames := walker :: captureFrame ::
    (List.replicate (depth + 1) (frameIn Executable.descend) ++ Executable.callers.map frameIn)
  { first := frames, second := frames }

/-- The host that runs an executable with the given path and bytes. -/
def ofExecutable (path bytes : List UInt8) : Host where
  path := path
  listing := .ok (listingOf path)
  executable := .ok bytes
  anchor := captureStart
  stack := stackOf

end Host

end Callstack.Cli
