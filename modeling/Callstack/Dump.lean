import Callstack.Backend
import Callstack.Text.Utf8

/-!
# Dumps of traces

A dump shows a trace with one line for each frame: the trace's label, an indent, the frame's number
in a column of three, its address and its name.

The lines go into a sink piece by piece. A sink may refuse a piece, and then nothing more is
written.

## Main definitions

* `Sink`, `Sink.text`, `Sink.bounded` — where a dump goes
* `Dump.pieces` — what is written, in order
* `Dump.into` — a dump into any sink
* `Dump.text` — the whole dump as a text
-/

namespace Callstack

/-- Something that takes pieces of text, with what it holds of type `σ`. -/
structure Sink (σ : Type) where
  /-- Take a piece. The answer says whether it was taken whole. -/
  write : σ → String → σ × Bool

namespace Sink

/-- The sink that takes everything. -/
def text : Sink String where
  write held piece := (held ++ piece, true)

/-- The sink that holds at most `limit` bytes. It takes characters until one does not fit. -/
def bounded (limit : Nat) : Sink String where
  write held piece :=
    let taken := Utf8.fit (limit - Utf8.size held.toList) piece.toList
    (held ++ String.ofList taken, taken == piece.toList)

variable {σ : Type} (sink : Sink σ)

/-- Write pieces until one is refused. The answer says whether all were taken. -/
def writeAll (held : σ) : List String → σ × Bool
  | [] => (held, true)
  | piece :: rest =>
    let (held, isTaken) := sink.write held piece
    if isTaken then writeAll held rest else (held, false)

end Sink

namespace Dump

/-- What is shown for an address without a name. -/
def unknownName : String := "???"

/-- The number of a frame, filled up with blanks to three characters. -/
def number (n : Nat) : String :=
  String.ofList ((toString n).toList.rightpad 3 ' ')

/-- The pieces of one line. -/
def linePieces (label indent : String) (n : Nat) (address : Address) (name : Option String) :
    List String :=
  [label, indent, number n, " ", address.display, " ", name.getD unknownName, "\n"]

/-- The pieces of a dump. -/
def pieces (backend : Backend) (trace : Trace) (indent : String) : List String :=
  if trace.isEmpty then []
  else
    let names := backend.resolveAll trace.frames
    trace.frames.zipIdx.flatMap fun (address, i) =>
      linePieces (trace.label.getD "") indent (i + 1) address (names.get? i)

/-- Write a dump into a sink. The answer says whether the sink has taken all of it. -/
def into {σ : Type} (sink : Sink σ) (held : σ) (backend : Backend) (trace : Trace)
    (indent : String) : σ × Bool :=
  sink.writeAll held (pieces backend trace indent)

/-- The dump of a trace. -/
def text (backend : Backend) (trace : Trace) (indent : String) : String :=
  (into Sink.text "" backend trace indent).1

end Dump

end Callstack
