import Callstack.Dump
import Callstack.Proofs.Backend
import Callstack.Proofs.Hexadecimal

/-!
# The text of a dump

A dump is written in pieces, and its names come out of a batch by their position. The text that
comes of it is described line by line instead: each line depends on its own number and address
only.

## Main definitions

* `Dump.shownName` — what is shown for an address
* `Dump.line`, `Dump.lines` — a line of a dump, and all of them
* `Dump.shownAt` — what is shown at a position, for any backend

## Main results

* `writeAll_text` — the text sink takes all pieces
* `text_eq_join_pieces` — a dump consists of its pieces
* `join_pieces_shownAt` — a dump consists of its lines, with the names of the batch
* `join_pieces`, `text_eq_join_lines` — the same with the names of the lookup, for any backend that
  agrees with itself
* `into_text_eq` — a dump into a text appends one line for each frame
-/

namespace Callstack

/-- The frames of a trace stand in its first slots. -/
theorem Trace.getElem?_frames (trace : Trace) (i : Nat) :
    trace.frames[i]? = if i < trace.len then trace.slots[i]? else none := by
  rw [Trace.frames, List.getElem?_take, Array.getElem?_toList]

theorem Sink.writeAll_text (held : String) (pieces : List String) :
    Sink.text.writeAll held pieces = (held ++ String.join pieces, true) := by
  induction pieces generalizing held with
  | nil => simp [Sink.writeAll]
  | cons piece rest ih =>
    simp only [Sink.writeAll, Sink.text, if_true]
    rw [String.join_cons, ← String.append_assoc]
    exact ih (held ++ piece)

/-- An address is shown as its digits, filled up with zeros to sixteen. -/
theorem Address.display_eq (a : Address) :
    a.display = "0x" ++ String.ofList (Hex.padded 16 a.toNat) := by
  rw [display, digits, Hex.fixed_eq_padded (by decide) a.toNat_lt_limit, digitCount,
    ← String.toList_inj]
  simp

namespace Dump

/-- What is shown for an address: the text of its entry, or three question marks if there is no
entry or an empty text. -/
def shownName (lookup : Address → Option Entry) (address : Address) : String :=
  match lookup address with
  | some entry => if entry.displayName = "" then "???" else entry.displayName
  | none => "???"

/-- The line of a frame: the label if there is one, the indent, the number in at least three
characters, the address with sixteen digits, and the name. -/
def line (label : Option String) (indent : String) (n : Nat) (address : Address) (name : String) :
    String :=
  label.getD "" ++ indent ++
    (toString n ++ String.ofList (List.replicate (3 - (toString n).length) ' ')) ++ " " ++
    ("0x" ++ String.ofList (Hex.padded 16 address.toNat)) ++ " " ++ name ++ "\n"

theorem join_flatMap {α : Type} (f : α → List String) (list : List α) :
    String.join (list.flatMap f) = String.join (list.map fun a => String.join (f a)) := by
  induction list with
  | nil => rfl
  | cons a rest ih => simp [ih]

theorem join_linePieces (label : Option String) (indent : String) (n : Nat) (address : Address)
    (name : Option String) :
    String.join (linePieces (label.getD "") indent n address name) =
      line label indent n address (name.getD unknownName) := by
  have width : (toString n).length = (toString n).toList.length := String.length_toList.symm
  rw [← String.toList_inj, line, width]
  simp [linePieces, number, List.rightpad, Address.display_eq]

/-- The name that a batch has at the position of a frame is the one to be shown. -/
theorem getD_get?_resolveAll {backend : Backend} (agree : backend.NamesAgree)
    {frames : List Address} {address : Address} {i : Nat} (atIndex : frames[i]? = some address) :
    ((backend.resolveAll frames).get? i).getD unknownName = shownName backend.lookup address := by
  rw [agree.get?_resolveAll, atIndex, Option.bind_some, agree.resolve_eq, shownName]
  cases backend.lookup address with
  | none => rfl
  | some entry =>
    by_cases isEmpty : entry.displayName = ""
    · simp [Option.filter_some, isEmpty, unknownName]
    · simp [Option.filter_some, isEmpty]

/-- What is shown for the frame at a position: the name that the batch has there, or three question
marks. -/
def shownAt (backend : Backend) (frames : List Address) (i : Nat) : String :=
  ((backend.resolveAll frames).get? i).getD unknownName

/-- The pieces of a dump make up lines with the names of the batch, whatever names these are. -/
theorem join_pieces_shownAt (backend : Backend) (trace : Trace) (indent : String) :
    String.join (pieces backend trace indent) =
      String.join (trace.frames.zipIdx.map fun (address, i) =>
        line trace.label indent (i + 1) address (shownAt backend trace.frames i)) := by
  unfold pieces
  split
  · rename_i isEmpty
    have noFrames : trace.frames = [] := by
      rw [Trace.frames, beq_iff_eq.mp isEmpty, List.take_zero]
    simp [noFrames]
  · rw [join_flatMap]
    refine congrArg String.join (List.map_congr_left ?_)
    rintro ⟨address, i⟩ -
    exact join_linePieces trace.label indent (i + 1) address _

/-- The pieces of a dump make up its lines. -/
theorem join_pieces {backend : Backend} (agree : backend.NamesAgree) (trace : Trace)
    (indent : String) :
    String.join (pieces backend trace indent) =
      String.join ((trace.frames.zipIdx 1).map fun (address, i) =>
        line trace.label indent i address (shownName backend.lookup address)) := by
  -- Lines are numbered from one, but the positions in a batch begin with zero.
  rw [join_pieces_shownAt, List.zipIdx_succ, List.map_map]
  refine congrArg String.join (List.map_congr_left ?_)
  rintro ⟨address, i⟩ member
  have atIndex : trace.frames[i]? = some address := List.mk_mem_zipIdx_iff_getElem?.mp member
  have shown : shownAt backend trace.frames i = shownName backend.lookup address :=
    getD_get?_resolveAll agree atIndex
  simp only [Function.comp_apply, shown]

/-- A dump consists of its pieces. -/
theorem text_eq_join_pieces (backend : Backend) (trace : Trace) (indent : String) :
    text backend trace indent = String.join (pieces backend trace indent) := by
  rw [text, into, Sink.writeAll_text]
  exact String.empty_append

section Lines

variable (trace : Trace) (indent : String) (name : Address → String)

/-- The lines of a dump with the given names. -/
def lines : List String :=
  (trace.frames.zipIdx 1).map fun (address, i) => line trace.label indent i address (name address)

theorem length_lines : (lines trace indent name).length = trace.frames.length := by
  rw [lines, List.length_map, List.length_zipIdx]

theorem getElem?_lines {i : Nat} {address : Address} (atIndex : trace.frames[i]? = some address) :
    (lines trace indent name)[i]? =
      some (line trace.label indent (i + 1) address (name address)) := by
  rw [lines, List.getElem?_map, List.getElem?_zipIdx, atIndex, Nat.add_comm 1 i]
  rfl

/-- A dump consists of one line for each frame. -/
theorem text_eq_join_lines {backend : Backend} (agree : backend.NamesAgree) :
    text backend trace indent = String.join (lines trace indent (shownName backend.lookup)) := by
  rw [text_eq_join_pieces, join_pieces agree, lines]

end Lines

/-- A dump into a text succeeds and appends one line for each frame, in order. The name on a line is
that of its own address. The frames are what the used slots hold, from the first one on. -/
theorem into_text_eq (name : String) (lookup : Address → Option Entry) (trace : Trace)
    (indent held : String) :
    into Sink.text held { name := name, lookup := lookup } trace indent =
        (held ++ String.join ((trace.frames.zipIdx 1).map fun (address, i) =>
          line trace.label indent i address (shownName lookup address)), true) ∧
      ∀ i : Nat, trace.frames[i]? = if i < trace.len then trace.slots[i]? else none := by
  refine ⟨?_, trace.getElem?_frames⟩
  rw [into, Sink.writeAll_text, join_pieces (Backend.default_namesAgree name lookup)]

end Dump

end Callstack
