import Callstack.Text.Utf8

/-!
# Names of a batch

The names of several addresses share one text. For every address there is the byte range of its
name in that text, or nothing if it has no name. A name is added by a writer that sees the text so
far and returns it with something appended, and whether it knew a name.

## Main definitions

* `Names.recordBy` — add the next name, with any way to cut a text back
* `Names.record` — add the next name
* `Names.get?` — the name at an index
* `Names.ofWriters` — the names of a list of writers
-/

namespace Callstack

/-- Append something to a text, and say whether it is a name. -/
abbrev NameWriter := String → Bool × String

/-- The names of a batch of addresses. -/
structure Names where
  /-- The names one after the other. -/
  text : String
  /-- For every address the byte range of its name. -/
  spans : Array (Option (Nat × Nat))
  deriving DecidableEq, Repr

namespace Names

/-- No names yet. -/
def empty : Names := ⟨"", #[]⟩

variable (names : Names)

/-- Add the next name. If the writer knows none or writes nothing, the text is cut back to where it
began. How a text is cut back to a number of bytes is left open. -/
def recordBy {m : Type → Type} [Monad m] (cutBack : Nat → List Char → m (List Char))
    (write : NameWriter) : m Names := do
  let start := Utf8.size names.text.toList
  let (isKnown, text) := write names.text
  let stop := Utf8.size text.toList
  if isKnown && start < stop then
    return ⟨text, names.spans.push (some (start, stop))⟩
  else
    let kept ← cutBack start text.toList
    return ⟨String.ofList kept, names.spans.push none⟩

/-- Add the next name. A text is cut back to the longest beginning of whole characters that fits. -/
def record (write : NameWriter) : Names :=
  Id.run (names.recordBy (fun start text => pure (Utf8.fit start text)) write)

/-- The name at an index, if there is one and its range still is a part of the text. -/
def get? (index : Nat) : Option String := do
  let (start, stop) ← (← names.spans[index]?)
  return String.ofList (← Utf8.slice? start stop names.text.toList)

/-- How many addresses have been recorded, with or without name. -/
def size : Nat := names.spans.size

/-- Whether no address has been recorded. -/
def isEmpty : Bool := names.size == 0

/-- The names in order, `none` where there is none. -/
def toList : List (Option String) := (List.range names.size).map names.get?

/-- The names of a list, each added by its own writer. -/
def ofWriters (writers : List NameWriter) : Names := writers.foldl record empty

/-- Addresses without names. -/
def unknown (count : Nat) : Names := ⟨"", Array.replicate count none⟩

@[simp] theorem size_record (write : NameWriter) : (names.record write).size = names.size + 1 := by
  unfold record recordBy size
  dsimp only
  split
  · exact Array.size_push _
  · exact Array.size_push _

end Names

end Callstack
