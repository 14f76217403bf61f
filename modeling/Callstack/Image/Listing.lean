import Callstack.Failure
import Callstack.Image
import Callstack.Log
import Callstack.Text.Blank
import Callstack.Text.Hex
import Callstack.Text.Lines
import Callstack.Text.Numeral
import Callstack.Text.Utf8

/-!
# Listings of mappings

The system lists the mappings of a process one per line: the first address and the one behind the
last, the permissions, the offset in the file, the device, the inode and the path, with single
blanks between them. The path may contain blanks and has any number of them around it. A file that
was replaced has a mark behind its path, which does not count.

Lines of any other form are passed over.

## Main definitions

* `Mapping.parse?` — read one line
* `Image.ofMappings?` — the image that mappings make up
* `Image.ofListing?` — the image of a file, from a whole listing
* `Image.locate` — the same with the failures and the log record of a running process
-/

namespace Callstack

/-- A mapping of a file. -/
structure Mapping where
  /-- The mapped addresses. -/
  range : Extent
  /-- Where in the file the mapping begins. -/
  offset : Nat
  /-- The path of the file, without the mark of replaced files. -/
  path : List Char
  deriving DecidableEq, Repr

/-- The parts of a text before and after the first occurrence of a character. -/
def Text.cut? (separator : Char) : List Char → Option (List Char × List Char)
  | [] => none
  | c :: rest =>
    if c = separator then some ([], rest)
    else (cut? separator rest).map fun (before, after) => (c :: before, after)

namespace Mapping

/-- The mark behind the path of a replaced file. -/
def replacedMark : List Char := " (deleted)".toList

/-- A path without the mark of replaced files, which is removed once. -/
def withoutMark (path : List Char) : List Char :=
  if replacedMark.isSuffixOf path then path.take (path.length - replacedMark.length) else path

/-- A hexadecimal number that fits into a word. -/
def number? (text : List Char) : Option Nat := (Numeral.read 16 text).toOption

/-- The mapping on a line. -/
def parse? (line : List Char) : Option Mapping := do
  let (span, rest) ← Text.cut? ' ' line
  let (_permissions, rest) ← Text.cut? ' ' rest
  let (offset, rest) ← Text.cut? ' ' rest
  let (_device, rest) ← Text.cut? ' ' rest
  let (_inode, path) ← Text.cut? ' ' rest
  let (start, stop) ← Text.cut? '-' span
  return ⟨⟨← number? start, ← number? stop⟩, ← number? offset, withoutMark (Text.trim path)⟩

/-- The mappings of a listing. -/
def ofListing (listing : List Char) : List Mapping :=
  (Text.lines listing).filterMap parse?

end Mapping

namespace Image

/-- The image that mappings make up, unless there are none. The base is the lowest start among the
mappings of the file's beginning, or of all mappings if its beginning is not mapped. -/
def ofMappings? (mappings : List Mapping) : Option Image := do
  let starts := mappings.map fun mapping => mapping.range.start
  let start ← starts.min?
  let stop ← (mappings.map fun mapping => mapping.range.stop).max?
  let first := (mappings.filter fun mapping => mapping.offset == 0).map
    fun mapping => mapping.range.start
  return ⟨⟨start, stop⟩, first.min?.getD start⟩

/-- The image of the file with the given path. -/
def ofListing? (listing path : String) : Option Image :=
  ofMappings? <| (Mapping.ofListing listing.toList).filter fun mapping =>
    mapping.path == Mapping.withoutMark path.toList

/-- Where the record about a located image comes from. -/
def target : String := "framedump::symbolization::memory_maps"

/-- The log record about a located image. The size is counted in units of 1024 bytes and wraps
around at a word. -/
def record (image : Image) : Log.Record where
  level := .debug
  target := target
  text :=
    let shown (n : Nat) := String.ofList (Hex.marked n)
    let length := (image.range.stop + Numeral.wordLimit - image.range.start) % Numeral.wordLimit
    "Executable memory range: " ++ shown image.range.start ++ " - " ++ shown image.range.stop ++
      " (size: " ++ toString (length / 1024) ++ " KB), base " ++ shown image.base

/-- The image of the file with the given path, from the listing as it was read: bytes, which must
be text, or the fault that kept them from being read. -/
def locate (listing : Except AccessFault (List UInt8)) (path : String) : Except Failure Image :=
  match listing with
  | .error fault => .error (.memoryMapsUnavailable fault)
  | .ok bytes =>
    match Utf8.strict? bytes with
    | none => .error (.memoryMapsUnavailable (.other "stream did not contain valid UTF-8"))
    | some text =>
      match ofListing? text path with
      | some image => .ok image
      | none => .error (.executableNotMapped path)

end Image

end Callstack
