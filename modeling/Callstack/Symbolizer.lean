import Callstack.Backend
import Callstack.Debug.Index
import Callstack.Elf.File
import Callstack.Failure
import Callstack.Image
import Callstack.Log
import Callstack.Text.Hex

/-!
# Names from the executable's own debug information

A symbolizer knows an executable file and where it is mapped. The address of the running code less
the load bias is an address of the file. It is looked up in the debug information first and then in
the symbol table.

The debug information is behind a lock, since looking something up in it is not reentrant. A lookup
that finds the lock taken makes do with the symbol table. A lock whose holder has failed is as good
as a free one.

## Main definitions

* `loadBias` — the difference between the addresses of the process and those of the file
* `Symbolizer`, `Symbolizer.load` — an executable that is mapped
* `Symbolizer.rawName?` — the linker's name of an address
* `Symbolizer.backend` — the symbolizer as a backend
-/

namespace Callstack

/-- The state of the lock on the debug information. -/
inductive Lock where
  /-- Nobody has it. -/
  | free
  /-- Somebody has it. -/
  | held
  /-- Nobody has it, but the last one that had it failed. -/
  | poisoned
  deriving DecidableEq, Repr

/-- Whether a lock can be taken. -/
def Lock.isOpen (lock : Lock) : Bool := lock != .held

/-- The size of a page of memory. -/
def pageSize : Nat := 4096

/-- The beginning of the page that an address is in. -/
def pageStart (address : Nat) : Nat := address - address % pageSize

/-- The address that the beginning of a file is linked to: that of the first segment at the file's
beginning, else the lowest one of all segments. -/
def linkedBase (segments : List Elf.Segment) : Nat :=
  match segments.find? fun segment => segment.offset == 0 with
  | some segment => segment.address
  | none => ((segments.map Elf.Segment.address).min?).getD 0

/-- The difference between the addresses of the process and those of the file, when the file's
beginning is mapped at `base`. It is zero if the file is linked to a higher address. -/
def loadBias (segments : List Elf.Segment) (base : Nat) : Nat :=
  base - pageStart (linkedBase segments)

/-- An executable that is mapped, with what is known about its addresses. -/
structure Symbolizer where
  /-- Where it is mapped. -/
  image : Image
  /-- The difference between the addresses of the process and those of the file. -/
  bias : Nat
  /-- What its debug information says about an address of the file. -/
  debugInfo : Nat → Debug.Answer
  /-- The name in its symbol table for an address of the file. -/
  table : Nat → Option String

namespace Symbolizer

variable (symbolizer : Symbolizer)

/-- The address of the file for an address of the process, if that lies in the image and not below
the bias. -/
def fileAddress? (address : Address) : Option Nat :=
  if symbolizer.image.range.contains address.toNat then
    if symbolizer.bias ≤ address.toNat then some (address.toNat - symbolizer.bias) else none
  else none

/-- A name, unless it is empty. -/
def named? (name : String) : Option String :=
  if name.isEmpty then none else some name

/-- The name that the debug information gives: that of the outermost function, or of the outermost
inlined call if the function has none. -/
def preciseName? (answer : Debug.Answer) : Option String :=
  match answer with
  | .failed => none
  | .frames names _ => ((names.filterMap id).getLast?.map Utf8.lossy).bind named?

/-- The linker's name of an address, given the state of the lock. -/
def rawName? (lock : Lock) (address : Address) : Option String := do
  let probe ← symbolizer.fileAddress? address
  let precise := if lock.isOpen then preciseName? (symbolizer.debugInfo probe) else none
  match precise with
  | some name => some name
  | none => (symbolizer.table probe).bind named?

/-- Append the name of an address to a text. -/
def writeName (lock : Lock) (address : Address) : NameWriter := fun text =>
  match symbolizer.rawName? lock address with
  | some name => (true, Mangling.writeReadable name text)
  | none => (false, text)

/-- The symbolizer as a backend. A batch of addresses is named under one state of the lock. -/
def backend (lock : Lock) : Backend where
  name := "debuginfo"
  lookup address := (symbolizer.rawName? lock address).map Entry.ofLinkerName
  resolveInto := symbolizer.writeName lock
  resolveAll addresses := Names.ofWriters (addresses.map (symbolizer.writeName lock))

/-- The sections of a file with debug information. -/
def sections (file : Elf.File) : Debug.Sections where
  order := file.header.order
  info := file.contents "debug_info"
  abbreviations := file.contents "debug_abbrev"
  texts := file.contents "debug_str"
  lineTexts := file.contents "debug_line_str"
  textTable := file.contents "debug_str_offsets"
  addressTable := file.contents "debug_addr"
  unitRanges := file.contents "debug_aranges"
  oldRanges := file.contents "debug_ranges"
  ranges := file.contents "debug_rnglists"
  lines := file.contents "debug_line"

/-- Where the record about a loaded file comes from. -/
def target : String := "framedump::symbolization::symbolizer"

/-- A symbolizer together with the record about loading it. -/
structure Loaded where
  /-- The symbolizer. -/
  symbolizer : Symbolizer
  /-- What is logged about it. -/
  record : Log.Record

/-- Load the file at a path, which is mapped as `image`, from its bytes or the fault that kept them
from being read. -/
def load (path : String) (bytes : Except AccessFault (List UInt8)) (image : Image) :
    Except Failure Loaded :=
  match bytes with
  | .error fault => .error (.readFailed path fault)
  | .ok bytes =>
    match Elf.File.read bytes with
    | .error fault => .error (.parseFailed path fault.message)
    | .ok file =>
      match Debug.Index.load (sections file) with
      | .error fault => .error (.debugInfoLoadFailed fault.message)
      | .ok index =>
        let symbols := file.symbolMap
        let bias := loadBias file.segments image.base
        let text := "Loaded debug info for " ++ path ++ ": " ++ toString symbols.size ++
          " symbols, load bias " ++ String.ofList (Hex.marked bias)
        .ok ⟨⟨image, bias, index.framesAt, symbols.get?⟩, ⟨.debug, target, text⟩⟩

end Symbolizer

end Callstack
