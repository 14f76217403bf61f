import Callstack.Elf.Symbol
import Callstack.Inflate

/-!
# Object files

What is read from an object file: its segments, its sections with their names, and its two symbol
tables. The bytes of a section are found by its name; they may be compressed.

## Main definitions

* `Elf.File`, `Elf.File.read` — an object file
* `Elf.File.contents` — the bytes of a section
* `Elf.File.symbolMap` — the names by address
-/

namespace Callstack.Elf

/-- The kinds of sections that matter here. -/
def Section.typeSymbols : Nat := 2

/-- The kind of sections with strings. -/
def Section.typeStrings : Nat := 3

/-- The kind of sections with relocations that have an addend. -/
def Section.typeAddendRelocations : Nat := 4

/-- The kind of sections with relocations. -/
def Section.typeRelocations : Nat := 9

/-- The kind of sections with the symbols for dynamic linking. -/
def Section.typeDynamicSymbols : Nat := 11

/-- The kind of sections with the section indices of symbols. -/
def Section.typeSymbolSections : Nat := 18

/-- Whether a section is compressed behind a header of its own. -/
def Section.isCompressed (entry : Section) : Bool := entry.flags.testBit 11

/-- Whether a section holds relocations. -/
def Section.isRelocation (entry : Section) : Bool :=
  entry.type == Section.typeRelocations || entry.type == Section.typeAddendRelocations

/-- An object file. -/
structure File where
  /-- All its bytes. -/
  bytes : List UInt8
  /-- Its header. -/
  header : Header
  /-- The segments that are loaded. -/
  segments : List Segment
  /-- Its sections. -/
  sections : List Section
  /-- The names of its sections. -/
  names : Strings
  /-- Its symbols. -/
  symbols : SymbolTable
  /-- Its symbols for dynamic linking. -/
  dynamicSymbols : SymbolTable

/-- The strings in a range of a file, which must end at a position that fits into a word. -/
def Strings.ofRange? (file : List UInt8) (offset size : Nat) : Option Strings :=
  if offset + size < positionLimit then some ⟨Bytes.slice? offset size file⟩ else none

/-- The names of sections. -/
def Strings.ofSections (file : List UInt8) (header : Header) (sections : List Section) :
    Except Fault Strings := do
  if sections.isEmpty then return {}
  match sections[← header.namesSection file]? with
  | none => throw .namesIndex
  | some entry =>
    match entry.fileRange? with
    | none => return {}
    | some (offset, size) =>
      match Strings.ofRange? file offset size with
      | some strings => return strings
      | none => throw .namesSize

/-- The strings in the section with an index. Index zero stands for no strings. -/
def Strings.ofSection (file : List UInt8) (sections : List Section) (index : Nat) :
    Except Fault Strings :=
  if index = 0 then .ok {}
  else
    match sections[index]? with
    | none => .error .sectionIndex
    | some entry =>
      if entry.type ≠ Section.typeStrings then .error .stringsType
      else
        match Strings.ofRange? file entry.offset entry.size with
        | some strings => .ok strings
        | none => .error .stringsRange

/-- The entries that bytes consist of, `none` if some bytes are left over. -/
def entries? {α : Type} (order : ByteOrder) (sizes : List Nat) (item? : List Nat → Option α) :
    Nat → List UInt8 → Option (List α)
  | 0, bytes => if bytes.isEmpty then some [] else none
  | fuel + 1, bytes =>
    if bytes.isEmpty then some []
    else do
      let (values, rest) ← Bytes.fields? order sizes bytes
      return (← item? values) :: (← entries? order sizes item? fuel rest)

/-- The symbol table in the first section of a kind. -/
def SymbolTable.read (file : List UInt8) (header : Header) (sections : List Section) (type : Nat) :
    Except Fault SymbolTable := do
  match sections.zipIdx.find? fun (entry, _) => entry.type == type with
  | none => return {}
  | some (entry, index) =>
    let symbols? := do
      let data ← entry.data? file
      entries? header.order (Symbol.fields header.width) (Symbol.ofFields header.width)
        data.length data
    match symbols? with
    | none => throw .symbolTable
    | some symbols =>
      let names ← Strings.ofSection file sections entry.link
      let elsewhere := sections.filter fun other =>
        other.type == Section.typeSymbolSections && other.link == index
      if elsewhere.all fun other => (other.data? file).any fun data => data.length % 4 == 0 then
        return ⟨index, symbols, names⟩
      else throw .symbolSections

/-- The fault of the last section of relocations that has one. Only those that refer to the given
symbols and apply to some section are looked at. -/
def relocationFault? (sections : List Section) (symbolSection : Nat) : Option Fault :=
  sections.reverse.findSome? fun entry =>
    if entry.isRelocation && entry.link == symbolSection && entry.info != 0 then
      match sections[entry.info]? with
      | none => some .relocationTarget
      | some target => if target.isRelocation then some .relocationNested else none
    else none

namespace File

/-- Read an object file. -/
def read (bytes : List UInt8) : Except Fault File := do
  let header ← Header.read bytes
  let segments ← header.segments bytes
  let sections ← header.sections bytes
  let names ← Strings.ofSections bytes header sections
  let symbols ← SymbolTable.read bytes header sections Section.typeSymbols
  let dynamicSymbols ← SymbolTable.read bytes header sections Section.typeDynamicSymbols
  match relocationFault? sections symbols.sectionIndex with
  | some fault => throw fault
  | none => return { bytes, header, segments, sections, names, symbols, dynamicSymbols }

variable (file : File)

/-- The names by address: those of the symbol table, or of that for dynamic linking if the former
has no entries. -/
def symbolMap : SymbolMap :=
  .ofTable (if file.symbols.symbols.isEmpty then file.dynamicSymbols else file.symbols)

/-- The first section with a name. -/
def section? (name : List UInt8) : Option Section :=
  file.sections.find? fun entry => file.names.get? entry.name == some name

/-- Data that must have the announced size. -/
def inflated? (size : Nat) (compressed : List UInt8) : Option (List UInt8) :=
  (Inflate.zlib? size compressed).filter fun data => data.length == size

/-- The data of a section that is compressed behind a header of its own. -/
def compressed? (entry : Section) : Option (List UInt8) := do
  let (offset, size) ← entry.fileRange?
  let sizes := match file.header.width with
    | .narrow => [4, 4, 4]
    | .wide => [4, 4, 8, 8]
  let (values, _) ← Bytes.fields? file.header.order sizes (← Bytes.skip? offset file.bytes)
  let (type, announced) ← match file.header.width, values with
    | .narrow, [type, announced, _] => some (type, announced)
    | .wide, [type, _, announced, _] => some (type, announced)
    | _, _ => none
  if size < Bytes.total sizes ∨ type ≠ 1 then none
  else
    let stream ← Bytes.slice? (offset + Bytes.total sizes) (size - Bytes.total sizes) file.bytes
    inflated? announced stream

/-- The mark of a section that is compressed in the old way. -/
def oldMark : List UInt8 := [0x5a, 0x4c, 0x49, 0x42, 0, 0, 0, 0]

/-- The data of a section that is compressed in the old way: a mark, the size, and the stream. -/
def oldCompressed? (entry : Section) : Option (List UInt8) := do
  let (offset, size) ← entry.fileRange?
  let (mark, rest) ← Bytes.take? 8 (← Bytes.skip? offset file.bytes)
  let (announced, _) ← Bytes.take? 4 rest
  if mark ≠ oldMark ∨ size < 12 then none
  else
    let stream ← Bytes.slice? (offset + 12) (size - 12) file.bytes
    inflated? (Bytes.number .big announced) stream

/-- The bytes of the section that is called `.` and then the name. A section that is compressed in
the old way has a `z` in front of its name and stands in for a missing one. If the bytes cannot be
read there are none. -/
def contents (name : String) : List UInt8 :=
  match file.section? ("." ++ name).toUTF8.toList with
  | some entry =>
    (if entry.isCompressed then file.compressed? entry else entry.data? file.bytes).getD []
  | none =>
    match file.section? (".z" ++ name).toUTF8.toList with
    | some entry =>
      (if entry.isCompressed then file.compressed? entry else file.oldCompressed? entry).getD []
    | none => []

end File

end Callstack.Elf
