import Callstack.Bytes

/-!
# The header of an object file

An object file begins with a mark, the width of its words and the order of its bytes. Its header
says where the tables of segments and sections are. The counts of the tables may be too large for
the header, and then the first section holds them.

## Main definitions

* `Elf.Fault` — what can be wrong with an object file
* `Elf.Header`, `Elf.Header.read` — the header
* `Elf.Segment`, `Elf.Header.segments` — the parts that are loaded
* `Elf.Section`, `Elf.Header.sections` — the table of sections
-/

namespace Callstack.Elf

/-- What can be wrong with an object file. -/
inductive Fault where
  | magicUnreadable
  | magicUnknown
  | executableUnknown
  | formatUnsupported
  | headerSize
  | headerUnsupported
  | segmentEntrySize
  | segmentTable
  | segmentCountMissing
  | sectionEntrySize
  | firstSection
  | sectionTable
  | namesIndexMissing
  | namesIndexOverflow
  | namesIndex
  | namesSize
  | symbolTable
  | symbolSections
  | sectionIndex
  | stringsType
  | stringsRange
  | relocationTarget
  | relocationNested
  deriving DecidableEq, Repr

/-- The wording of a fault. -/
def Fault.message : Fault → String
  | magicUnreadable => "Could not read file magic"
  | magicUnknown => "Unknown file magic"
  | executableUnknown => "Unknown MS-DOS file"
  | formatUnsupported => "Unsupported file format"
  | headerSize => "Invalid ELF header size or alignment"
  | headerUnsupported => "Unsupported ELF header"
  | segmentEntrySize => "Invalid ELF program header entry size"
  | segmentTable => "Invalid ELF program header size or alignment"
  | segmentCountMissing => "Missing ELF section headers for e_phnum overflow"
  | sectionEntrySize => "Invalid ELF section header entry size"
  | firstSection => "Invalid ELF section header offset or size"
  | sectionTable => "Invalid ELF section header offset/size/alignment"
  | namesIndexMissing => "Missing ELF e_shstrndx"
  | namesIndexOverflow => "Missing ELF section headers for e_shstrndx overflow"
  | namesIndex => "Invalid ELF e_shstrndx"
  | namesSize => "Invalid ELF shstrtab size"
  | symbolTable => "Invalid ELF symbol table data"
  | symbolSections => "Invalid ELF symtab_shndx data"
  | sectionIndex => "Invalid ELF section index"
  | stringsType => "Invalid ELF string section type"
  | stringsRange => "Invalid ELF string section offset or size"
  | relocationTarget => "Invalid ELF sh_info for relocation section"
  | relocationNested => "Unsupported ELF sh_info for relocation section"

/-- How wide the words of a file are. -/
inductive Width where
  | narrow
  | wide
  deriving DecidableEq, Repr

/-- How many bytes a word has. -/
def Width.bytes : Width → Nat
  | .narrow => 4
  | .wide => 8

/-- The first byte position that a word cannot hold, counted in the widest words. -/
def positionLimit : Nat := 1 <<< 64

/-- The header of an object file. -/
structure Header where
  /-- The width of words. -/
  width : Width
  /-- The order of bytes. -/
  order : ByteOrder
  /-- Where the table of segments is, or zero. -/
  segmentOffset : Nat
  /-- Where the table of sections is, or zero. -/
  sectionOffset : Nat
  /-- The size of an entry in the table of segments. -/
  segmentEntrySize : Nat
  /-- How many segments there are, unless the count is too large. -/
  segmentCount : Nat
  /-- The size of an entry in the table of sections. -/
  sectionEntrySize : Nat
  /-- How many sections there are, unless the count is too large. -/
  sectionCount : Nat
  /-- The section with the names of sections, unless the index is too large. -/
  namesIndex : Nat
  deriving DecidableEq, Repr

/-- A part of the file that is loaded into memory. -/
structure Segment where
  /-- Its address. -/
  address : Nat
  /-- Where it is in the file. -/
  offset : Nat
  /-- How many bytes it has in the file. -/
  size : Nat
  deriving DecidableEq, Repr

/-- A section. -/
structure Section where
  /-- Where its name is in the names of sections. -/
  name : Nat
  /-- Its kind. -/
  type : Nat
  /-- Its properties. -/
  flags : Nat
  /-- Where it is in the file. -/
  offset : Nat
  /-- How many bytes it has. -/
  size : Nat
  /-- The section that it refers to. -/
  link : Nat
  /-- A further number, which depends on the kind. -/
  info : Nat
  deriving DecidableEq, Repr

/-- The kind of sections without bytes in the file. -/
def Section.typeWithoutBytes : Nat := 8

/-- Where the bytes of a section are in the file, if it has any. -/
def Section.fileRange? (entry : Section) : Option (Nat × Nat) :=
  if entry.type = Section.typeWithoutBytes then none else some (entry.offset, entry.size)

/-- The bytes of a section, which must all be in the file. -/
def Section.data? (entry : Section) (file : List UInt8) : Option (List UInt8) :=
  match entry.fileRange? with
  | some (offset, size) => Bytes.slice? offset size file
  | none => some []

/-- The width of words that the beginning of a file announces. -/
def widthOf (file : List UInt8) : Except Fault Width :=
  match Bytes.take? 16 file with
  | none => .error .magicUnreadable
  | some (magic, _) =>
    match magic with
    | 0x7f :: 0x45 :: 0x4c :: 0x46 :: 1 :: _ => .ok .narrow
    | 0x7f :: 0x45 :: 0x4c :: 0x46 :: 2 :: _ => .ok .wide
    | 0x21 :: 0x3c :: 0x61 :: 0x72 :: 0x63 :: 0x68 :: 0x3e :: 0x0a :: _ => .error .formatUnsupported
    | 0x21 :: 0x3c :: 0x74 :: 0x68 :: 0x69 :: 0x6e :: 0x3e :: 0x0a :: _ => .error .formatUnsupported
    | 0x4d :: 0x5a :: _ => .error .executableUnknown
    | _ => .error .magicUnknown

namespace Header

/-- The order of bytes, if the mark of the file has a known one and a known version. -/
def order? : List UInt8 → Option ByteOrder
  | [_, _, _, _, _, 1, 1] => some .little
  | [_, _, _, _, _, 2, 1] => some .big
  | _ => none

/-- The header of a file. -/
def read (file : List UInt8) : Except Fault Header := do
  let width ← widthOf file
  let w := width.bytes
  let sizes := [2, 2, 4, w, w, w, 4, 2, 2, 2, 2, 2, 2]
  match Bytes.slice? 0 (16 + Bytes.total sizes) file with
  | none => throw .headerSize
  | some header =>
    match order? (header.take 7) with
    | none => throw .headerUnsupported
    | some order =>
      match Bytes.fields? order sizes (header.drop 16) with
      | some ([_, _, _, _, segmentOffset, sectionOffset, _, _, segmentEntrySize, segmentCount,
          sectionEntrySize, sectionCount, namesIndex], _) =>
        return { width, order, segmentOffset, sectionOffset, segmentEntrySize, segmentCount,
                 sectionEntrySize, sectionCount, namesIndex }
      | _ => throw .headerSize

variable (header : Header)

/-- The sizes of the fields of a section's entry. -/
def sectionFields : List Nat :=
  let w := header.width.bytes
  [4, 4, w, w, w, w, 4, 4, w, w]

/-- The section that an entry describes, and what follows. -/
def section? (bytes : List UInt8) : Option (Section × List UInt8) :=
  match Bytes.fields? header.order header.sectionFields bytes with
  | some ([name, type, flags, _, offset, size, link, info, _, _], rest) =>
    some (⟨name, type, flags, offset, size, link, info⟩, rest)
  | _ => none

/-- The segment that an entry describes, with its kind, and what follows. -/
def segment? (bytes : List UInt8) : Option ((Nat × Segment) × List UInt8) :=
  match header.width with
  | .narrow =>
    match Bytes.fields? header.order [4, 4, 4, 4, 4, 4, 4, 4] bytes with
    | some ([type, offset, address, _, size, _, _, _], rest) =>
      some ((type, ⟨address, offset, size⟩), rest)
    | _ => none
  | .wide =>
    match Bytes.fields? header.order [4, 4, 8, 8, 8, 8, 8, 8] bytes with
    | some ([type, _, offset, address, _, size, _, _], rest) =>
      some ((type, ⟨address, offset, size⟩), rest)
    | _ => none

/-- The size that an entry of the table of segments must have. -/
def expectedSegmentSize : Nat :=
  match header.width with
  | .narrow => 32
  | .wide => 56

/-- The entries of a table, if all of them are there. -/
def table? {α : Type} (item? : List UInt8 → Option (α × List UInt8)) :
    Nat → List UInt8 → Option (List α)
  | 0, _ => some []
  | count + 1, bytes => do
    let (entry, bytes) ← item? bytes
    return entry :: (← table? item? count bytes)

/-- The first section, which must exist unless there is no table. -/
def firstSection (file : List UInt8) : Except Fault (Option Section) :=
  if header.sectionOffset = 0 then .ok none
  else if header.sectionEntrySize ≠ Bytes.total header.sectionFields then .error .sectionEntrySize
  else
    match (Bytes.skip? header.sectionOffset file).bind header.section? with
    | some (entry, _) => .ok (some entry)
    | none => .error .firstSection

/-- The segments that are loaded, in the order of their table. -/
def segments (file : List UInt8) : Except Fault (List Segment) := do
  if header.segmentOffset = 0 then return []
  let count ←
    if header.segmentCount < 0xffff then pure header.segmentCount
    else
      match ← header.firstSection file with
      | some entry => pure entry.info
      | none => throw .segmentCountMissing
  if count = 0 then return []
  if header.segmentEntrySize ≠ header.expectedSegmentSize then throw .segmentEntrySize
  match (Bytes.skip? header.segmentOffset file).bind (table? header.segment? count) with
  | some entries => return (entries.filter fun entry => entry.1 == 1).map Prod.snd
  | none => throw .segmentTable

/-- The sections, in the order of their table. -/
def sections (file : List UInt8) : Except Fault (List Section) := do
  if header.sectionOffset = 0 then return []
  let count ←
    if 0 < header.sectionCount then pure header.sectionCount
    else
      match ← header.firstSection file with
      | some entry => pure entry.size
      | none => pure 0
  if count = 0 then return []
  if header.sectionEntrySize ≠ Bytes.total header.sectionFields then throw .sectionEntrySize
  match (Bytes.skip? header.sectionOffset file).bind (table? header.section? count) with
  | some entries => return entries
  | none => throw .sectionTable

/-- The index of the section with the names of sections. -/
def namesSection (file : List UInt8) : Except Fault Nat := do
  let index ←
    if header.namesIndex ≠ 0xffff then pure header.namesIndex
    else
      match ← header.firstSection file with
      | some entry => pure entry.link
      | none => throw .namesIndexOverflow
  if index = 0 then throw .namesIndexMissing
  return index

end Header

end Callstack.Elf
