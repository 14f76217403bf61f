import Callstack.Debug.Unit
import Callstack.Image

/-!
# Ranges of addresses

Units, functions and inlined calls say which addresses belong to them: by a list of ranges, or by a
first address and either the one behind the last or a size. A separate section lists the ranges of
whole units.

Addresses at the very end of the address space mark code that was removed; ranges that begin there
do not count, and empty ones do not either.

## Main definitions

* `Debug.Bounds` — what attributes say about ranges
* `Debug.Bounds.extents` — the ranges
* `Debug.RangeSet` — the listed ranges of a unit
-/

namespace Callstack.Debug

/-- What attributes say about ranges. -/
structure Bounds where
  /-- The first address. -/
  low : Option Nat := none
  /-- The first address behind. -/
  high : Option Nat := none
  /-- The size. -/
  size : Option Nat := none
  /-- Where the list of ranges is. -/
  list : Option Nat := none

/-- The first address that marks removed code. -/
def Encoding.removedFrom (encoding : Encoding) : Nat := encoding.addressLimit - 2

/-- An entry of a list of ranges. -/
inductive RangeEntry where
  /-- The end of the list. -/
  | finish
  /-- The address that the following offsets count from. -/
  | base (address : Nat)
  /-- A range, by offsets. -/
  | offsets (start stop : Nat)
  /-- A range, by addresses. -/
  | addresses (start stop : Nat)

namespace RangeEntry

variable (sections : Sections) (unit : CompileUnit)

/-- The next entry, up to version 4. -/
def readOld : Reader RangeEntry := do
  let encoding := unit.encoding
  let start ← Reader.address encoding
  let stop ← Reader.address encoding
  if start = 0 ∧ stop = 0 then return .finish
  if start = encoding.addressLimit - 1 then return .base stop
  return .offsets start stop

/-- The next entry, from version 5 on. -/
def read : Reader RangeEntry := do
  let encoding := unit.encoding
  match ← Reader.byte with
  | 0 => return .finish
  | 1 => return .base (← unit.addressAt sections (← Reader.unsigned))
  | 2 =>
    let start ← Reader.unsigned
    let stop ← Reader.unsigned
    return .addresses (← unit.addressAt sections start) (← unit.addressAt sections stop)
  | 3 =>
    let start ← Reader.unsigned
    let size ← Reader.unsigned
    let start ← unit.addressAt sections start
    return .addresses start (encoding.wrap (start + size))
  | 4 =>
    let start ← Reader.unsigned
    let stop ← Reader.unsigned
    return .offsets start stop
  | 5 => return .base (← Reader.address encoding)
  | 6 =>
    let start ← Reader.address encoding
    let stop ← Reader.address encoding
    return .addresses start stop
  | 7 =>
    let start ← Reader.address encoding
    let size ← Reader.unsigned
    return .addresses start (encoding.wrap (start + size))
  | _ => throw .rangeEntry

/-- A range, unless it is empty or marks removed code. -/
def extent? (start stop : Nat) : Option Extent :=
  if start < unit.encoding.removedFrom ∧ start < stop then some ⟨start, stop⟩ else none

/-- The ranges of a list whose offsets count from `origin`. -/
def readList : Nat → Nat → Reader (List Extent)
  | 0, _ => return []
  | fuel + 1, origin => do
    if ← Reader.isAtEnd then return []
    match ← if unit.encoding.version ≤ 4 then readOld unit else read sections unit with
    | .finish => return []
    | .base address => readList fuel address
    | .offsets start stop =>
      let encoding := unit.encoding
      let extent :=
        if origin < encoding.removedFrom then
          extent? unit (encoding.wrap (origin + start)) (encoding.wrap (origin + stop))
        else none
      return extent.toList ++ (← readList fuel origin)
    | .addresses start stop => return (extent? unit start stop).toList ++ (← readList fuel origin)

end RangeEntry

namespace Bounds

variable (sections : Sections) (unit : CompileUnit)

/-- What one more attribute says. -/
def note (bounds : Bounds) (item : Attribute) : Except Fault Bounds := do
  if item.name = Attribute.lowAddress then
    match ← unit.address? sections item.value with
    | some address => return { bounds with low := some address }
    | none => return bounds
  else if item.name = Attribute.highAddress then
    match item.value.number? with
    | some size => return { bounds with size := some size }
    | none =>
      match ← unit.address? sections item.value with
      | some address => return { bounds with high := some address }
      | none => return bounds
  else if item.name = Attribute.ranges then
    return { bounds with list := ← unit.rangesPosition? sections item.value }
  else return bounds

/-- What attributes say. -/
def ofAttributes (items : List Attribute) : Except Fault Bounds :=
  items.foldlM (note sections unit) {}

/-- The ranges. Empty ones are left out. A size may reach around the end of the address space, and
then the range is empty. -/
def extents (bounds : Bounds) : Except Fault (List Extent) := do
  match bounds.list with
  | some position =>
    let lists := if unit.encoding.version ≤ 4 then sections.oldRanges else sections.ranges
    Reader.runAt lists position do
      RangeEntry.readList sections unit ((← get).length + 1) unit.lowAddress
  | none =>
    let extent? : Option Extent := match bounds with
      | { low := some start, high := some stop, .. } => some ⟨start, stop⟩
      | { low := some start, size := some size, .. } => some ⟨start, (start + size) % modulus⟩
      | _ => none
    return (extent?.filter fun extent => extent.start < extent.stop).toList

end Bounds

/-- The listed ranges of a unit. -/
structure RangeSet where
  /-- Where the unit is. -/
  unit : Nat
  /-- The ranges. -/
  ranges : List Extent

namespace RangeSet

/-- Ranges, each by its first address and its size. Those that are empty or mark removed code are
left out. Reading ends at one that reaches beyond the address space. -/
def readRanges (encoding : Encoding) : Nat → Reader (List Extent)
  | 0 => return []
  | fuel + 1 => do
    if (← get).length < 2 * encoding.addressSize then return []
    let start ← Reader.address encoding
    let size ← Reader.address encoding
    if encoding.removedFrom ≤ start then readRanges encoding fuel
    else if encoding.addressLimit ≤ start + size then return []
    else
      let rest ← readRanges encoding fuel
      return if size = 0 then rest else ⟨start, start + size⟩ :: rest

/-- The next set. Its ranges begin at a multiple of their size. The version of sets is 2, and some
compilers write 3. -/
def readNext (order : ByteOrder) : Reader RangeSet := do
  let (length, offsetSize) ← Reader.initialLength order
  let body ← Reader.bytes length
  Reader.runOn body do
    let version ← Reader.number order 2
    if version ≠ 2 ∧ version ≠ 3 then throw .unknownVersion
    let unit ← Reader.number order offsetSize
    let addressSize ← Reader.addressSize
    if (← Reader.byte) ≠ 0 then throw .segmentSize
    let headerSize := (if offsetSize = 4 then 4 else 12) + 2 + offsetSize + 2
    let entrySize := 2 * addressSize
    Reader.skip ((entrySize - headerSize % entrySize) % entrySize)
    return ⟨unit, ← readRanges ⟨order, 2, addressSize, offsetSize⟩ ((← get).length + 1)⟩

/-- All sets, in the order of the section. -/
def readAll (order : ByteOrder) : Nat → Reader (List RangeSet)
  | 0 => return []
  | fuel + 1 => do
    if ← Reader.isAtEnd then return []
    let set ← readNext order
    return set :: (← readAll order fuel)

/-- The sets of a section. -/
def ofSection (sections : Sections) : Except Fault (List RangeSet) :=
  Reader.runOn sections.unitRanges do
    readAll sections.order ((← get).length + 1)

end RangeSet

end Callstack.Debug
