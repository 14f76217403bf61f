import Callstack.Debug.Attribute

/-!
# Units

Debug information is a sequence of units, one for each compiled source. The header of a unit says
how its entries are encoded and where the abbreviations are, which list the attributes that entries
have. The first entry describes the whole unit.

## Main definitions

* `Debug.Sections` — the sections with debug information
* `Debug.Abbreviation` — the shape of entries
* `Debug.UnitHeader`, `Debug.UnitHeader.readAll` — the headers of all units
* `Debug.CompileUnit`, `Debug.CompileUnit.root` — a unit with what its first entry says
-/

namespace Callstack.Debug

/-- The sections with debug information. -/
structure Sections where
  /-- The order of bytes. -/
  order : ByteOrder
  /-- The entries. -/
  info : List UInt8 := []
  /-- The abbreviations. -/
  abbreviations : List UInt8 := []
  /-- The texts. -/
  texts : List UInt8 := []
  /-- The texts for lines. -/
  lineTexts : List UInt8 := []
  /-- The table of texts. -/
  textTable : List UInt8 := []
  /-- The table of addresses. -/
  addressTable : List UInt8 := []
  /-- The ranges of units. -/
  unitRanges : List UInt8 := []
  /-- The lists of ranges, up to version 4. -/
  oldRanges : List UInt8 := []
  /-- The lists of ranges, from version 5 on. -/
  ranges : List UInt8 := []
  /-- The line programs. -/
  lines : List UInt8 := []

/-- The shape of an entry. -/
structure Abbreviation where
  /-- The code that refers to it. -/
  code : Nat
  /-- What the entry describes. -/
  tag : Nat
  /-- Whether the entries that follow are its parts. -/
  hasChildren : Bool
  /-- The attributes of the entry. -/
  specs : List Spec
  deriving DecidableEq, Repr

namespace Abbreviation

/-- The tag of functions. -/
def function : Nat := 0x2e

/-- The tag of inlined calls. -/
def inlinedCall : Nat := 0x1d

/-- The next attributes, up to the end mark. -/
def readSpecs : Nat → Reader (List Spec)
  | 0 => throw .endOfInput
  | fuel + 1 => do
    let name ← Reader.short
    let form ← Reader.short
    if name = 0 then
      if form = 0 then return []
      throw .abbreviation
    if form = 0 then throw .abbreviation
    let implicit ← if form = Form.implicit then some <$> Reader.signed else pure none
    return ⟨name, form, implicit⟩ :: (← readSpecs fuel)

/-- The next abbreviations, up to the end mark. Every code may be used once. -/
def readAll : Nat → List Abbreviation → Reader (List Abbreviation)
  | 0, _ => throw .endOfInput
  | fuel + 1, done => do
    let code ← Reader.unsigned
    if code = 0 then return done.reverse
    let tag ← Reader.short
    if tag = 0 then throw .abbreviation
    let children ← Reader.byte
    if 1 < children then throw .abbreviation
    let specs ← readSpecs ((← get).length + 1)
    if done.any fun other => other.code == code then throw .abbreviation
    readAll fuel (⟨code, tag, children == 1, specs⟩ :: done)

/-- The abbreviations at a position. -/
def table (sections : Sections) (position : Nat) : Except Fault (List Abbreviation) :=
  Reader.runAt sections.abbreviations position do
    readAll ((← get).length + 1) []

end Abbreviation

/-- What kind a unit is. -/
inductive UnitKind where
  /-- A compiled source. -/
  | compilation
  /-- A part that other units refer to. -/
  | part
  /-- A type. -/
  | type
  /-- A compiled source whose rest is in another file, or such a rest. -/
  | split
  deriving DecidableEq, Repr

/-- The header of a unit. -/
structure UnitHeader where
  /-- Where the unit is. -/
  position : Nat
  /-- How its entries are encoded. -/
  encoding : Encoding
  /-- What kind it is. -/
  kind : UnitKind
  /-- Where its abbreviations are. -/
  abbreviations : Nat
  /-- The size of the header. -/
  headerSize : Nat
  /-- Its entries. -/
  entries : List UInt8

namespace UnitHeader

/-- The kind that a number stands for, with the number of bytes that follow in the header. -/
def kind? (offsetSize : Nat) : Nat → Option (UnitKind × Nat)
  | 1 => some (.compilation, 0)
  | 2 => some (.type, 8 + offsetSize)
  | 3 => some (.part, 0)
  | 4 => some (.split, 8)
  | 5 => some (.split, 8)
  | 6 => some (.type, 8 + offsetSize)
  | _ => none

/-- The header of a unit from the bytes behind its length. -/
def readBody (order : ByteOrder) (position lengthSize offsetSize : Nat) : Reader UnitHeader := do
  let size := (← get).length
  let version ← Reader.number order 2
  let finish (encoding : Encoding) (kind : UnitKind) (abbreviations : Nat) : Reader UnitHeader := do
    let entries ← get
    return { position, encoding, kind, abbreviations,
             headerSize := lengthSize + (size - entries.length), entries }
  if 2 ≤ version ∧ version ≤ 4 then
    let abbreviations ← Reader.number order offsetSize
    let addressSize ← Reader.addressSize
    finish ⟨order, version, addressSize, offsetSize⟩ .compilation abbreviations
  else if version = 5 then
    let kind ← Reader.byte
    let addressSize ← Reader.addressSize
    let abbreviations ← Reader.number order offsetSize
    match kind? offsetSize kind with
    | none => throw .unitType
    | some (kind, more) =>
      Reader.skip more
      finish ⟨order, version, addressSize, offsetSize⟩ kind abbreviations
  else throw .unknownVersion

/-- The next header. The bytes of its unit are taken off. -/
def readNext (order : ByteOrder) (position : Nat) : Reader UnitHeader := do
  let (length, offsetSize) ← Reader.initialLength order
  let body ← Reader.bytes length
  Reader.runOn body (readBody order position (if offsetSize = 4 then 4 else 12) offsetSize)

end UnitHeader

/-- A unit with what its first entry says. -/
structure CompileUnit where
  /-- Its header. -/
  header : UnitHeader
  /-- The shapes of its entries. -/
  abbreviations : List Abbreviation
  /-- The attributes of its first entry. -/
  root : List Attribute
  /-- The address that ranges count from. -/
  lowAddress : Nat := 0
  /-- Where its texts begin in the table of texts. -/
  textsBase : Nat := 0
  /-- Where its addresses begin in the table of addresses. -/
  addressesBase : Nat := 0
  /-- Where its lists of ranges begin. -/
  rangesBase : Nat := 0
  /-- Whether its rest is in another file. -/
  isSplit : Bool := false

namespace CompileUnit

variable (sections : Sections) (unit : CompileUnit)

/-- How its entries are encoded. -/
def encoding : Encoding := unit.header.encoding

/-- The address with an index. -/
def addressAt (index : Nat) : Except Fault Nat :=
  Reader.runAt sections.addressTable (unit.addressesBase + index * unit.encoding.addressSize)
    (Reader.address unit.encoding)

/-- The address that a value holds, if it is one. -/
def address? : Value → Except Fault (Option Nat)
  | .address value => .ok (some value)
  | .addressIndex index => do return some (← unit.addressAt sections index)
  | _ => .ok none

/-- The text that a value holds. -/
def text : Value → Except Fault (List UInt8)
  | .text bytes => .ok bytes
  | .textAt position => Reader.runAt sections.texts position Reader.text
  | .lineTextAt position => Reader.runAt sections.lineTexts position Reader.text
  | .textIndex index => do
    let position ← Reader.runAt sections.textTable
      (unit.textsBase + index * unit.encoding.offsetSize) (Reader.offset unit.encoding)
    Reader.runAt sections.texts position Reader.text
  | _ => .error .notText

/-- Where the list of ranges is that a value refers to, if it refers to one. -/
def rangesPosition? : Value → Except Fault (Option Nat)
  | .position value => .ok (some value)
  | .rangesIndex index => do
    let position ← Reader.runAt sections.ranges
      (unit.rangesBase + index * unit.encoding.offsetSize) (Reader.offset unit.encoding)
    return some (unit.rangesBase + position)
  | _ => .ok none

/-- The last value of an attribute of the first entry. -/
def rootValue? (name : Nat) : Option Value :=
  (unit.root.reverse.find? fun entry => entry.name == name).map Attribute.value

/-- The next entry's abbreviation, or `none` for the mark that ends the parts of an entry. -/
def readCode : Reader (Option Abbreviation) := do
  let code ← Reader.unsigned
  if code = 0 then return none
  match unit.abbreviations.find? fun abbreviation => abbreviation.code == code with
  | some abbreviation => return some abbreviation
  | none => throw .abbreviation

/-- What follows from an attribute of the first entry for the whole unit. -/
def note (unit : CompileUnit) (item : Attribute) : CompileUnit :=
  match item.value.position? with
  | none =>
    if item.name = Attribute.splitIdentifier ∧ item.value.number?.isSome then
      { unit with isSplit := true }
    else unit
  | some position =>
    if item.name = Attribute.textsBase then { unit with textsBase := position }
    else if item.name = Attribute.addressesBase ∨
        item.name = Attribute.oldAddressesBase then { unit with addressesBase := position }
    else if item.name = Attribute.rangesBase ∨ item.name = Attribute.oldRangesBase then
      { unit with rangesBase := position }
    else unit

/-- A unit with the attributes of its first entry, without the address that ranges count from. -/
def ofHeader (header : UnitHeader) : Except Fault CompileUnit := do
  let abbreviations ← Abbreviation.table sections header.abbreviations
  let blank : CompileUnit :=
    { header, abbreviations, root := [], isSplit := header.kind == .split }
  let root ← Reader.runOn header.entries do
    match ← blank.readCode with
    | none => throw .missingEntry
    | some abbreviation => Spec.readAll header.encoding abbreviation.specs
  return root.foldl note { blank with root := root }

/-- The unit with the address that ranges count from. -/
def withLowAddress (unit : CompileUnit) : Except Fault CompileUnit := do
  match unit.rootValue? Attribute.lowAddress with
  | none => return unit
  | some value =>
    match ← unit.address? sections value with
    | some address => return { unit with lowAddress := address }
    | none => return unit

/-- The entries from a position in the unit on, which must be that of an entry. -/
def entriesFrom (position : Nat) : Except Fault (List UInt8) :=
  let index := position - unit.header.headerSize
  if unit.header.headerSize ≤ position ∧ index < unit.header.entries.length then
    .ok (unit.header.entries.drop index)
  else .error .missingEntry

end CompileUnit

end Callstack.Debug
