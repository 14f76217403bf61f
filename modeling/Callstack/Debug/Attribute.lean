import Callstack.Debug.Cursor

/-!
# Attributes of entries

An entry of the debug information has attributes. The form of an attribute says how its value is
written and, as far as it matters here, what the value means.

## Main definitions

* `Debug.Value` — what attributes hold
* `Debug.Form` — how they are written
* `Debug.Spec`, `Debug.Spec.read`, `Debug.Spec.skip` — the attributes of an abbreviation
-/

namespace Callstack.Debug

/-- The value of an attribute. -/
inductive Value where
  /-- An address. -/
  | address (value : Nat)
  /-- The index of an address in the table of addresses. -/
  | addressIndex (index : Nat)
  /-- A number. -/
  | constant (value : Nat)
  /-- A number with a sign. -/
  | signed (value : Int)
  /-- A position in another section. -/
  | position (value : Nat)
  /-- An entry of the same unit, by its position in the unit. -/
  | unitEntry (position : Nat)
  /-- An entry, by its position in the section. -/
  | entry (position : Nat)
  /-- A text. -/
  | text (bytes : List UInt8)
  /-- A text, by its position in the section of texts. -/
  | textAt (position : Nat)
  /-- A text, by its position in the section of texts for lines. -/
  | lineTextAt (position : Nat)
  /-- A text, by its index in the table of texts. -/
  | textIndex (index : Nat)
  /-- A list of ranges, by its index. -/
  | rangesIndex (index : Nat)
  /-- Any other value. -/
  | other
  deriving DecidableEq, Repr

namespace Value

/-- The number that a value holds, if it is one without sign. -/
def number? : Value → Option Nat
  | constant value => some value
  | signed value => if 0 ≤ value then some value.toNat else none
  | _ => none

/-- The position that a value holds. -/
def position? : Value → Option Nat
  | position value => some value
  | _ => none

end Value

/-- How many bytes a value takes. -/
inductive Size where
  /-- So many. -/
  | fixed (bytes : Nat)
  /-- As many as an address. -/
  | address
  /-- As many as an offset. -/
  | offset
  /-- As many as an offset, but as an address in version 2. -/
  | reference
  /-- A number in groups of seven bits. -/
  | groups
  /-- A text with a zero byte at its end. -/
  | text
  /-- As many as a number of so many bytes in front of them says. -/
  | counted (bytes : Nat)
  /-- As many as a number in groups of seven bits in front of them says. -/
  | countedGroups
  /-- None; the value stands elsewhere. -/
  | nothing
  deriving DecidableEq, Repr

/-- How a value is written: its size, and what the number that is written means. -/
structure Form where
  /-- The size of the value. -/
  size : Size
  /-- The meaning of the number. -/
  meaning : Nat → Value

namespace Form

/-- The form whose number says which form the value really has. -/
def indirect : Nat := 0x16

/-- The form of numbers with a sign. -/
def signed : Nat := 0x0d

/-- The form of texts that stand in place. -/
def text : Nat := 0x08

/-- The form of values that stand in the abbreviation. -/
def implicit : Nat := 0x21

/-- The form with a number. -/
def ofNumber? : Nat → Option Form
  | 0x01 => some ⟨.address, .address⟩
  | 0x03 => some ⟨.counted 2, fun _ => .other⟩
  | 0x04 => some ⟨.counted 4, fun _ => .other⟩
  | 0x05 => some ⟨.fixed 2, .constant⟩
  | 0x06 => some ⟨.fixed 4, .constant⟩
  | 0x07 => some ⟨.fixed 8, .constant⟩
  | 0x08 => some ⟨.text, fun _ => .other⟩
  | 0x09 => some ⟨.countedGroups, fun _ => .other⟩
  | 0x0a => some ⟨.counted 1, fun _ => .other⟩
  | 0x0b => some ⟨.fixed 1, .constant⟩
  | 0x0c => some ⟨.fixed 1, fun _ => .other⟩
  | 0x0d => some ⟨.groups, fun _ => .other⟩
  | 0x0e => some ⟨.offset, .textAt⟩
  | 0x0f => some ⟨.groups, .constant⟩
  | 0x10 => some ⟨.reference, .entry⟩
  | 0x11 => some ⟨.fixed 1, .unitEntry⟩
  | 0x12 => some ⟨.fixed 2, .unitEntry⟩
  | 0x13 => some ⟨.fixed 4, .unitEntry⟩
  | 0x14 => some ⟨.fixed 8, .unitEntry⟩
  | 0x15 => some ⟨.groups, .unitEntry⟩
  | 0x17 => some ⟨.offset, .position⟩
  | 0x18 => some ⟨.countedGroups, fun _ => .other⟩
  | 0x19 => some ⟨.nothing, fun _ => .other⟩
  | 0x1a => some ⟨.groups, .textIndex⟩
  | 0x1b => some ⟨.groups, .addressIndex⟩
  | 0x1c => some ⟨.fixed 4, fun _ => .other⟩
  | 0x1d => some ⟨.offset, fun _ => .other⟩
  | 0x1e => some ⟨.fixed 16, fun _ => .other⟩
  | 0x1f => some ⟨.offset, .lineTextAt⟩
  | 0x20 => some ⟨.fixed 8, fun _ => .other⟩
  | 0x21 => some ⟨.nothing, fun _ => .other⟩
  | 0x22 => some ⟨.groups, fun _ => .other⟩
  | 0x23 => some ⟨.groups, .rangesIndex⟩
  | 0x24 => some ⟨.fixed 8, fun _ => .other⟩
  | 0x25 => some ⟨.fixed 1, .textIndex⟩
  | 0x26 => some ⟨.fixed 2, .textIndex⟩
  | 0x27 => some ⟨.fixed 3, .textIndex⟩
  | 0x28 => some ⟨.fixed 4, .textIndex⟩
  | 0x29 => some ⟨.fixed 1, .addressIndex⟩
  | 0x2a => some ⟨.fixed 2, .addressIndex⟩
  | 0x2b => some ⟨.fixed 3, .addressIndex⟩
  | 0x2c => some ⟨.fixed 4, .addressIndex⟩
  | 0x1f01 => some ⟨.groups, .addressIndex⟩
  | 0x1f02 => some ⟨.groups, .textIndex⟩
  | 0x1f20 => some ⟨.offset, fun _ => .other⟩
  | 0x1f21 => some ⟨.offset, fun _ => .other⟩
  | _ => none

end Form

/-- The number that a value of a size is written as. Bytes that are no number are left out. -/
def Size.read (encoding : Encoding) : Size → Reader Nat
  | .fixed size => Reader.number encoding.order size
  | .address => Reader.address encoding
  | .offset => Reader.offset encoding
  | .reference => if encoding.version = 2 then Reader.address encoding else Reader.offset encoding
  | .groups => Reader.unsigned
  | .text => do
    let _ ← Reader.text
    return 0
  | .counted size => do
    Reader.skip (← Reader.number encoding.order size)
    return 0
  | .countedGroups => do
    Reader.skip (← Reader.unsigned)
    return 0
  | .nothing => return 0

/-- Leave out a value of a size. -/
def Size.skip (encoding : Encoding) : Size → Reader Unit
  | .fixed size => Reader.skip size
  | .groups => Reader.skipGroups
  | size => do
    let _ ← size.read encoding

/-- An attribute of an abbreviation. -/
structure Spec where
  /-- Which attribute it is. -/
  name : Nat
  /-- The number of its form. -/
  form : Nat
  /-- Its value, if the form leaves it to the abbreviation. -/
  implicit : Option Int
  deriving DecidableEq, Repr

/-- An attribute of an entry. -/
structure Attribute where
  /-- Which attribute it is. -/
  name : Nat
  /-- Its value. -/
  value : Value
  deriving DecidableEq, Repr

namespace Attribute

/-- The number of the attribute with this meaning. -/
def nameText : Nat := 0x03

/-- Where the line program of a unit is. -/
def lineProgram : Nat := 0x10

/-- The first address. -/
def lowAddress : Nat := 0x11

/-- The first address behind, or the size. -/
def highAddress : Nat := 0x12

/-- The directory of a unit. -/
def directory : Nat := 0x1b

/-- The entry of which this one is an instance. -/
def abstractOrigin : Nat := 0x31

/-- The entry that declares this one. -/
def specification : Nat := 0x47

/-- The ranges of addresses. -/
def ranges : Nat := 0x55

/-- The name that the linker uses. -/
def linkageName : Nat := 0x6e

/-- The name that the linker uses, in an old numbering. -/
def oldLinkageName : Nat := 0x2007

/-- Where the texts of a unit begin in the table of texts. -/
def textsBase : Nat := 0x72

/-- Where the addresses of a unit begin in the table of addresses. -/
def addressesBase : Nat := 0x73

/-- The same in an old numbering. -/
def oldAddressesBase : Nat := 0x2133

/-- Where the lists of ranges of a unit begin. -/
def rangesBase : Nat := 0x74

/-- The same in an old numbering. -/
def oldRangesBase : Nat := 0x2132

/-- The identifier of a unit whose rest is in another file. -/
def splitIdentifier : Nat := 0x2131

/-- The name of that file, in an old numbering. -/
def oldSplitName : Nat := 0x2130

/-- The name of that file. -/
def splitName : Nat := 0x76

/-- The attributes whose values may be positions that are written as plain numbers. -/
def withPositions : List Nat :=
  [0x02, 0x10, 0x19, 0x2a, 0x2c, 0x40, 0x43, 0x46, 0x48, 0x4a, 0x4d, 0x55, 0x79]

/-- The attribute whose values may be such positions in the versions 2 and 3. -/
def memberLocation : Nat := 0x38

end Attribute

namespace Spec

/-- Whether a plain number of a form is a position. -/
def isPosition (encoding : Encoding) (name form : Nat) : Bool :=
  ((form == 0x06 && encoding.offsetSize == 4) || (form == 0x07 && encoding.offsetSize == 8)) &&
    (name ∈ Attribute.withPositions ||
      (name == Attribute.memberLocation && (encoding.version == 2 || encoding.version == 3)))

/-- The form that a form stands for: an indirect one is followed by the number of another one. -/
def resolve : Nat → Nat → Reader Nat
  | 0, _ => throw .endOfInput
  | fuel + 1, form => do
    if form = Form.indirect then resolve fuel (← Reader.short) else return form

/-- The form of the next value. -/
def nextForm (form : Nat) : Reader Nat := do
  resolve ((← get).length + 2) form

/-- Read the value of an attribute. -/
def read (encoding : Encoding) (spec : Spec) : Reader Attribute := do
  let form ← nextForm spec.form
  let value ←
    if form = Form.text then pure (Value.text (← Reader.text))
    else if form = Form.signed then pure (Value.signed (← Reader.signed))
    else if form = Form.implicit then
      match spec.implicit with
      | some value => pure (Value.signed value)
      | none => throw .form
    else
      match Form.ofNumber? form with
      | none => throw .form
      | some { size, meaning } =>
        let value ← size.read encoding
        pure (if isPosition encoding spec.name form then Value.position value else meaning value)
  return ⟨spec.name, value⟩

/-- Leave out the value of an attribute. -/
def skip (encoding : Encoding) (spec : Spec) : Reader Unit := do
  match Form.ofNumber? (← nextForm spec.form) with
  | none => throw .form
  | some { size, .. } => size.skip encoding

/-- Read the values of attributes. -/
def readAll (encoding : Encoding) (specs : List Spec) : Reader (List Attribute) :=
  specs.mapM (read encoding)

/-- Leave out the values of attributes. -/
def skipAll (encoding : Encoding) (specs : List Spec) : Reader Unit :=
  specs.forM (skip encoding)

end Spec

end Callstack.Debug
