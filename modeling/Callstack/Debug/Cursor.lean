import Callstack.Bytes

/-!
# Reading debug information

Debug information is read from the front of byte sequences: numbers of fixed sizes, numbers in
groups of seven bits, addresses and offsets whose sizes depend on the unit, and strings that end at
a zero byte.

## Main definitions

* `Debug.Fault` — what can be wrong
* `Debug.Encoding` — what the sizes depend on
* `Debug.Reader` — reading from the front
-/

namespace Callstack.Debug

/-- What can be wrong with debug information. -/
inductive Fault where
  | endOfInput
  | unknownVersion
  | reservedLength
  | addressSize
  | segmentSize
  | unitType
  | unsignedNumber
  | signedNumber
  | rangeEntry
  | addressOverflow
  | abbreviation
  | form
  | missingEntry
  | lineProgram
  | notText
  deriving DecidableEq, Repr

/-- The wording of a fault. -/
def Fault.message : Fault → String
  | endOfInput => "Hit the end of input before it was expected"
  | unknownVersion => "Found an unknown DWARF version"
  | reservedLength => "Found an unknown reserved length value"
  | addressSize => "The specified address size is not supported"
  | segmentSize => "Nonzero segment size not supported yet."
  | unitType => "The DW_UT_* value for this unit is not supported yet."
  | unsignedNumber => "An error parsing an unsigned LEB128 value"
  | signedNumber => "An error parsing a signed LEB128 value"
  | rangeEntry => "Found an unknown range lists entry"
  | addressOverflow => "The end of an address range must not be before the beginning."
  | abbreviation => "Found a record with an unknown abbreviation code"
  | form => "Found an unknown `DW_FORM_*` type"
  | missingEntry => "Did not find an entry at the given offset"
  | lineProgram => "Found an unknown standard opcode"
  | notText => "Expected an attribute value to be a string form."

/-- The first number that 64 bits cannot hold. -/
def modulus : Nat := 1 <<< 64

/-- What the sizes of numbers depend on. -/
structure Encoding where
  /-- The order of bytes. -/
  order : ByteOrder
  /-- The version of the format. -/
  version : Nat
  /-- The size of addresses. -/
  addressSize : Nat
  /-- The size of offsets. -/
  offsetSize : Nat
  deriving DecidableEq, Repr

/-- The number of addresses. -/
def Encoding.addressLimit (encoding : Encoding) : Nat := 1 <<< (8 * encoding.addressSize)

/-- The sum of addresses, which wraps around. -/
def Encoding.wrap (encoding : Encoding) (address : Nat) : Nat := address % encoding.addressLimit

/-- A computation that takes bytes off the front of a sequence. -/
abbrev Reader := StateT (List UInt8) (Except Fault)

namespace Reader

/-- The next `n` bytes. -/
def bytes (n : Nat) : Reader (List UInt8) := do
  match Bytes.take? n (← get) with
  | some (front, rest) =>
    set rest
    return front
  | none => throw .endOfInput

/-- Leave out the next `n` bytes. -/
def skip (n : Nat) : Reader Unit := do
  match Bytes.skip? n (← get) with
  | some rest => set rest
  | none => throw .endOfInput

/-- Whether nothing is left. -/
def isAtEnd : Reader Bool := return (← get).isEmpty

/-- The next byte as a number. -/
def byte : Reader Nat := do
  match ← get with
  | b :: rest =>
    set rest
    return b.toNat
  | [] => throw .endOfInput

/-- A number of `size` bytes. -/
def number (order : ByteOrder) (size : Nat) : Reader Nat := return Bytes.number order (← bytes size)

/-- An address. -/
def address (encoding : Encoding) : Reader Nat := number encoding.order encoding.addressSize

/-- An offset. -/
def offset (encoding : Encoding) : Reader Nat := number encoding.order encoding.offsetSize

/-- The bytes before the next zero byte, which is left out. -/
def text : Reader (List UInt8) := do
  match Bytes.untilZero? (← get) with
  | some (front, rest) =>
    set rest
    return front
  | none => throw .endOfInput

/-- The groups of seven bits of a number, the low end first, and the last byte. A tenth group may
have only the values in `lastGroups`. -/
def groups (lastGroups : List Nat) (fault : Fault) : Nat → Nat → Reader (Nat × Nat × Nat)
  | 0, _ => throw fault
  | fuel + 1, place => do
    let b ← byte
    if place = 9 ∧ b ∉ lastGroups then throw fault
    if b < 128 then return (b, b, place + 1)
    else
      let (high, last, count) ← groups lastGroups fault fuel (place + 1)
      return (b % 128 + 128 * high, last, count)

/-- A number in groups of seven bits. -/
def unsigned : Reader Nat := do
  let (value, _, _) ← groups [0, 1] .unsignedNumber 10 0
  return value % modulus

/-- A number in groups of seven bits with a sign. -/
def signed : Reader Int := do
  let (value, last, count) ← groups [0, 0x7f] .signedNumber 10 0
  let width := min (7 * count) 64
  let value := value % (1 <<< width)
  return if 64 ≤ last then (value : Int) - (1 <<< width : Nat) else value

/-- A number of at most three groups, which fits into 16 bits. -/
def short : Reader Nat := do
  let a ← byte
  if a < 128 then return a
  let b ← byte
  if b < 128 then return a % 128 + 128 * b
  let c ← byte
  if 3 < c then throw .unsignedNumber
  return a % 128 + 128 * (b % 128) + 16384 * c

/-- Leave out a number in groups of seven bits, however long. -/
def skipGroups : Reader Unit := do
  match (← get).dropWhile fun b => 128 ≤ b.toNat with
  | _ :: rest => set rest
  | [] => throw .endOfInput

/-- The size of an address. -/
def addressSize : Reader Nat := do
  let size ← byte
  if size ∈ [1, 2, 4, 8] then return size
  throw .addressSize

/-- A length and the size of the offsets that it implies. -/
def initialLength (order : ByteOrder) : Reader (Nat × Nat) := do
  let length ← number order 4
  if length < 0xfffffff0 then return (length, 4)
  if length = 0xffffffff then return (← number order 8, 8)
  throw .reservedLength

/-- Read from the front of the given bytes. -/
def runOn {α : Type} (input : List UInt8) (body : Reader α) : Except Fault α := do
  return (← body.run input).1

/-- Read from a position of a section. -/
def runAt {α : Type} (input : List UInt8) (position : Nat) (body : Reader α) : Except Fault α :=
  runOn input do
    skip position
    body

end Reader

end Callstack.Debug
