import Callstack.Mangling.V0.Ident
import Callstack.Text.Utf8

/-!
# Reading v0 names

A cursor is a position in a name together with the depth of nesting there. Reading moves it
forwards; a back reference is a cursor at an earlier position.

## Main definitions

* `Cursor`, `Read` — positions, and what reads at them
* `Read.integer62`, `Read.ident`, `Read.nibbles`, `Read.backReference` — the tokens of a name
-/

namespace Callstack.Mangling.V0

/-- What can go wrong in a name. -/
inductive Fault where
  | invalid
  | tooDeep
  deriving DecidableEq

/-- The text shown where a fault is met. -/
def Fault.message : Fault → String
  | .invalid => "\x7binvalid syntax\x7d"
  | .tooDeep => "\x7brecursion limit reached\x7d"

/-- A position in a name. -/
structure Cursor where
  /-- The index of the next character. -/
  pos : Nat
  /-- How many paths, types and constants are open around it. -/
  depth : Nat

/-- How deep the parts of a name may nest. -/
def depthLimit : Nat := 500

/-- Something that is read from a name. -/
abbrev Read (α : Type) : Type :=
  ReaderT (Array Char) (StateT Cursor (Except Fault)) α

namespace Read

private def wordLimit : Nat := 1 <<< 64

/-- The result of a bounded computation, if it fits into a word. -/
def checked (n : Nat) : Read Nat :=
  if n < wordLimit then pure n else throw .invalid

/-- The next character, left in place. -/
def peek : Read (Option Char) := do
  return (← read)[(← get).pos]?

/-- Move over one character. -/
def advance : Read Unit :=
  modify fun cursor => { cursor with pos := cursor.pos + 1 }

/-- The next character. -/
def next : Read Char := do
  match ← peek with
  | some c => advance; return c
  | none => throw .invalid

/-- Move over a given character, if it comes next. -/
def eat (c : Char) : Read Bool := do
  if (← peek) == some c then advance; return true
  else return false

/-- Enter a path, type or constant. -/
def enter : Read Unit := do
  let depth := (← get).depth + 1
  modify fun cursor => { cursor with depth := depth }
  if depthLimit < depth then throw .tooDeep

/-- The next character as a decimal digit. -/
def digit10 : Read Nat := do
  match ← peek with
  | some c =>
    if '0' ≤ c ∧ c ≤ '9' then advance; return c.toNat - '0'.toNat
    else throw .invalid
  | none => throw .invalid

/-- The next character as a digit of base 62: decimal digits, small letters, capitals. -/
def digit62 : Read Nat := do
  match ← peek with
  | some c =>
    if '0' ≤ c ∧ c ≤ '9' then advance; return c.toNat - '0'.toNat
    else if 'a' ≤ c ∧ c ≤ 'z' then advance; return c.toNat - 'a'.toNat + 10
    else if 'A' ≤ c ∧ c ≤ 'Z' then advance; return c.toNat - 'A'.toNat + 36
    else throw .invalid
  | none => throw .invalid

private def digits62 : Nat → Nat → Read Nat
  | 0, _ => throw .invalid
  | fuel + 1, n => do
    if ← eat '_' then return n
    let d ← digit62
    digits62 fuel (← checked (n * 62 + d))

/-- A number in base 62 with an underscore at its end. The bare underscore is zero, and all other
numbers are written one less than they are. -/
def integer62 : Read Nat := do
  if ← eat '_' then return 0
  let n ← digits62 ((← read).size + 1) 0
  checked (n + 1)

/-- A number behind a tag, one more than it is written; zero if the tag is not there. -/
def taggedInteger62 (tag : Char) : Read Nat := do
  if ← eat tag then checked ((← integer62) + 1)
  else return 0

/-- The number that tells apart parts of one name. -/
def disambiguator : Read Nat := taggedInteger62 's'

/-- The kind of a nested name: a capital for a special one. -/
def namespaceTag : Read (Option Char) := do
  let c ← next
  if 'A' ≤ c ∧ c ≤ 'Z' then return some c
  else if 'a' ≤ c ∧ c ≤ 'z' then return none
  else throw .invalid

/-- The cursor that a back reference leads to: an index before the reference itself, which is one
level deeper. The tag has been read already. -/
def backReference : Read Cursor := do
  let start := (← get).pos - 1
  let target ← integer62
  if start ≤ target then throw .invalid
  let depth := (← get).depth + 1
  if depthLimit < depth then throw .tooDeep
  return ⟨target, depth⟩

private def length : Nat → Nat → Read Nat
  | 0, n => pure n
  | fuel + 1, n => do
    match ← peek with
    | some c =>
      if '0' ≤ c ∧ c ≤ '9' then
        advance
        length fuel (← checked (n * 10 + (c.toNat - '0'.toNat)))
      else return n
    | none => return n

/-- The parts of a text before and after its last underscore. -/
def splitLast (text : List Char) : List Char × List Char :=
  let tail := text.reverse.takeWhile (· ≠ '_')
  (text.take (text.length - tail.length - 1), tail.reverse)

/-- An identifier: its length, an underscore if the text would run into the length, and its text.
A `u` in front marks Punycode, where the last underscore ends the ASCII characters. -/
def ident : Read Ident := do
  let isPunycode ← eat 'u'
  let first ← digit10
  let length ← if first = 0 then pure 0 else length (← read).size first
  let _ ← eat '_'
  let name ← read
  let start := (← get).pos
  if name.size < start + length then throw .invalid
  modify fun cursor => { cursor with pos := start + length }
  let text := (name.extract start (start + length)).toList
  if isPunycode then
    let (ascii, punycode) := splitLast text
    if punycode.isEmpty then throw .invalid
    return ⟨ascii, punycode⟩
  else return ⟨text, []⟩

private def nibblesFrom : Nat → List Char → Read (List Char)
  | 0, _ => throw .invalid
  | fuel + 1, digits => do
    let c ← next
    if c = '_' then return digits.reverse
    else if ('0' ≤ c ∧ c ≤ '9') ∨ ('a' ≤ c ∧ c ≤ 'f') then nibblesFrom fuel (c :: digits)
    else throw .invalid

/-- Small hexadecimal digits up to an underscore. -/
def nibbles : Read (List Char) := do
  nibblesFrom ((← read).size + 1) []

end Read

/-- The value of a small hexadecimal digit. -/
def nibbleValue (c : Char) : Nat :=
  if c ≤ '9' then c.toNat - '0'.toNat else c.toNat - 'a'.toNat + 10

/-- The number of hexadecimal digits without leading zeros, if it fits into a word. -/
def nibblesWord? (nibbles : List Char) : Option Nat :=
  let nibbles := nibbles.dropWhile (· = '0')
  if 16 < nibbles.length then none
  else some (nibbles.foldl (fun n c => n * 16 + nibbleValue c) 0)

/-- The bytes of pairs of hexadecimal digits. -/
def nibblesBytes? : List Char → Option (List UInt8)
  | [] => some []
  | [_] => none
  | high :: low :: rest =>
    (nibblesBytes? rest).map (UInt8.ofNat (nibbleValue high * 16 + nibbleValue low) :: ·)

/-- The text whose UTF-8 form is given in hexadecimal. -/
def nibblesText? (nibbles : List Char) : Option String :=
  (nibblesBytes? nibbles).bind Utf8.strict?

end Callstack.Mangling.V0
