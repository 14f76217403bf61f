import Callstack.Mangling.Itanium.Component

/-!
# Reading C++ names: the vocabulary

A reader moves through a mangled name and collects the table of components that later parts may
refer to. Where the grammar offers alternatives, the first one that fits is taken; what a failed
alternative has put into the table stays there. Every rule of the grammar that is entered uses up
one level, and running out of levels ends the reading for good.

## Main definitions

* `Reader` — reading with a table
* `Reader.enter`, `Reader.attempt`, `Reader.many` — levels, alternatives, repetition
* `Reader.number`, `Reader.sourceName`, `Reader.substitution` — rules without recursion
-/

namespace Callstack.Mangling.Itanium

/-- Why a rule does not fit. -/
inductive Failure where
  | mismatch
  | tooDeep
  deriving DecidableEq

/-- What does not change while a name is read. -/
structure Reader.Context where
  /-- The mangled name. -/
  name : Array Char
  /-- How many more rules may be entered. -/
  levels : Nat
  /-- Whether the type of a conversion operator is being read. -/
  inConversion : Bool

/-- A position and the table of components so far. -/
structure Reader.State where
  /-- The index of the next character. -/
  pos : Nat
  /-- The components that can be referred to. -/
  table : Array Component

/-- Reading a part of a name. -/
abbrev Reader (α : Type) : Type :=
  ReaderT Reader.Context (EStateM Failure Reader.State) α

namespace Reader

variable {α : Type}

/-- The rule does not fit. -/
def mismatch : Reader α := throw .mismatch

/-- Enter a rule of the grammar. -/
def enter (body : Reader α) : Reader α := do
  let context ← read
  if context.levels = 0 then throw .tooDeep
  withReader (fun context => { context with levels := context.levels - 1 }) body

/-- Try an alternative. If it does not fit, reading goes on from where it began. -/
def attempt (body : Reader α) : Reader (Option α) := fun context state =>
  match body context state with
  | .ok a state => .ok (some a) state
  | .error .mismatch failed => .ok none { failed with pos := state.pos }
  | .error .tooDeep failed => .error .tooDeep failed

/-- Read as often as possible. -/
def many (item : Reader α) : Reader (List α) := do
  go ((← read).name.size + 1)
where
  /-- Read the remaining items. -/
  go : Nat → Reader (List α)
    | 0 => pure []
    | fuel + 1 => do
      match ← attempt item with
      | some a => return a :: (← go fuel)
      | none => return []

/-- Read as often as possible, and once at least. -/
def atLeastOne (item : Reader α) : Reader (List α) := do
  match ← many item with
  | [] => mismatch
  | items => return items

/-- The next character, left in place. -/
def peek : Reader (Option Char) := do
  return (← read).name[(← get).pos]?

/-- Move over a text, if it comes next. -/
def eat (text : String) : Reader Bool := do
  let state ← get
  let text := text.toList
  if ((← read).name.extract state.pos (state.pos + text.length)).toList = text then
    set { state with pos := state.pos + text.length }
    return true
  else return false

/-- Move over a text that has to come next. -/
def expect (text : String) : Reader Unit := do
  unless ← eat text do mismatch

/-- The longest run of characters of a kind. -/
def takeAll (kind : Char → Bool) : Reader (List Char) := do
  let name := (← read).name
  let start := (← get).pos
  let text := go name kind start (name.size - start)
  modify fun state => { state with pos := start + text.length }
  return text
where
  /-- The run from a position on. -/
  go (name : Array Char) (kind : Char → Bool) (pos : Nat) : Nat → List Char
    | 0 => []
    | fuel + 1 =>
      match name[pos]? with
      | some c => if kind c then c :: go name kind (pos + 1) fuel else []
      | none => []

/-- Put a component into the table. -/
def share (component : Component) : Reader Component := do
  let state ← get
  set { state with table := state.table.push component }
  return .reference state.table.size

/-- A decimal digit. -/
def isDigit (c : Char) : Bool := '0' ≤ c && c ≤ '9'

/-- A capital letter. -/
def isCapital (c : Char) : Bool := 'A' ≤ c && c ≤ 'Z'

/-- A decimal digit or an ASCII letter. -/
def isAlphanumeric (c : Char) : Bool :=
  isDigit c || isCapital c || ('a' ≤ c && c ≤ 'z')

/-- A number without leading zeros, in decimal or, with capital letters, in base 36. -/
def naturalIn (base : Nat) : Reader Nat := do
  let digits ← takeAll fun c => isDigit c || (base == 36 && isCapital c)
  let value := digits.foldl (fun n c => n * base +
    (if isDigit c then c.toNat - '0'.toNat else c.toNat - 'A'.toNat + 10)) 0
  if digits.isEmpty || (1 < digits.length && digits.head? == some '0') || 1 <<< 63 ≤ value then
    mismatch
  return value

/-- A decimal number. -/
def natural : Reader Nat := naturalIn 10

/-- A decimal number, with `n` in front if it is negative. -/
def integer : Reader Int := do
  if ← eat "n" then return -(← natural)
  else return (← natural)

/-- An identifier: its length and its characters. -/
def sourceName : Reader String := enter do
  let length ← natural
  let start := (← get).pos
  let name := (← read).name
  if length = 0 ∨ name.size < start + length then mismatch
  let text := (name.extract start (start + length)).toList
  enter do
    unless text.all fun c => isAlphanumeric c || c == '_' || c == '$' || c == '.' do mismatch
    modify fun state => { state with pos := start + length }
    return String.ofList text

/-- The tags behind a name. -/
def tags : Reader (List String) := enter do
  many (enter do
    expect "B"
    sourceName)

/-- Qualifiers, possibly none, in their fixed order. -/
def qualifiers : Reader Qualifiers := enter do
  let isRestrict ← eat "r"
  let isVolatile ← eat "V"
  let isConst ← eat "K"
  return { isRestrict, isVolatile, isConst }

/-- The reference that a member function is called through. -/
def refKind : Reader RefKind := enter do
  if ← eat "R" then return .lvalue
  expect "O"
  return .rvalue

/-- The first row of a list whose code comes next. -/
def choose (code : α → String) (rows : List α) : Reader α := enter do
  go rows
where
  /-- Try the rows in order. -/
  go : List α → Reader α
    | [] => mismatch
    | row :: rest => do
      if ← eat (code row) then return row
      go rest

/-- An abbreviation or an entry of the table. -/
def substitution : Reader Component := enter do
  match ← attempt (choose StandardName.code StandardName.all) with
  | some name => return .standard name
  | none =>
    expect "S"
    let index ← attempt (enter (naturalIn 36))
    let index := match index with
      | some n => n + 1
      | none => 0
    unless index < (← get).table.size do mismatch
    expect "_"
    return .reference index

/-- A template parameter. -/
def templateParam : Reader Component := enter do
  expect "T"
  let number ← attempt natural
  expect "_"
  return .templateParam (match number with
    | some n => n + 1
    | none => 0)

/-- A parameter of the function around an expression; without an index it is the object. -/
def functionParam : Reader Component := enter do
  expect "f"
  if ← eat "L" then
    let _ ← natural
  expect "p"
  let _ ← qualifiers
  if ← eat "T" then return .functionParam none
  match ← attempt natural with
  | some n =>
    expect "_"
    return .functionParam (some (n + 1))
  | none =>
    expect "_"
    return .functionParam (.some 0)

/-- The number that tells apart local names with equal texts. -/
def discriminator : Reader Unit := enter do
  expect "_"
  if ← eat "_" then
    if (← natural) < 10 then mismatch
    expect "_"
  else
    match ← peek with
    | some c =>
      unless isDigit c do mismatch
      modify fun state => { state with pos := state.pos + 1 }
    | none => mismatch

/-- The number of bits of a type, of which only the last 16 binary digits are kept. -/
def width : Reader Nat := do
  return (← natural) % (1 <<< 16)

/-- A type that does not use the table. -/
def builtin : Reader Component := enter do
  if let some (_, shown) ← attempt (choose Prod.fst (builtinTypes ++ fixedPointTypes)) then
    return .builtin shown
  if let some shown ← attempt floating then return .numericText shown
  expect "u"
  return .vendorBuiltin (← sourceName)
where
  /-- A floating-point type with a given number of bits. -/
  floating : Reader String := enter do
    expect "DF"
    let width ← width
    if ← eat "x" then return "_Float" ++ toString width ++ "x"
    expect "_"
    return "_Float" ++ toString width

/-- The offset of a thunk. -/
def callOffset : Reader CallOffset := enter do
  if ← eat "h" then
    let offset ← enter (enter integer)
    expect "_"
    return .fixed offset
  expect "v"
  let (offset, lookup) ← enter do
    let offset ← enter integer
    expect "_"
    return (offset, ← enter integer)
  expect "_"
  return .virtual offset lookup

/-- What a compiler appends to the name of a copy of a function. -/
def clone : Reader String := enter do
  expect "."
  let word ← enter (takeAll fun c => isAlphanumeric c || c == '_' || c == '$')
  if word.isEmpty then mismatch
  let numbers ← many do
    expect "."
    natural
  return "." ++ String.ofList word ++
    String.join (numbers.map fun n => "." ++ toString n)

end Reader

end Callstack.Mangling.Itanium
