import Callstack.Mangling.V0.Cursor
import Callstack.Text.Quoted

/-!
# Printing v0 names

A v0 name is printed while it is read. A fault does not stop the printing: it is shown where it is
met, and every part that would have to be read behind it is shown as a question mark, so that the
outer syntax remains visible. A back reference is printed from its target; a fault there ends with
it. The same rules, run without output and without following back references, decide whether a text
is a name at all.

## Main definitions

* `Printer` — the effects of printing
* `Rule` — the parts of a name
* `Printer.rule` — printing one part, given how to print the parts inside it
-/

namespace Callstack.Mangling.V0

/-- The state of printing. -/
structure Printer.State where
  /-- Where reading goes on, or the fault that stopped it. -/
  cursor : Except Fault Cursor
  /-- Whether parts are only read. -/
  silent : Bool
  /-- How many lifetimes are bound around the current part. -/
  bound : Nat
  /-- What has been printed. -/
  text : String
  /-- How many more bytes may be printed. -/
  room : Nat

/-- Printing parts of a name. It breaks off when the room is used up. -/
abbrev Printer (α : Type) : Type :=
  ReaderT (Array Char) (EStateM Unit Printer.State) α

/-- The parts of a name. Inside a value, generic arguments of paths and constants are written
differently. -/
inductive Rule where
  | path (inValue : Bool)
  | genericArg
  | type
  | const (inValue : Bool)
  | pattern

namespace Printer

/-- Print a text. -/
def print (text : String) : Printer Unit := do
  let state ← get
  if state.silent then return
  if state.room < text.utf8ByteSize then throw ()
  set { state with text := state.text ++ text, room := state.room - text.utf8ByteSize }

/-- Show a fault and stop reading. -/
def fail (fault : Fault) : Printer Unit := do
  print fault.message
  modify fun state => { state with cursor := .error fault }

/-- Whether reading goes on. -/
def isReading : Printer Bool := do
  return (← get).cursor.isOk

/-- Read something. Nothing is read after a fault. -/
def read? (wanted : Read α) : Printer (Option α) := do
  match (← get).cursor with
  | .error _ => print "?"; return none
  | .ok cursor =>
    match (wanted.run (← read)).run cursor with
    | .ok (a, cursor) => modify fun state => { state with cursor := .ok cursor }; return some a
    | .error fault => fail fault; return none

/-- Move over a character, if it comes next and reading goes on. -/
def eat (c : Char) : Printer Bool := do
  if ← isReading then return (← read? (Read.eat c)).getD false
  else return false

/-- Leave a path, type or constant. -/
def leave : Printer Unit :=
  modify fun state => { state with
    cursor := state.cursor.map fun cursor => { cursor with depth := cursor.depth - 1 } }

/-- Print an identifier. -/
def printIdent (ident : Ident) : Printer Unit :=
  ident.pieces.forM print

/-- Run without printing. -/
def silently (action : Printer Unit) : Printer Unit := do
  let silent := (← get).silent
  modify fun state => { state with silent := true }
  action
  modify fun state => { state with silent := silent }

/-- Print the target of a back reference whose tag has been read. -/
def atReference (action : Printer Unit) : Printer Unit := do
  let some target ← read? Read.backReference | return
  if (← get).silent then return
  let cursor := (← get).cursor
  modify fun state => { state with cursor := .ok target }
  action
  modify fun state => { state with cursor := cursor }

/-- Print items up to the closing `E` or a fault. The answer is their number. -/
def items (separator : String) (item : Printer Unit) : Printer Nat := do
  go ((← read).size + 1) 0
where
  /-- Print the remaining items. -/
  go : Nat → Nat → Printer Nat
    | 0, count => pure count
    | fuel + 1, count => do
      if !(← isReading) then return count
      if ← eat 'E' then return count
      if 0 < count then print separator
      item
      go fuel (count + 1)

/-- Print a lifetime that is counted from the innermost binder. The first 26 have letters. -/
def lifetime (index : Nat) : Printer Unit := do
  let state ← get
  if state.silent then return
  print "'"
  if index = 0 then print "_"
  else if index ≤ state.bound then
    let depth := state.bound - index
    if depth < 26 then print (String.singleton (Char.ofNat ('a'.toNat + depth)))
    else
      print "_"
      print (toString depth)
  else fail .invalid

/-- Print what may be bound by a binder for lifetimes. -/
def inBinder (body : Printer Unit) : Printer Unit := do
  let some count ← read? (Read.taggedInteger62 'G') | return
  if (← get).silent then body
  else
    let bound := (← get).bound
    if 0 < count then
      print "for<"
      bind count ((← get).room + 1) true
      print "> "
    body
    modify fun state => { state with bound := bound }
where
  /-- Print the bound lifetimes. There is no room for more of them than there is fuel. -/
  bind : Nat → Nat → Bool → Printer Unit
    | 0, _, _ => pure ()
    | _, 0, _ => pure ()
    | count + 1, fuel + 1, isFirst => do
      unless isFirst do print ", "
      modify fun state => { state with bound := state.bound + 1 }
      lifetime 1
      bind count fuel false

/-- The types that a single character stands for. -/
def basicType? : Char → Option String
  | 'b' => some "bool"
  | 'c' => some "char"
  | 'e' => some "str"
  | 'u' => some "()"
  | 'a' => some "i8"
  | 's' => some "i16"
  | 'l' => some "i32"
  | 'x' => some "i64"
  | 'n' => some "i128"
  | 'i' => some "isize"
  | 'h' => some "u8"
  | 't' => some "u16"
  | 'm' => some "u32"
  | 'y' => some "u64"
  | 'o' => some "u128"
  | 'j' => some "usize"
  | 'f' => some "f32"
  | 'd' => some "f64"
  | 'z' => some "!"
  | 'p' => some "_"
  | 'v' => some "..."
  | _ => none

/-- Print a text between quotes. -/
def quoted (quote : Char) (text : List Char) : Printer Unit := do
  print (String.singleton quote)
  text.forM fun c => (Quoted.escape quote c).forM fun c => print (String.singleton c)
  print (String.singleton quote)

/-- Print a number. One that fits into no word stays hexadecimal. -/
def number : Printer Unit := do
  let some nibbles ← read? Read.nibbles | return
  match nibblesWord? nibbles with
  | some n => print (toString n)
  | none =>
    print "0x"
    print (String.ofList nibbles)

/-- Print a text literal. -/
def textLiteral : Printer Unit := do
  let some nibbles ← read? Read.nibbles | return
  match nibblesText? nibbles with
  | some text => quoted '"' text.toList
  | none => fail .invalid

variable (part : Rule → Printer Unit)

/-- Print a name inside a path. -/
def nested (inValue : Bool) : Printer Unit := do
  let some kind ← read? Read.namespaceTag | return
  part (.path inValue)
  unless ← isReading do print "::"
  let some disambiguator ← read? Read.disambiguator | return
  let some name ← read? Read.ident | return
  match kind with
  | some kind =>
    print "::\x7b"
    match kind with
    | 'C' => print "closure"
    | 'S' => print "shim"
    | kind => print (String.singleton kind)
    unless name.isEmpty do
      print ":"
      printIdent name
    print "#"
    print (toString disambiguator)
    print "\x7d"
  | none =>
    unless name.isEmpty do
      print "::"
      printIdent name
  leave

/-- Print a path. -/
def path (inValue : Bool) : Printer Unit := do
  let some _ ← read? Read.enter | return
  let some tag ← read? Read.next | return
  match tag with
  | 'C' =>
    let some _ ← read? Read.disambiguator | return
    let some name ← read? Read.ident | return
    printIdent name
    leave
  | 'N' => nested part inValue
  | 'I' =>
    part (.path inValue)
    if inValue then print "::"
    print "<"
    let _ ← items ", " (part .genericArg)
    print ">"
    leave
  | 'B' =>
    atReference (part (.path inValue))
    leave
  | _ =>
    if tag = 'M' ∨ tag = 'X' ∨ tag = 'Y' then
      if tag ≠ 'Y' then
        let some _ ← read? Read.disambiguator | return
        silently (part (.path false))
      print "<"
      part .type
      if tag ≠ 'M' then
        print " as "
        part (.path false)
      print ">"
      leave
    else fail .invalid

/-- Print a generic argument: a lifetime, a constant or a type. -/
def genericArg : Printer Unit := do
  if ← eat 'L' then
    let some index ← read? Read.integer62 | return
    lifetime index
  else if ← eat 'K' then part (.const false)
  else part .type

/-- Read the name of a calling convention, `none` for the usual one. The outer `none` is a fault
that has been shown. -/
def convention? : Printer (Option (Option (List Char))) := do
  unless ← eat 'K' do return some none
  if ← eat 'C' then return some (some ['C'])
  let some name ← read? Read.ident | return none
  if name.ascii.isEmpty || !name.punycode.isEmpty then
    fail .invalid
    return none
  return some (some name.ascii)

/-- Print the signature of a function. A convention's hyphens are written as underscores. -/
def signature : Printer Unit := do
  let isUnsafe ← eat 'U'
  let some convention ← convention? | return
  if isUnsafe then print "unsafe "
  match convention with
  | some name =>
    print "extern \""
    print (String.ofList (name.map fun c => if c = '_' then '-' else c))
    print "\" "
  | none => pure ()
  print "fn("
  let _ ← items ", " (part .type)
  print ")"
  unless ← eat 'u' do
    print " -> "
    part .type

/-- Print the path of a trait. The answer is whether its generic arguments are left open. -/
def openPath : Nat → Printer Bool
  | 0 => do
    fail .tooDeep
    return false
  | fuel + 1 => do
    if ← eat 'B' then
      let some target ← read? Read.backReference | return false
      if (← get).silent then return false
      let cursor := (← get).cursor
      modify fun state => { state with cursor := .ok target }
      let isOpen ← openPath fuel
      modify fun state => { state with cursor := cursor }
      return isOpen
    else if ← eat 'I' then
      part (.path false)
      print "<"
      let _ ← items ", " (part .genericArg)
      return true
    else
      part (.path false)
      return false

/-- Print a trait with the types that are assigned to its associated names. -/
def dynTrait : Printer Unit := do
  let isOpen ← openPath part (depthLimit + 1)
  go ((← read).size + 1) isOpen
where
  /-- Print the remaining assignments. -/
  go : Nat → Bool → Printer Unit
    | 0, _ => pure ()
    | fuel + 1, isOpen => do
      if ← eat 'p' then
        print (if isOpen then ", " else "<")
        let some name ← read? Read.ident | return
        printIdent name
        print " = "
        part .type
        go fuel true
      else if isOpen then print ">"

/-- Print a type. A single mark in front says that it is spread over several parameters. -/
def type : Printer Unit := do
  if ← eat 'w' then print "#[splat] "
  let some tag ← read? Read.next | return
  if let some name := basicType? tag then
    print name
    return
  let some _ ← read? Read.enter | return
  match tag with
  | 'R' | 'Q' =>
    print "&"
    if ← eat 'L' then
      let some index ← read? Read.integer62 | return
      if index ≠ 0 then
        lifetime index
        print " "
    if tag = 'Q' then print "mut "
    part .type
  | 'P' | 'O' =>
    print "*"
    print (if tag = 'P' then "const " else "mut ")
    part .type
  | 'A' | 'S' =>
    print "["
    part .type
    if tag = 'A' then
      print "; "
      part (.const true)
    print "]"
  | 'T' =>
    print "("
    let count ← items ", " (part .type)
    if count = 1 then print ","
    print ")"
  | 'F' => inBinder (signature part)
  | 'D' =>
    print "dyn "
    inBinder do
      let _ ← items " + " (dynTrait part)
    unless ← eat 'L' do
      fail .invalid
      return
    let some index ← read? Read.integer62 | return
    if index ≠ 0 then
      print " + "
      lifetime index
  | 'B' => atReference (part .type)
  | 'W' =>
    part .type
    print " is "
    part .pattern
  | _ =>
    modify fun state => { state with
      cursor := state.cursor.map fun cursor => { cursor with pos := cursor.pos - 1 } }
    part (.path false)
  leave

/-- Print the pattern that restricts a type. -/
def pattern : Printer Unit := do
  let some tag ← read? Read.next | return
  match tag with
  | 'R' =>
    part (.const false)
    print "..="
    part (.const false)
  | 'O' =>
    let some _ ← read? Read.enter | return
    let _ ← items " | " (part .pattern)
    leave
  | 'N' => print "!null"
  | _ => fail .invalid

/-- Print a constant in braces, unless it stands in a value already. The answer of the body says
whether it was understood. -/
def braced (inValue : Bool) (body : Printer Bool) : Printer Bool := do
  unless inValue do print "\x7b"
  let isUnderstood ← body
  if isUnderstood && !inValue then print "\x7d"
  return isUnderstood

/-- Print a constant with a single character in quotes. -/
def charLiteral : Printer Bool := do
  let some nibbles ← read? Read.nibbles | return false
  match nibblesWord? nibbles with
  | some code =>
    if code.isValidChar then
      quoted '\'' [Char.ofNat code]
      return true
    else
      fail .invalid
      return false
  | none =>
    fail .invalid
    return false

/-- Print the fields of a structure or variant whose path has been printed. -/
def fields : Printer Bool := do
  let some shape ← read? Read.next | return false
  match shape with
  | 'U' => return true
  | 'T' =>
    print "("
    let _ ← items ", " (part (.const true))
    print ")"
    return true
  | 'S' =>
    print " \x7b "
    let _ ← items ", " do
      let some _ ← read? Read.disambiguator | return
      let some name ← read? Read.ident | return
      printIdent name
      print ": "
      part (.const true)
    print " \x7d"
    return true
  | _ =>
    fail .invalid
    return false

/-- Print a constant whose tag has been read. The answer is whether it was understood. -/
def constBody (inValue : Bool) (tag : Char) : Printer Bool := do
  match tag with
  | 'p' =>
    print "_"
    return true
  | 'h' | 't' | 'm' | 'y' | 'o' | 'j' =>
    number
    return true
  | 'a' | 's' | 'l' | 'x' | 'n' | 'i' =>
    if ← eat 'n' then print "-"
    number
    return true
  | 'b' =>
    let some nibbles ← read? Read.nibbles | return false
    match nibblesWord? nibbles with
    | some 0 => print "false"; return true
    | some 1 => print "true"; return true
    | _ => fail .invalid; return false
  | 'c' => charLiteral
  | 'e' =>
    braced inValue do
      print "*"
      textLiteral
      return true
  | 'R' =>
    if ← eat 'e' then
      textLiteral
      return true
    else
      braced inValue do
        print "&"
        part (.const true)
        return true
  | 'Q' =>
    braced inValue do
      print "&mut "
      part (.const true)
      return true
  | 'A' =>
    braced inValue do
      print "["
      let _ ← items ", " (part (.const true))
      print "]"
      return true
  | 'T' =>
    braced inValue do
      print "("
      let count ← items ", " (part (.const true))
      if count = 1 then print ","
      print ")"
      return true
  | 'V' =>
    braced inValue do
      part (.path true)
      fields part
  | 'B' =>
    atReference (part (.const inValue))
    return true
  | _ => fail .invalid; return false

/-- Print a constant. Outside of a value, all but literals stand in braces. -/
def const (inValue : Bool) : Printer Unit := do
  let some tag ← read? Read.next | return
  let some _ ← read? Read.enter | return
  if ← constBody part inValue tag then leave

/-- Print one part of a name, given how to print the parts inside it. -/
def rule : Rule → Printer Unit
  | .path inValue => path part inValue
  | .genericArg => genericArg part
  | .type => type part
  | .const inValue => const part inValue
  | .pattern => pattern part

/-- Print a part of a name that nests at most `fuel` levels deep. -/
def atMost : Nat → Rule → Printer Unit
  | 0, _ => fail .tooDeep
  | fuel + 1, wanted => rule (atMost fuel) wanted

/-- More levels than the depth limit lets a name have: each path, type or constant counts, and at
most two other parts stand between two of them. -/
def levels : Nat := 4 * (depthLimit + 1)

end Printer

end Callstack.Mangling.V0
