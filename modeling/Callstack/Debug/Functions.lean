import Callstack.Debug.Ranges
import Callstack.Search

/-!
# Functions and inlined calls

A unit has entries for its functions, at any depth. Below the entry of a function are those of the
calls that were inlined into it, which may be nested. The name of a function or a call stands in its
entry or in one that it refers to.

## Main definitions

* `Debug.FunctionEntry`, `Debug.functions` — the functions of a unit
* `Debug.nameOf?` — the name that a reference leads to
* `Debug.FunctionInfo`, `Debug.FunctionInfo.read` — a function with its inlined calls
* `Debug.FunctionInfo.names` — the functions that run at an address, the innermost first
-/

namespace Callstack.Debug

/-- A range of addresses of a function. -/
structure FunctionEntry where
  /-- The addresses. -/
  range : Extent
  /-- The entries of the unit from that of the function on. -/
  entries : List UInt8

/-- Where an extent lies, seen from an address. -/
def compareExtent (address : Nat) (extent : Extent) : Ordering :=
  if address < extent.start then .gt else if extent.stop ≤ address then .lt else .eq

section Names

variable (sections : Sections)

/-- What an entry says about its name. -/
inductive NameClue where
  /-- The name. -/
  | found (name : List UInt8)
  /-- It is said at another entry. -/
  | follow (reference : Value)
  /-- Nothing. -/
  | nothing

/-- What the attributes of an entry say about its name. A name for the linker ends the search. -/
def readClue (unit : CompileUnit) (name : Option (List UInt8)) (reference : Option Value) :
    List Spec → Reader NameClue
  | [] =>
    return match name, reference with
      | some name, _ => .found name
      | none, some reference => .follow reference
      | none, none => .nothing
  | spec :: rest => do
    let item ← Spec.read unit.encoding spec
    if item.name = Attribute.linkageName ∨ item.name = Attribute.oldLinkageName then
      match unit.text sections item.value with
      | .ok name => return .found name
      | .error _ => readClue unit name reference rest
    else if item.name = Attribute.nameText then
      match unit.text sections item.value with
      | .ok name => readClue unit (some name) reference rest
      | .error _ => readClue unit name reference rest
    else if item.name = Attribute.abstractOrigin ∨ item.name = Attribute.specification then
      readClue unit name (some item.value) rest
    else readClue unit name reference rest

/-- The unit around a position of the section, and the position in the unit. -/
def unitAround (units : List CompileUnit) (position : Nat) : Except Fault (CompileUnit × Nat) :=
  match (units.takeWhile fun unit => unit.header.position ≤ position).getLast? with
  | some unit =>
    if unit.header.position = position then .error .missingEntry
    else .ok (unit, position - unit.header.position)
  | none => .error .missingEntry

/-- The name that a reference leads to, over at most so many entries. -/
def nameOf? (units : List CompileUnit) : Nat → CompileUnit → Value →
    Except Fault (Option (List UInt8))
  | 0, _, _ => .ok none
  | fuel + 1, unit, reference => do
    let place ← match reference with
      | .unitEntry position => pure (some (unit, position))
      | .entry position => do pure (some (← unitAround units position))
      | _ => pure none
    match place with
    | none => return none
    | some (unit, position) =>
      let clue ← Reader.runOn (← unit.entriesFrom position) do
        match ← unit.readCode with
        | none => throw .missingEntry
        | some abbreviation => readClue sections unit none none abbreviation.specs
      match clue with
      | .found name => return some name
      | .follow reference => nameOf? units fuel unit reference
      | .nothing => return none

/-- How many entries are looked at for a name. -/
def referenceLimit : Nat := 16

/-- The name of a function after one more attribute. A name for the linker always counts, any other
one only if there is none yet. -/
def nameAfter (units : List CompileUnit) (unit : CompileUnit) (name : Option (List UInt8))
    (item : Attribute) : Except Fault (Option (List UInt8)) :=
  if item.name = Attribute.linkageName ∨ item.name = Attribute.oldLinkageName then
    match unit.text sections item.value with
    | .ok name => .ok (some name)
    | .error _ => .ok name
  else if name.isSome then .ok name
  else if item.name = Attribute.nameText then .ok (unit.text sections item.value).toOption
  else if item.name = Attribute.abstractOrigin ∨ item.name = Attribute.specification then
    nameOf? sections units referenceLimit unit item.value
  else .ok none

/-- The name of a function with the given attributes. -/
def nameFrom (units : List CompileUnit) (unit : CompileUnit) (items : List Attribute) :
    Except Fault (Option (List UInt8)) :=
  items.foldlM (nameAfter sections units unit) none

end Names

variable (sections : Sections)

/-- The functions among the remaining entries of a unit. -/
def readFunctions (unit : CompileUnit) : Nat → Reader (List FunctionEntry)
  | 0 => return []
  | fuel + 1 => do
    if ← Reader.isAtEnd then return []
    let entries ← get
    match ← unit.readCode with
    | none => readFunctions unit fuel
    | some abbreviation =>
      if abbreviation.tag = Abbreviation.function then
        let items ← Spec.readAll unit.encoding abbreviation.specs
        let bounds ← Bounds.ofAttributes sections unit items
        let ranges ← bounds.extents sections unit
        return ranges.map (FunctionEntry.mk · entries) ++ (← readFunctions unit fuel)
      else
        Spec.skipAll unit.encoding abbreviation.specs
        readFunctions unit fuel

/-- The functions of a unit, by their first addresses. -/
def functions (unit : CompileUnit) : Except Fault (Array FunctionEntry) := do
  let entries := unit.header.entries
  let found ← Reader.runOn entries (readFunctions sections unit (entries.length + 1))
  return (found.mergeSort fun a b => a.range.start ≤ b.range.start).toArray

/-- A range of addresses of an inlined call. -/
structure InlinedCall where
  /-- How many inlined calls are around it. -/
  level : Nat
  /-- The addresses. -/
  range : Extent
  /-- The name of the called function. -/
  name : Option (List UInt8)

/-- A function with its inlined calls. -/
structure FunctionInfo where
  /-- Its name. -/
  name : Option (List UInt8)
  /-- The inlined calls, by level and then by first address. -/
  calls : Array InlinedCall

namespace FunctionInfo

/-- The state of reading the entries below a function. -/
structure Scan where
  /-- How deep the next entry is. -/
  depth : Int
  /-- How deep the inlined calls around it are. -/
  around : List Int := []
  /-- How deep the inner function is that is left out. -/
  leftOut : Option Int := none
  /-- The calls that were found, the last one first. -/
  calls : List InlinedCall := []

/-- The entries below a function, up to the end of its parts. -/
def readCalls (units : List CompileUnit) (unit : CompileUnit) : Nat → Scan →
    Reader (List InlinedCall)
  | 0, _ => throw .endOfInput
  | fuel + 1, scan => do
    if scan.depth ≤ 0 then return scan.calls.reverse
    match ← unit.readCode with
    | none => readCalls units unit fuel { scan with depth := scan.depth - 1 }
    | some abbreviation =>
      let deeper := if abbreviation.hasChildren then scan.depth + 1 else scan.depth
      -- An entry that is not deeper than the inner function ends it.
      let leftOut := scan.leftOut.filter (· < scan.depth)
      if leftOut.isSome then
        Spec.skipAll unit.encoding abbreviation.specs
        readCalls units unit fuel { scan with depth := deeper }
      else if abbreviation.tag = Abbreviation.inlinedCall then
        let items ← Spec.readAll unit.encoding abbreviation.specs
        let name ← nameFrom sections units unit items
        let ranges ← (← Bounds.ofAttributes sections unit items).extents sections unit
        let around := scan.around.filter (· < scan.depth)
        let calls := ranges.map (InlinedCall.mk around.length · name)
        readCalls units unit fuel
          { depth := deeper, around := scan.depth :: around, calls := calls.reverse ++ scan.calls }
      else
        Spec.skipAll unit.encoding abbreviation.specs
        let isFunction := abbreviation.tag == Abbreviation.function
        readCalls units unit fuel
          { scan with depth := deeper, leftOut := if isFunction then some scan.depth else none }

/-- The function whose entry comes first. -/
def read (units : List CompileUnit) (unit : CompileUnit) (entries : List UInt8) :
    Except Fault FunctionInfo :=
  Reader.runOn entries do
    match ← unit.readCode with
    | none => throw .missingEntry
    | some abbreviation =>
      let items ← Spec.readAll unit.encoding abbreviation.specs
      let name ← nameFrom sections units unit items
      let depth := if abbreviation.hasChildren then 1 else 0
      let calls ← readCalls sections units unit ((← get).length + 1) { depth }
      let sorted := calls.mergeSort fun a b =>
        a.level < b.level || (a.level == b.level && a.range.start ≤ b.range.start)
      return ⟨name, sorted.toArray⟩

/-- Where a call lies, seen from an address at a level. -/
def compareCall (address level : Nat) (call : InlinedCall) : Ordering :=
  if level < call.level then .gt
  else if call.level < level then .lt
  else compareExtent address call.range

/-- The inlined calls around an address from a level on, the outermost first. -/
def callsAround (address : Nat) : Nat → Nat → Array InlinedCall → List InlinedCall
  | 0, _, _ => []
  | fuel + 1, level, calls =>
    match Search.find? (compareCall address level) calls with
    | none => []
    | some place =>
      match calls[place]? with
      | none => []
      | some call =>
        call :: callsAround address fuel (level + 1) (calls.extract (place + 1) calls.size)

/-- The names of the functions that run at an address, the innermost first. -/
def names (info : FunctionInfo) (address : Nat) : List (Option (List UInt8)) :=
  ((callsAround address info.calls.size 0 info.calls).map InlinedCall.name).reverse ++ [info.name]

end FunctionInfo

end Callstack.Debug
