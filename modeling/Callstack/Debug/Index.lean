import Callstack.Debug.Functions
import Callstack.Debug.Lines

/-!
# Looking up addresses

The units of the debug information are indexed by the addresses that belong to them. At an address,
the first unit that has a function there tells which functions run there: the function itself and
the calls that were inlined into it.

## Main definitions

* `Debug.Index`, `Debug.Index.load` — the units by their addresses
* `Debug.Answer` — the functions at an address
* `Debug.Index.framesAt` — look up an address
-/

namespace Callstack.Debug

/-- A unit with its line program. -/
structure Source where
  /-- The unit. -/
  unit : CompileUnit
  /-- Its line program. -/
  lines : Option LineProgram

/-- The units of the debug information. -/
structure Index where
  /-- The sections. -/
  sections : Sections
  /-- The units, in the order of the section. -/
  sources : Array Source
  /-- The addresses of units, each with the place of its unit, by their ends. -/
  ranges : List (Extent × Nat)

/-- What the debug information says about an address. -/
inductive Answer where
  /-- It cannot be looked up. -/
  | failed
  /-- The names of the functions that run there, the innermost first, as far as they can be read. -/
  | frames (names : List (Option (List UInt8))) (isComplete : Bool)

namespace Source

variable (sections : Sections)

/-- The unit with a header, unless something in its first entry is broken. -/
def ofHeader (header : UnitHeader) : Except Fault Source := do
  let unit ← CompileUnit.ofHeader sections header
  let lines ← match (unit.rootValue? Attribute.lineProgram).bind Value.position? with
    | some position => do
      pure (some (← LineProgram.read sections position unit.encoding.addressSize))
    | none => pure none
  return ⟨← CompileUnit.withLowAddress sections unit, lines⟩

variable (source : Source)

/-- The addresses that the line program speaks about. -/
def covered : Except Fault (List Extent) :=
  match source.lines with
  | some lines => lines.sequences sections source.unit
  | none => .ok []

/-- The addresses of a unit: by its own attributes, or by the listed sets unless it has a list of
its own, or if all these are empty by its line program. -/
def ranges (sets : List RangeSet) : Except Fault (List Extent) := do
  let bounds ← Bounds.ofAttributes sections source.unit source.unit.root
  let listed :=
    if bounds.list.isSome then []
    else (sets.filter fun set => set.unit == source.unit.header.position).flatMap RangeSet.ranges
  -- The bounds of a unit may span code of other units, the listed sets do not.
  if !listed.isEmpty then return listed
  let own ← bounds.extents sections source.unit
  if !own.isEmpty then return own
  return (source.covered sections).toOption.getD []

/-- Whether the file with the rest of a split unit is named by a readable text, if it is named. -/
def hasReadableRest : Bool :=
  !source.unit.isSplit ||
    let isOld := source.unit.encoding.version < 5
    let name := if isOld then Attribute.oldSplitName else Attribute.splitName
    match source.unit.root.find? fun item => item.name == name with
    | some item => (source.unit.text sections item.value).isOk
    | none => true

end Source

namespace Index

/-- Add the remaining units to an index. Units of types do not count, nor do units whose first entry
is broken. -/
def readUnits (sets : List RangeSet) (position : Nat) : Nat → Index → Reader Index
  | 0, index => return index
  | fuel + 1, index => do
    if ← Reader.isAtEnd then return index
    let before := (← get).length
    let header ← UnitHeader.readNext index.sections.order position
    let next := position + (before - (← get).length)
    match header.kind, Source.ofHeader index.sections header with
    | .type, _ => readUnits sets next fuel index
    | _, .error _ => readUnits sets next fuel index
    | kind, .ok source =>
      let ranges ← if kind = .part then pure [] else source.ranges index.sections sets
      let place := index.sources.size
      readUnits sets next fuel
        { index with
          sources := index.sources.push source
          ranges := index.ranges ++ ranges.map fun range => (range, place) }

/-- Index the debug information. -/
def load (sections : Sections) : Except Fault Index := do
  let sets ← RangeSet.ofSection sections
  let index ← Reader.runOn sections.info
    (readUnits sets 0 (sections.info.length + 1) ⟨sections, #[], []⟩)
  return { index with ranges := index.ranges.mergeSort fun a b => a.1.stop ≤ b.1.stop }

variable (index : Index)

/-- The units that an address belongs to. No unit has the last address of all. -/
def sourcesAt (address : Nat) : List Source :=
  if address + 1 < modulus then
    index.ranges.filterMap fun (range, place) =>
      if range.contains address then index.sources[place]? else none
  else []

/-- What a unit says about an address: the functions that run there, or at least that there is a
line for it. -/
def lookup (source : Source) (address : Nat) :
    Except Fault (Option (List (Option (List UInt8))) × Bool) := do
  if !source.hasReadableRest index.sections then throw .notText
  let functions ← functions index.sections source.unit
  let names ←
    match (Search.find? (fun entry => compareExtent address entry.range) functions).bind
        (functions[·]?) with
    | none => pure none
    | some entry => do
      let units := (index.sources.map Source.unit).toList
      let info ← FunctionInfo.read index.sections units source.unit entry.entries
      pure (some (info.names address))
  let sequences := (← source.covered index.sections).toArray
  return (names, (Search.find? (compareExtent address) sequences).isSome)

/-- The functions at an address, from the first unit that has any, or a line there. -/
def framesIn (address : Nat) : List Source → Answer
  | [] => .frames [] true
  | source :: rest =>
    match lookup index source address with
    | .error _ => .failed
    | .ok (some names, _) => .frames names true
    | .ok (none, true) => .frames [none] true
    | .ok (none, false) => framesIn address rest

/-- The functions at an address. -/
def framesAt (address : Nat) : Answer := framesIn index address (index.sourcesAt address)

end Index

end Callstack.Debug
