import Callstack.Elf.Header
import Callstack.Text.Utf8

/-!
# Symbol tables

A symbol table gives names to addresses. Its names are in a section of strings. Of several symbols
at one address the best one counts, and an address is named by the nearest symbol at or below it,
whatever its size.

## Main definitions

* `Elf.Symbol`, `Elf.SymbolTable` — a table as it is in the file
* `Elf.SymbolMap` — names by address
-/

namespace Callstack.Elf

/-- Strings, by the position where they begin. There are none if they are not in the file. -/
structure Strings where
  /-- The bytes of all strings. -/
  bytes : Option (List UInt8) := none

/-- The string at a position. It ends at a zero byte, which must be there. -/
def Strings.get? (strings : Strings) (position : Nat) : Option (List UInt8) := do
  return (← Bytes.untilZero? (← Bytes.skip? position (← strings.bytes))).1

/-- A symbol. -/
structure Symbol where
  /-- Where its name is in the strings. -/
  name : Nat
  /-- Its kind and binding. -/
  info : Nat
  /-- Who sees it. -/
  other : Nat
  /-- The section that it is defined in. -/
  sectionIndex : Nat
  /-- Its address. -/
  value : Nat
  /-- How many bytes it takes. -/
  size : Nat
  deriving DecidableEq, Repr

namespace Symbol

variable (symbol : Symbol)

/-- The kind of a symbol. -/
def type : Nat := symbol.info % 16

/-- The binding of a symbol. -/
def binding : Nat := symbol.info / 16

/-- The sizes of the fields of an entry. -/
def fields (width : Width) : List Nat :=
  match width with
  | .narrow => [4, 4, 4, 1, 1, 2]
  | .wide => [4, 1, 1, 2, 8, 8]

/-- The symbol that an entry describes. -/
def ofFields (width : Width) (values : List Nat) : Option Symbol :=
  match width, values with
  | .narrow, [name, value, size, info, other, sectionIndex] =>
    some ⟨name, info, other, sectionIndex, value, size⟩
  | .wide, [name, info, other, sectionIndex, value, size] =>
    some ⟨name, info, other, sectionIndex, value, size⟩
  | _, _ => none

/-- The first section index that does not stand for a section of the table. -/
def firstReservedSection : Nat := 0xff00

/-- The section index that says that the real one is elsewhere. -/
def sectionElsewhere : Nat := 0xffff

/-- Whether a symbol is defined here. -/
def isDefined : Bool :=
  symbol.sectionIndex != 0 &&
    (symbol.sectionIndex < firstReservedSection || symbol.sectionIndex == sectionElsewhere)

/-- Whether a symbol is a function or data. -/
def isTyped : Bool := symbol.type == 1 || symbol.type == 2

/-- Whether a symbol names code or data. One without a kind must have a size. -/
def isNaming : Bool :=
  symbol.isDefined && (symbol.isTyped || (symbol.type == 0 && symbol.size != 0))

/-- How far symbols of this binding reach: the further, the smaller. -/
def reach : Nat :=
  match symbol.binding with
  | 0 => 2
  | 1 | 2 => if symbol.other % 4 = 2 then 1 else 0
  | _ => 3

/-- The rank of a symbol among those at its address, smaller being better. Being a function or data
weighs as much as two steps of reach. -/
def rank : Nat := (if symbol.isTyped then 0 else 2) + symbol.reach

end Symbol

/-- A symbol table. -/
structure SymbolTable where
  /-- The section that it is in, or zero. -/
  sectionIndex : Nat := 0
  /-- Its symbols. -/
  symbols : List Symbol := []
  /-- Their names. -/
  names : Strings := {}

/-- A name and where it begins. -/
structure NamedAddress where
  /-- The address. -/
  address : Nat
  /-- The name. -/
  name : String
  deriving DecidableEq, Repr

/-- A symbol of a table with what decides between it and others at the same address. -/
structure Candidate where
  /-- The address. -/
  address : Nat
  /-- Its rank. -/
  rank : Nat
  /-- Its place in the table. -/
  index : Nat
  /-- Its name. -/
  name : String

namespace Candidate

/-- The candidates of a table: the symbols that name code or data and have a readable name. -/
def ofTable (table : SymbolTable) : List Candidate :=
  table.symbols.zipIdx.filterMap fun (symbol, index) =>
    if index ≠ 0 && symbol.isNaming then
      match (table.names.get? symbol.name).bind Utf8.strict? with
      | some name => if name.isEmpty then none else some ⟨symbol.value, symbol.rank, index, name⟩
      | none => none
    else none

/-- Whether a candidate comes first: by address, then by rank, then by its place, later ones
first. -/
def precedes (a b : Candidate) : Bool :=
  if a.address ≠ b.address then a.address < b.address
  else if a.rank ≠ b.rank then a.rank < b.rank
  else b.index ≤ a.index

/-- The first candidate of each address, from candidates in order. `last` is the address before;
there is no candidate behind all addresses. -/
def best (last : Nat) : List Candidate → List NamedAddress
  | [] => []
  | candidate :: rest =>
    if candidate.address = last then best last rest
    else ⟨candidate.address, candidate.name⟩ :: best candidate.address rest

end Candidate

/-- Names by address, in ascending order. -/
structure SymbolMap where
  /-- The names. -/
  entries : List NamedAddress := []
  deriving DecidableEq, Repr

namespace SymbolMap

/-- The map of a table. -/
def ofTable (table : SymbolTable) : SymbolMap :=
  ⟨Candidate.best (positionLimit - 1) ((Candidate.ofTable table).mergeSort Candidate.precedes)⟩

/-- How many addresses have a name. -/
def size (map : SymbolMap) : Nat := map.entries.length

/-- The nearest name at or below an address. -/
def get? (map : SymbolMap) (address : Nat) : Option String :=
  ((map.entries.takeWhile fun entry => entry.address ≤ address).getLast?).map NamedAddress.name

end SymbolMap

end Callstack.Elf
