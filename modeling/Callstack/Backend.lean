import Callstack.Entry
import Callstack.Names
import Callstack.Trace

/-!
# Symbol backends

A backend knows the names of addresses. All that it has to provide is a lookup; appending a name to
a text and naming a whole batch follow from that, unless the backend has a quicker way.

## Main definitions

* `Backend` — a lookup together with the derived operations
* `Backend.resolve` — the shown name of one address
* `Backend.unavailable` — the backend that knows nothing
* `Backend.ofTable` — the backend of a list of known addresses
-/

namespace Callstack

/-- Append the shown name of an entry to a text. -/
def Entry.append : Option Entry → NameWriter
  | some entry, text => (true, text ++ entry.displayName)
  | none, text => (false, text)

/-- A source of names for addresses. -/
structure Backend where
  /-- How the backend is called. -/
  name : String
  /-- The symbol at an address. -/
  lookup : Address → Option Entry
  /-- Append the name of an address to a text. -/
  resolveInto : Address → NameWriter := fun address => Entry.append (lookup address)
  /-- The names of a batch of addresses. -/
  resolveAll : List Address → Names := fun addresses => Names.ofWriters (addresses.map resolveInto)

namespace Backend

variable (backend : Backend)

/-- The shown name of an address. -/
def resolve (address : Address) : Option String :=
  let (isKnown, name) := backend.resolveInto address ""
  if isKnown then some name else none

/-- The backend that knows no names. -/
def unavailable : Backend where
  name := "unavailable"
  lookup _ := none
  resolveInto _ text := (false, text)
  resolveAll addresses := Names.unknown addresses.length

/-- The backend that knows the listed addresses and nothing else. Of several entries for one
address the first counts. -/
def ofTable (name : String) (table : List (Address × Entry)) : Backend where
  name := name
  lookup address := (table.find? fun row => row.1 == address).map Prod.snd

end Backend

end Callstack
