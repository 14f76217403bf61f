import Callstack.Backend
import Callstack.Log
import Callstack.Text.Utf8

/-!
# Symbols that the loader knows

The dynamic loader knows the symbols that a loaded module exports. It names an address by the
nearest exported symbol whose extent contains it; functions that are not exported stay unnamed.

## Main definitions

* `Loader.Symbol`, `Loader.Module` — what is loaded
* `Loader.find?` — the module and the symbol at an address
* `Loader.backendOf`, `Loader.backend` — the backend that asks a loader
-/

namespace Callstack.Loader

/-- Who sees a symbol. -/
inductive Binding where
  | here
  | everywhere
  | weak
  deriving DecidableEq, Repr

/-- A symbol of a loaded module. -/
structure Symbol where
  /-- The bytes of its name. -/
  name : List UInt8
  /-- Where it begins, from the module's base. -/
  value : UInt64
  /-- How many bytes it takes. -/
  size : UInt64
  /-- Who sees it. -/
  binding : Binding := .everywhere
  /-- Whether there is a copy of it for every thread. -/
  isThreadLocal : Bool := false
  /-- Whether another module has to provide it. -/
  isUndefined : Bool := false
  deriving DecidableEq, Repr

/-- A loaded module. -/
structure Module where
  /-- The path of its file. -/
  path : String
  /-- Where it is loaded. -/
  base : UInt64
  /-- How many bytes of memory it takes. -/
  extent : UInt64
  /-- Its symbols, in the order of its table. -/
  symbols : List Symbol

/-- Whether the loader considers a symbol at all. -/
def Symbol.isCandidate (symbol : Symbol) : Bool :=
  symbol.binding != .here && !symbol.isThreadLocal && !(symbol.isUndefined && symbol.value == 0)

/-- Whether an address belongs to a symbol of a module with the given base. A symbol without size
has its first address only, and so has an undefined one behind its size. -/
def Symbol.contains (symbol : Symbol) (base address : UInt64) : Bool :=
  let start := base + symbol.value
  start ≤ address &&
    (((symbol.isUndefined || symbol.size == 0) && address == start) ||
      address < start + symbol.size)

/-- Of two symbols the one with the higher value, and of equal ones the first. -/
def higher (best : Option Symbol) (symbol : Symbol) : Option Symbol :=
  match best with
  | some other => if other.value < symbol.value then some symbol else best
  | none => some symbol

/-- The symbol of a module at an address. -/
def Module.symbolAt? (module : Module) (address : UInt64) : Option Symbol :=
  (module.symbols.filter fun symbol =>
    symbol.isCandidate && symbol.contains module.base address).foldl higher none

/-- The module around an address and its symbol there. The null address is in no module. -/
def find? (modules : List Module) (address : Address) : Option (Module × Symbol) := do
  if address.isNull then none
  else
    let module ← modules.find? fun module =>
      module.base ≤ address.word && address.word - module.base < module.extent
    return (module, ← module.symbolAt? address.word)

/-- Where the records about found symbols come from. -/
def target : String := "framedump::symbolization::dladdr"

/-- The log records of a search for an address: one if a symbol was found, even without a name. -/
def records (modules : List Module) (address : Address) : List Log.Record :=
  match find? modules address with
  | some (module, _) => [⟨.trace, target, address.hex true 0 ++ " is in " ++ module.path⟩]
  | none => []

/-- What a loader answers: the bytes of the name of the symbol at an address, if it knows one. -/
abbrev Answers := Address → Option (List UInt8)

/-- The answers of a loader that has loaded the given modules. -/
def answers (modules : List Module) : Answers := fun address =>
  (find? modules address).map fun (_, symbol) => symbol.name

/-- The linker's name that a loader's answer gives. The null address is not asked about, and a
symbol with an empty name is passed over. -/
def name? (answers : Answers) (address : Address) : Option String :=
  if address.isNull then none
  else do
    let name := Utf8.lossy (← answers address)
    if name.isEmpty then none else some name

/-- The backend that asks a loader with the given answers. -/
def backendOf (answers : Answers) : Backend where
  name := "dladdr"
  lookup address := (name? answers address).map Entry.ofLinkerName
  resolveInto address text :=
    match name? answers address with
    | some name => (true, Mangling.writeReadable name text)
    | none => (false, text)

/-- The backend that asks the loader of the given modules. -/
def backend (modules : List Module) : Backend := backendOf (answers modules)

end Callstack.Loader
