import Callstack.Mangling

/-!
# Symbol entries

What is known about the symbol at an address: the name that the linker uses, and its readable form
if the name encodes one. An entry is shown by its readable form, else by the linker's name.
-/

namespace Callstack

/-- A symbol's name, with its readable form. -/
structure Entry where
  /-- The name as it stands in the symbol table. -/
  linkerName : String
  /-- The readable form, if the name has one. -/
  readable : Option String
  deriving DecidableEq, Repr

namespace Entry

/-- The entry of a linker name, which is demangled if possible. -/
def ofLinkerName (name : String) : Entry := ⟨name, Mangling.demangle? name⟩

/-- The entry of a name that is shown as it is. -/
def plain (name : String) : Entry := ⟨name, none⟩

/-- The text that is shown for an entry. -/
def displayName (entry : Entry) : String := entry.readable.getD entry.linkerName

end Entry

end Callstack
