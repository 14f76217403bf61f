import Callstack.Mangling.Itanium.Grammar
import Callstack.Mangling.Itanium.Printer
import Callstack.Mangling.Legacy
import Callstack.Mangling.V0

/-!
# Readable names

Linkers know functions under names that encode their paths and types. A name is read as a Rust
name, of the legacy or of version 0, and if it is neither as a C++ name.

A Rust name may have text behind it that compilers append: it begins with a point, is shown as it
is, and must consist of visible ASCII characters. What an optimiser appends behind `.llvm.` is cut
off first.

## Main definitions

* `Mangling.demangleInto` — append the readable form of a name to a text
* `Mangling.demangle?` — the readable form of a name
* `Mangling.writeReadable` — append the readable form, or the name itself

## Main results

* `demangleInto_eq` — appending agrees with the readable form, whatever the text was before
-/

namespace Callstack.Mangling

/-- The parts of a text before and after the first place where a word stands. What has been passed
is given back to front. -/
def splitAtWordFrom? (word passed : List Char) : List Char → Option (List Char × List Char)
  | [] => if word.isEmpty then some (passed.reverse, []) else none
  | c :: rest =>
    if word.isPrefixOf (c :: rest) then some (passed.reverse, (c :: rest).drop word.length)
    else splitAtWordFrom? word (c :: passed) rest

/-- A name without what an optimiser has appended to it. -/
def withoutModule (name : List Char) : List Char :=
  match splitAtWordFrom? ".llvm.".toList [] name with
  | some (before, after) =>
    if after.all fun c => ('A' ≤ c && c ≤ 'F') || ('0' ≤ c && c ≤ '9') || c == '@' then before
    else name
  | none => name

/-- Whether a text can stand behind a Rust name. -/
def isSuffix (text : List Char) : Bool :=
  text.isEmpty || (text.head? == some '.' && text.all fun c => '!' ≤ c && c ≤ '~')

/-- A Rust name, of either scheme. -/
inductive RustName where
  | legacy (path : Legacy.Path)
  | v0 (symbol : V0.Symbol)

/-- A Rust name and the text behind it, if the name is one. -/
def rustName? (name : List Char) : Option (RustName × List Char) :=
  let name := withoutModule name
  let parsed :=
    match Legacy.parse? name with
    | some (path, rest) => some (RustName.legacy path, rest)
    | none => (V0.parse? name).map fun (symbol, rest) => (RustName.v0 symbol, rest)
  parsed.filter fun (_, rest) => isSuffix rest

/-- A Rust name in the form of the source. -/
def RustName.display : RustName → String
  | .legacy path => path.display
  | .v0 symbol => symbol.display

/-- Whether a name has the mark of C++ names. -/
def hasCppMark (name : List Char) : Bool :=
  ['_', 'Z'].isPrefixOf name || ['_', '_', 'Z'].isPrefixOf name

/-- A C++ name in the form of the source. -/
def cppName? (name : List Char) : Option String :=
  if hasCppMark name then
    match Itanium.Grammar.parse? name with
    | some (tree, table) => tree.display? table
    | none => none
  else none

/-- Append the readable form of a name to a text. The answer is whether there is one; if there is
none, the text stays as it is. -/
def demangleInto (name text : String) : Bool × String :=
  match rustName? name.toList with
  | some (rust, rest) => (true, text ++ rust.display ++ String.ofList rest)
  | none =>
    match cppName? name.toList with
    | some readable => (true, text ++ readable)
    | none => (false, text)

/-- The readable form of a name. -/
def demangle? (name : String) : Option String :=
  let (isReadable, text) := demangleInto name ""
  if isReadable then some text else none

/-- Append the readable form of a linker's name to a text, or the name itself. -/
def writeReadable (name text : String) : String :=
  let (isReadable, written) := demangleInto name text
  if isReadable then written else written ++ name

/-- Appending agrees with the readable form, whatever the text was before. -/
theorem demangleInto_eq (name text : String) :
    demangleInto name text =
      match demangle? name with
      | some readable => (true, text ++ readable)
      | none => (false, text) := by
  unfold demangle? demangleInto
  cases rustName? name.toList with
  | some parsed => simp [String.append_assoc]
  | none =>
    cases cppName? name.toList with
    | some readable => simp
    | none => simp

end Callstack.Mangling
