import Callstack.Mangling.Limit
import Callstack.Mangling.V0.Printer

/-!
# Rust names of version 0

A v0 name is a tree in prefix order: a path, and the crate that made an instance of it, which is
not shown. It is shown without the hashes of its crates and without the types of its constants.

## Main definitions

* `V0.parse?` — the tree of a name as a text that can be shown, and what follows it
* `V0.Symbol.display` — the form in the source
-/

namespace Callstack.Mangling.V0

/-- The text of a v0 name, without its mark. -/
structure Symbol where
  /-- The characters behind the mark. -/
  chars : Array Char

/-- The text behind the mark of a v0 name, which begins with a capital. -/
def unmarked? : List Char → Option (List Char)
  | '_' :: 'R' :: c :: rest => if 'A' ≤ c ∧ c ≤ 'Z' then some (c :: rest) else none
  | 'R' :: c :: rest => if 'A' ≤ c ∧ c ≤ 'Z' then some (c :: rest) else none
  | '_' :: '_' :: 'R' :: c :: rest => if 'A' ≤ c ∧ c ≤ 'Z' then some (c :: rest) else none
  | _ => none

/-- Read a path from a position on. The result is the position behind it. -/
def Symbol.skipPath? (symbol : Symbol) (pos : Nat) : Option Nat :=
  let state : Printer.State :=
    { cursor := .ok ⟨pos, 0⟩, silent := true, bound := 0, text := "", room := 0 }
  match ((Printer.atMost Printer.levels (.path false)).run symbol.chars).run state with
  | .ok _ { cursor := .ok cursor, .. } => some cursor.pos
  | _ => none

/-- The symbol that a name begins with, and the text behind it. Names are ASCII. -/
def parse? (name : List Char) : Option (Symbol × List Char) := do
  let text ← unmarked? name
  guard (text.all fun c => c.toNat < 128)
  let symbol : Symbol := ⟨text.toArray⟩
  let pos ← symbol.skipPath? 0
  let hasCrate := symbol.chars[pos]?.any fun c => 'A' ≤ c && c ≤ 'Z'
  let pos ← if hasCrate then symbol.skipPath? pos else some pos
  return (symbol, text.drop pos)

/-- The symbol in the form of the source. -/
def Symbol.display (symbol : Symbol) : String :=
  let state : Printer.State :=
    { cursor := .ok ⟨0, 0⟩, silent := false, bound := 0, text := "", room := sizeLimit }
  match ((Printer.atMost Printer.levels (.path true)).run symbol.chars).run state with
  | .ok _ state => state.text
  | .error _ state => state.text ++ limitNote

end Callstack.Mangling.V0
