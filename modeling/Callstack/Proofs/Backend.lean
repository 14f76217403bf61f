import Callstack.Loader
import Callstack.Proofs.Names
import Callstack.Symbolizer

/-!
# One answer for every way to ask

A backend can be asked for an entry, for a name in a new text, for a name behind another text, and
for the names of a batch. Some backends have their own code for some of these. All of them give the
same names: the text that the entry shows, or nothing.

It is enough to look at one operation. A backend that appends the shown text of its entries, and
names a batch by appending, agrees with itself everywhere.

## Main definitions

* `Backend.NamesAgree` — all operations of a backend give the same names

## Main results

* `namesAgree_of_appends` — appending decides the other operations
* `default_appends`, `appends_of_linkerName` — what the backends append
* `all_backends_agree` — every backend agrees with itself, in every state of the lock and for all
  answers of the loader
-/

namespace Callstack

/-- The readable form of a linker's name, or the name itself, is appended as its entry shows it. -/
theorem Mangling.writeReadable_eq (name text : String) :
    Mangling.writeReadable name text = text ++ (Entry.ofLinkerName name).displayName := by
  have appended := Mangling.demangleInto_eq name text
  unfold Mangling.writeReadable Entry.ofLinkerName Entry.displayName
  rw [appended]
  cases Mangling.demangle? name with
  | some readable => rfl
  | none => rfl

namespace Backend

/-- All operations of a backend give the same names: those that its entries show. An empty name is
a name on its own, but none in a batch. -/
structure NamesAgree (backend : Backend) : Prop where
  /-- A name is appended to a text exactly if there is an entry, else the text stays as it is. -/
  resolveInto_eq : ∀ address text, backend.resolveInto address text =
    match backend.lookup address with
    | some entry => (true, text ++ entry.displayName)
    | none => (false, text)
  /-- A single name is what would be appended. -/
  resolve_eq : ∀ address, backend.resolve address = (backend.lookup address).map Entry.displayName
  /-- A batch has one entry for each address. -/
  size_resolveAll : ∀ addresses, (backend.resolveAll addresses).size = addresses.length
  /-- The names of a batch are the single ones, without the empty ones, and nothing behind. -/
  get?_resolveAll : ∀ addresses i, (backend.resolveAll addresses).get? i =
    (addresses[i]?.bind backend.resolve).filter fun name => name ≠ ""

/-- Writers that append what the entries of a lookup show. -/
def AppendsShown (lookup : Address → Option Entry) (write : Address → NameWriter) : Prop :=
  ∀ address, (write address).Appends (lookup address).isSome
    (((lookup address).map Entry.displayName).getD "")

section Appends

variable {backend : Backend}

theorem resolve_eq_of_appends (appends : AppendsShown backend.lookup backend.resolveInto)
    (address : Address) :
    backend.resolve address = (backend.lookup address).map Entry.displayName := by
  have single := appends address ""
  unfold resolve
  rw [single]
  cases backend.lookup address with
  | some entry => simp
  | none => rfl

/-- The entries of a batch that is named by appending. -/
theorem holds_resolveAll (appends : AppendsShown backend.lookup backend.resolveInto)
    (batch : ∀ addresses, backend.resolveAll addresses =
      Names.ofWriters (addresses.map backend.resolveInto)) (addresses : List Address) :
    (backend.resolveAll addresses).Holds
      (addresses.map fun address => (backend.resolve address).filter (· ≠ "")) := by
  have holds := Names.holds_ofWriters appends addresses
  have entries (address : Address) :
      Names.entry (backend.lookup address).isSome
        (((backend.lookup address).map Entry.displayName).getD "") =
      (backend.resolve address).filter (· ≠ "") := by
    rw [resolve_eq_of_appends appends, ← Names.entry_eq_filter, Option.isSome_map]
  rw [batch]
  simpa only [entries] using holds

/-- A backend that appends what its entries show, and names a batch by appending, agrees with
itself. -/
theorem namesAgree_of_appends (appends : AppendsShown backend.lookup backend.resolveInto)
    (batch : ∀ addresses, backend.resolveAll addresses =
      Names.ofWriters (addresses.map backend.resolveInto)) :
    backend.NamesAgree := by
  refine ⟨?_, resolve_eq_of_appends appends, ?_, ?_⟩
  · intro address text
    rw [appends address text]
    cases backend.lookup address with
    | some entry => rfl
    | none => simp
  · intro addresses
    rw [(holds_resolveAll appends batch addresses).size_eq, List.length_map]
  · intro addresses i
    rw [(holds_resolveAll appends batch addresses).get?_eq, List.getElem?_map]
    cases addresses[i]? with
    | none => rfl
    | some address => rfl

end Appends

theorem default_appends (lookup : Address → Option Entry) :
    AppendsShown lookup fun address => Entry.append (lookup address) := by
  intro address text
  cases found : lookup address with
  | some entry => simp [Entry.append, found]
  | none => simp [Entry.append, found]

theorem default_namesAgree (name : String) (lookup : Address → Option Entry) :
    NamesAgree { name := name, lookup := lookup } := by
  exact namesAgree_of_appends (default_appends lookup) fun _ => rfl

/-- Writers that append the readable form of linker names show the entries of these names. -/
theorem appends_of_linkerName {name? : Address → Option String} {write : Address → NameWriter}
    (writes : ∀ address text, write address text =
      match name? address with
      | some name => (true, Mangling.writeReadable name text)
      | none => (false, text)) :
    AppendsShown (fun address => (name? address).map Entry.ofLinkerName) write := by
  intro address text
  rw [writes]
  cases found : name? address with
  | some name => simp [found, Mangling.writeReadable_eq]
  | none => simp [found]

theorem unavailable_namesAgree : unavailable.NamesAgree := by
  have holds (addresses : List Address) : (unavailable.resolveAll addresses).Holds
      (List.replicate addresses.length none) := Names.holds_unknown addresses.length
  refine ⟨fun _ _ => rfl, fun _ => rfl, ?_, ?_⟩
  · intro addresses
    rw [(holds addresses).size_eq, List.length_replicate]
  · intro addresses i
    have nothing : (List.replicate addresses.length (none : Option String))[i]?.join = none := by
      rw [List.getElem?_replicate]
      split <;> rfl
    rw [(holds addresses).get?_eq, nothing]
    cases addresses[i]? with
    | none => rfl
    | some address => rfl

/-- All ways to ask for names agree: for a backend that only has a lookup, for a symbolizer in every
state of its lock, for a loader whatever it answers, and for the backend that knows nothing. Nor
does it matter what a readable form is appended to. -/
theorem all_backends_agree :
    (∀ name lookup, NamesAgree { name := name, lookup := lookup }) ∧
      (∀ (symbolizer : Symbolizer) lock, (symbolizer.backend lock).NamesAgree) ∧
      (∀ answers, (Loader.backendOf answers).NamesAgree) ∧
      unavailable.NamesAgree ∧
      ∀ name text, Mangling.demangleInto name text =
        match Mangling.demangle? name with
        | some readable => (true, text ++ readable)
        | none => (false, text) := by
  refine ⟨default_namesAgree, ?_, ?_, unavailable_namesAgree, Mangling.demangleInto_eq⟩
  · intro symbolizer lock
    exact namesAgree_of_appends (appends_of_linkerName fun _ _ => rfl) fun _ => rfl
  · intro answers
    exact namesAgree_of_appends (appends_of_linkerName fun _ _ => rfl) fun _ => rfl

end Backend

end Callstack
