import Callstack.Proofs.Backend
import Mathlib.Tactic.ByContra

/-!
# Which source names an address

A symbolizer has two sources of names. The debug information answers with the functions around an
address, the innermost first, and is behind a lock; the symbol table has at most one name for it.
`Selects` says which name is taken: that of the outermost function that has a name, if the lock can
be taken and the name is not empty, and in every other case that of the table.

## Main definitions

* `Debug.Answer.Outermost` — the outermost name of an answer
* `Symbolizer.Locates` — the address of the file for an address of the process
* `Symbolizer.Selects` — the linker's name that an address gets
* `Symbolizer.tableEntry?` — the entry of the symbol table alone

## Main results

* `preciseName?_eq_some_iff`, `fileAddress?_eq_some_iff`, `rawName?_eq_some_iff` — what the steps of
  a lookup find
* `backend_of_isOpen`, `lookup_held` — a lock that can be taken is as good as a free one, and
  without it the table answers
* `lookup_under_every_lock` — all of this for the entries that a lookup returns
-/

namespace Callstack

/-! ### The debug information -/

namespace Debug

/-- The name of the outermost function that has one, as far as the functions could be read. -/
inductive Answer.Outermost : Answer → List UInt8 → Prop
  | intro (inner : List (Option (List UInt8))) (name : List UInt8)
      (outer : List (Option (List UInt8))) (isComplete : Bool)
      (unnamed : ∀ function ∈ outer, function = none) :
      Outermost (.frames (inner ++ some name :: outer) isComplete) name

theorem outermost_iff {answer : Answer} {name : List UInt8} :
    answer.Outermost name ↔ ∃ names isComplete, answer = .frames names isComplete ∧
      (names.filterMap id).getLast? = some name := by
  constructor
  · rintro ⟨inner, name, outer, isComplete, unnamed⟩
    refine ⟨_, isComplete, rfl, ?_⟩
    have nothing : outer.filterMap id = [] := List.filterMap_eq_nil_iff.mpr unnamed
    have one : (some name :: outer).filterMap id = [name] := by
      rw [List.filterMap_cons, nothing]
      rfl
    rw [List.filterMap_append, one, List.getLast?_concat]
  · rintro ⟨names, isComplete, rfl, last⟩
    -- Seen from the outside, it is the first function with a name.
    rw [List.getLast?_filterMap, List.findSome?_eq_some_iff] at last
    obtain ⟨outer, function, inner, split, rfl, unnamed⟩ := last
    rw [List.reverse_eq_iff, List.reverse_append, List.reverse_cons, List.append_assoc] at split
    subst split
    exact ⟨inner.reverse, name, outer.reverse, isComplete, fun function member =>
      unnamed function (List.mem_reverse.mp member)⟩

end Debug

theorem Lock.isOpen_iff {lock : Lock} : lock.isOpen = true ↔ lock ≠ .held := by
  cases lock <;> decide

namespace Symbolizer

theorem named?_eq_some_iff {text name : String} :
    named? text = some name ↔ text = name ∧ name ≠ "" := by
  unfold named?
  by_cases isEmpty : text = ""
  · rw [if_pos (String.isEmpty_iff.mpr isEmpty)]
    constructor
    · exact fun found => nomatch found
    · rintro ⟨same, nonempty⟩
      exact absurd (same ▸ isEmpty) nonempty
  · rw [if_neg (isEmpty ∘ String.isEmpty_iff.mp), Option.some.injEq]
    exact ⟨fun same => ⟨same, same ▸ isEmpty⟩, And.left⟩

theorem preciseName?_eq_some_iff {answer : Debug.Answer} {name : String} :
    preciseName? answer = some name ↔
      ∃ bytes, answer.Outermost bytes ∧ Utf8.lossy bytes = name ∧ name ≠ "" := by
  simp only [Debug.outermost_iff]
  cases answer with
  | failed => simp [preciseName?]
  | frames names isComplete =>
    simp only [preciseName?, Option.bind_eq_some_iff, Option.map_eq_some_iff, named?_eq_some_iff]
    constructor
    · rintro ⟨text, ⟨bytes, last, rfl⟩, same, nonempty⟩
      exact ⟨bytes, ⟨names, isComplete, rfl, last⟩, same, nonempty⟩
    · rintro ⟨bytes, ⟨_, _, ⟨rfl, rfl⟩, last⟩, same, nonempty⟩
      exact ⟨_, ⟨bytes, last, rfl⟩, same, nonempty⟩

theorem preciseName?_eq_none_iff {answer : Debug.Answer} :
    preciseName? answer = none ↔ ∀ bytes, answer.Outermost bytes → Utf8.lossy bytes = "" := by
  constructor
  · intro nothing bytes outermost
    by_contra nonempty
    rw [preciseName?_eq_some_iff.mpr ⟨bytes, outermost, rfl, nonempty⟩] at nothing
    exact Option.some_ne_none _ nothing
  · intro allEmpty
    rw [Option.eq_none_iff_forall_ne_some]
    intro name found
    obtain ⟨bytes, outermost, rfl, nonempty⟩ := preciseName?_eq_some_iff.mp found
    exact nonempty (allEmpty bytes outermost)

/-! ### The selection -/

variable (symbolizer : Symbolizer)

/-- The address of the file for an address of the process, which lies in the image and not below the
bias. -/
structure Locates (address : Address) (probe : Nat) : Prop where
  /-- The address is not in front of the image. -/
  start_le : symbolizer.image.range.start ≤ address.toNat
  /-- Nor is it behind it. -/
  lt_stop : address.toNat < symbolizer.image.range.stop
  /-- The bias lies between the two addresses. -/
  eq_add : address.toNat = symbolizer.bias + probe

/-- The linker's name that an address gets, depending on the lock. -/
inductive Selects (lock : Lock) (address : Address) : String → Prop
  /-- The lock can be taken, and the debug information has a name. -/
  | precise {probe : Nat} {bytes : List UInt8} (located : symbolizer.Locates address probe)
      (isOpen : lock ≠ .held) (outermost : (symbolizer.debugInfo probe).Outermost bytes)
      (nonempty : Utf8.lossy bytes ≠ "") : Selects lock address (Utf8.lossy bytes)
  /-- The debug information cannot be asked or has no name, and the symbol table has one. -/
  | table {probe : Nat} {name : String} (located : symbolizer.Locates address probe)
      (imprecise : lock = .held ∨
        ∀ bytes, (symbolizer.debugInfo probe).Outermost bytes → Utf8.lossy bytes = "")
      (found : symbolizer.table probe = some name) (nonempty : name ≠ "") :
      Selects lock address name

variable {symbolizer} {lock : Lock} {address : Address} {name : String}

theorem fileAddress?_eq_some_iff {probe : Nat} :
    symbolizer.fileAddress? address = some probe ↔ symbolizer.Locates address probe := by
  simp only [fileAddress?, Extent.contains, Bool.and_eq_true, decide_eq_true_eq,
    Option.ite_none_right_eq_some, Option.some.injEq]
  constructor
  · rintro ⟨⟨start_le, lt_stop⟩, bias_le, rfl⟩
    exact ⟨start_le, lt_stop, (Nat.add_sub_of_le bias_le).symm⟩
  · rintro ⟨start_le, lt_stop, eq_add⟩
    exact ⟨⟨start_le, lt_stop⟩, by omega, by omega⟩

/-- The debug information comes first, if the lock can be taken, and then the symbol table. -/
theorem rawName?_eq_bind :
    symbolizer.rawName? lock address = (symbolizer.fileAddress? address).bind fun probe =>
      (if lock.isOpen then preciseName? (symbolizer.debugInfo probe) else none).or
        ((symbolizer.table probe).bind named?) := by
  unfold rawName?
  refine Option.bind_congr fun probe _ => ?_
  cases (if lock.isOpen then preciseName? (symbolizer.debugInfo probe) else none) with
  | some name => rfl
  | none => rfl

theorem rawName?_eq_some_iff :
    symbolizer.rawName? lock address = some name ↔ symbolizer.Selects lock address name := by
  simp only [rawName?_eq_bind, Option.bind_eq_some_iff, fileAddress?_eq_some_iff,
    Option.or_eq_some_iff, Option.ite_none_right_eq_some, ite_eq_right_iff, Lock.isOpen_iff,
    preciseName?_eq_some_iff, preciseName?_eq_none_iff, named?_eq_some_iff]
  constructor
  · rintro ⟨probe, located, ⟨isOpen, bytes, outermost, rfl, nonempty⟩ |
      ⟨imprecise, text, found, rfl, nonempty⟩⟩
    · exact .precise located isOpen outermost nonempty
    · refine .table located ?_ found nonempty
      by_cases isHeld : lock = .held
      · exact .inl isHeld
      · exact .inr (imprecise isHeld)
  · intro selects
    cases selects with
    | precise located isOpen outermost nonempty =>
      exact ⟨_, located, .inl ⟨isOpen, _, outermost, rfl, nonempty⟩⟩
    | table located imprecise found nonempty =>
      refine ⟨_, located, .inr ⟨fun isOpen => ?_, _, found, rfl, nonempty⟩⟩
      exact imprecise.resolve_left isOpen

theorem lookup_eq_some_iff {entry : Entry} :
    (symbolizer.backend lock).lookup address = some entry ↔
      ∃ name, symbolizer.Selects lock address name ∧ Entry.ofLinkerName name = entry := by
  change (symbolizer.rawName? lock address).map Entry.ofLinkerName = some entry ↔ _
  simp only [Option.map_eq_some_iff, rawName?_eq_some_iff]

/-- Only addresses of the file get names. -/
theorem Selects.exists_locates (selects : symbolizer.Selects lock address name) :
    ∃ probe, symbolizer.Locates address probe := by
  cases selects with
  | precise located => exact ⟨_, located⟩
  | table located => exact ⟨_, located⟩

/-- An address that the symbol table has a name for gets a name under every lock, though not always
that one. -/
theorem Selects.exists_of_held (selects : symbolizer.Selects .held address name) (lock : Lock) :
    ∃ other, symbolizer.Selects lock address other := by
  cases selects with
  | precise _ isOpen _ _ => exact absurd rfl isOpen
  | @table probe name located _ found nonempty =>
    -- The name of the table is only given up for another name.
    by_cases imprecise : lock = .held ∨
        ∀ bytes, (symbolizer.debugInfo probe).Outermost bytes → Utf8.lossy bytes = ""
    · exact ⟨name, .table located imprecise found nonempty⟩
    · push Not at imprecise
      obtain ⟨isOpen, bytes, outermost, nonempty⟩ := imprecise
      exact ⟨_, .precise located isOpen outermost nonempty⟩

/-! ### The lock -/

section Lock

variable (symbolizer : Symbolizer)

/-- It does not matter how the lock was when it was taken. -/
theorem backend_of_isOpen (isOpen : lock.isOpen = true) :
    symbolizer.backend lock = symbolizer.backend .free := by
  have same : symbolizer.rawName? lock = symbolizer.rawName? .free := by
    have free : Lock.free.isOpen = true := rfl
    funext address
    rw [rawName?_eq_bind, rawName?_eq_bind, isOpen, free]
  unfold backend writeName
  rw [same]

/-- The entry of an address according to the symbol table alone. -/
def tableEntry? (address : Address) : Option Entry := do
  let probe ← symbolizer.fileAddress? address
  let name ← symbolizer.table probe
  if name = "" then none else some (Entry.ofLinkerName name)

/-- Without the lock only the symbol table is asked. -/
theorem lookup_held : (symbolizer.backend .held).lookup = symbolizer.tableEntry? := by
  funext address
  change (symbolizer.rawName? .held address).map Entry.ofLinkerName = _
  unfold rawName? tableEntry?
  cases symbolizer.fileAddress? address with
  | none => rfl
  | some probe =>
    cases found : symbolizer.table probe with
    | none => simp [found, Lock.isOpen]
    | some name => by_cases isEmpty : name = "" <;> simp [found, Lock.isOpen, named?, isEmpty]

theorem namesAgree (lock : Lock) : (symbolizer.backend lock).NamesAgree :=
  Backend.namesAgree_of_appends (Backend.appends_of_linkerName fun _ _ => rfl) fun _ => rfl

end Lock

/-- Outside of the image and below the bias an address has no entry. Any other address has the entry
with the selected name as its linker's name, and none if no name is selected. A poisoned lock is as
good as a free one, a held one leaves the symbol table, and an address that has an entry under a
held lock has one under a free lock too. -/
theorem lookup_under_every_lock (symbolizer : Symbolizer) (address : Address) :
    (address.toNat < symbolizer.image.range.start ∨ symbolizer.image.range.stop ≤ address.toNat ∨
        address.toNat < symbolizer.bias →
          ∀ lock, (symbolizer.backend lock).lookup address = none) ∧
      (∀ lock entry, (symbolizer.backend lock).lookup address = some entry ↔
        ∃ name, symbolizer.Selects lock address name ∧ Entry.ofLinkerName name = entry ∧
          entry.linkerName = name) ∧
      symbolizer.backend .poisoned = symbolizer.backend .free ∧
      (symbolizer.backend .held).lookup address = symbolizer.tableEntry? address ∧
      (((symbolizer.backend .held).lookup address).isSome = true →
        ((symbolizer.backend .free).lookup address).isSome = true) := by
  refine ⟨?outside, ?entries, symbolizer.backend_of_isOpen rfl,
    congrFun symbolizer.lookup_held address, ?free⟩
  case outside =>
    -- An entry would have a name, and a name a place in the file.
    intro outside lock
    rw [Option.eq_none_iff_forall_ne_some]
    intro entry found
    obtain ⟨name, selects, -⟩ := lookup_eq_some_iff.mp found
    obtain ⟨probe, start_le, lt_stop, eq_add⟩ := selects.exists_locates
    omega
  case entries =>
    intro lock entry
    rw [lookup_eq_some_iff]
    constructor
    · rintro ⟨name, selects, rfl⟩
      exact ⟨name, selects, rfl, rfl⟩
    · rintro ⟨name, selects, isEntry, -⟩
      exact ⟨name, selects, isEntry⟩
  case free =>
    intro held
    obtain ⟨entry, found⟩ := Option.isSome_iff_exists.mp held
    obtain ⟨name, selects, -⟩ := lookup_eq_some_iff.mp found
    obtain ⟨other, selectsFree⟩ := selects.exists_of_held .free
    exact Option.isSome_iff_exists.mpr ⟨_, lookup_eq_some_iff.mpr ⟨other, selectsFree, rfl⟩⟩

/-- A symbolizer for one page, where the outermost function at an address has no name and an error
follows it. -/
def inlined : Symbolizer where
  image := ⟨⟨0x5000, 0x6000⟩, 0x5000⟩
  bias := 0x5000
  debugInfo _ := .frames [some [0x69, 0x6e], some [0x6f, 0x75, 0x74], none] false
  table _ := some "code"

/-- The caller of the inlined function is named, and under a held lock the symbol that the table
has. The first address behind the page has no entry. -/
theorem lookup_under_every_lock_inlined :
    inlined.image.range.stop ≤ (⟨0x6000⟩ : Address).toNat ∧
      (inlined.backend .poisoned).lookup ⟨0x6000⟩ = none ∧
      (inlined.backend .poisoned).lookup ⟨0x5fff⟩ = some (Entry.ofLinkerName "out") ∧
      (inlined.backend .held).lookup ⟨0x5fff⟩ = some (Entry.ofLinkerName "code") ∧
      ((inlined.backend .poisoned).lookup ⟨0x5fff⟩).map Entry.linkerName = some "out" ∧
      ((inlined.backend .free).lookup ⟨0x5fff⟩).isSome = true := by
  have behind : inlined.image.range.stop ≤ (⟨0x6000⟩ : Address).toNat := by decide
  have located : inlined.Locates ⟨0x5fff⟩ 0xfff := ⟨by decide, by decide, by decide⟩
  have outermost : (inlined.debugInfo 0xfff).Outermost [0x6f, 0x75, 0x74] :=
    .intro [some [0x69, 0x6e]] [0x6f, 0x75, 0x74] [none] false (by decide)
  have text : Utf8.lossy [0x6f, 0x75, 0x74] = "out" := by decide +kernel
  obtain ⟨outside, -⟩ := lookup_under_every_lock inlined ⟨0x6000⟩
  obtain ⟨-, entries, -, -, free⟩ := lookup_under_every_lock inlined ⟨0x5fff⟩
  have selectsOut : inlined.Selects .poisoned ⟨0x5fff⟩ "out" :=
    text ▸ .precise located (by decide) outermost (by rw [text]; decide)
  have selectsCode : inlined.Selects .held ⟨0x5fff⟩ "code" :=
    .table located (.inl rfl) rfl (by decide)
  have poisoned := (entries .poisoned _).mpr ⟨"out", selectsOut, rfl, rfl⟩
  have held := (entries .held _).mpr ⟨"code", selectsCode, rfl, rfl⟩
  refine ⟨behind, outside (.inr (.inl behind)) .poisoned, poisoned, held, ?_, free ?_⟩
  · rw [poisoned]
    rfl
  · rw [held]
    rfl

end Symbolizer

end Callstack
