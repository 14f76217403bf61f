import Callstack.Names
import Callstack.Proofs.Cutting

/-!
# Names in one text

The names of a batch lie one behind the other in a shared text, and every address has the byte
range of its name. `Holds` says which entries a batch consists of: it determines the text and all
ranges. Looking up a range then gives back the entry, because what stands in front of a name has as
many bytes as the range says.

A writer is only ever asked to append, so it is described by the text that it appends and by whether
it calls that a name. What it appends without calling it a name is cut off again.

## Main definitions

* `NameWriter.Appends` — a writer that appends a fixed text
* `Names.entry` — what is recorded of a writer
* `Names.AddsName` — a call that adds a name
* `Names.Holds` — a batch of names with the given entries

## Main results

* `recordBy_of_addsName`, `recordBy_of_not_addsName` — the two outcomes of a call, however a text is
  cut back
* `Holds.get?_eq`, `Holds.size_eq` — what is read from a batch
* `Holds.record` — one more writer is one more entry
* `holds_ofWriters` — a whole batch has the entries of its writers
-/

namespace Callstack

/-- A writer that appends `name` whatever the text is, and says whether that is a name. -/
def NameWriter.Appends (write : NameWriter) (isKnown : Bool) (name : String) : Prop :=
  ∀ text, write text = (isKnown, text ++ name)

namespace Names

/-- The characters of all entries. -/
def joined (entries : List (Option String)) : List Char :=
  entries.flatMap fun entry => (entry.getD "").toList

/-- The byte ranges of entries that follow each other, the first one from byte `start`. -/
def spansFrom (start : Nat) : List (Option String) → List (Option (Nat × Nat))
  | [] => []
  | none :: rest => none :: spansFrom start rest
  | some name :: rest =>
    some (start, start + Utf8.size name.toList) :: spansFrom (start + Utf8.size name.toList) rest

/-- What is recorded of a writer that appends `name`. An empty name counts as none. -/
def entry (isKnown : Bool) (name : String) : Option String :=
  if isKnown ∧ name ≠ "" then some name else none

/-- A batch of names with the given entries. -/
structure Holds (names : Names) (entries : List (Option String)) : Prop where
  /-- The text consists of the entries. -/
  text_eq : names.text.toList = joined entries
  /-- The ranges are those of the entries. -/
  spans_eq : names.spans.toList = spansFrom 0 entries

@[simp] theorem joined_append (a b : List (Option String)) :
    joined (a ++ b) = joined a ++ joined b := by
  simp [joined]

@[simp] theorem joined_cons (entry : Option String) (rest : List (Option String)) :
    joined (entry :: rest) = (entry.getD "").toList ++ joined rest := by
  simp [joined]

@[simp] theorem length_spansFrom (start : Nat) (entries : List (Option String)) :
    (spansFrom start entries).length = entries.length := by
  induction entries generalizing start with
  | nil => rfl
  | cons entry rest ih => cases entry <;> simp [spansFrom, ih]

theorem spansFrom_append (start : Nat) (a b : List (Option String)) :
    spansFrom start (a ++ b) = spansFrom start a ++ spansFrom (start + Utf8.size (joined a)) b := by
  induction a generalizing start with
  | nil => simp [spansFrom, joined]
  | cons entry rest ih => cases entry <;> simp [spansFrom, ih, Nat.add_assoc]

/-- A range begins behind all earlier entries. -/
theorem spansFrom_getElem? (start : Nat) (entries : List (Option String)) (i : Nat) :
    (spansFrom start entries)[i]? = entries[i]?.map fun entry =>
      entry.map fun name =>
        let before := start + Utf8.size (joined (entries.take i))
        (before, before + Utf8.size name.toList) := by
  induction entries generalizing start i with
  | nil => simp [spansFrom]
  | cons entry rest ih =>
    cases i with
    | zero => cases entry <;> simp [spansFrom, joined]
    | succ i => cases entry <;> simp [spansFrom, ih, Nat.add_assoc]

theorem entry_eq_filter (answer : Option String) :
    entry answer.isSome (answer.getD "") = answer.filter (· ≠ "") := by
  cases answer with
  | none => simp [entry]
  | some name => simp [entry, Option.filter_some]

/-- A call adds a name: the writer knows one, and the text has become longer. -/
def AddsName (names : Names) (write : NameWriter) : Prop :=
  (write names.text).1 = true ∧
    Utf8.size names.text.toList < Utf8.size (write names.text).2.toList

instance (names : Names) (write : NameWriter) : Decidable (names.AddsName write) :=
  inferInstanceAs (Decidable (_ ∧ _))

section RecordBy

variable {m : Type → Type} [Monad m] (cutBack : Nat → List Char → m (List Char)) {names : Names}
  {write : NameWriter}

/-- A name is kept, and its range recorded. -/
theorem recordBy_of_addsName (adds : names.AddsName write) :
    names.recordBy cutBack write = pure ⟨(write names.text).2, names.spans.push
      (some (Utf8.size names.text.toList, Utf8.size (write names.text).2.toList))⟩ := by
  simp [recordBy, adds.1, adds.2]

/-- After a call that adds none, the text is cut back to the size that it had. -/
theorem recordBy_of_not_addsName (none : ¬names.AddsName write) :
    names.recordBy cutBack write =
      cutBack (Utf8.size names.text.toList) (write names.text).2.toList >>= fun kept =>
        pure ⟨String.ofList kept, names.spans.push .none⟩ := by
  unfold AddsName at none
  simp [recordBy, none]

end RecordBy

section Record

variable {names : Names} {write : NameWriter} {isKnown : Bool} {name : String}

theorem record_of_addsName (adds : names.AddsName write) :
    names.record write = ⟨(write names.text).2, names.spans.push
      (some (Utf8.size names.text.toList, Utf8.size (write names.text).2.toList))⟩ := by
  rw [record, recordBy_of_addsName _ adds]
  rfl

/-- What is left without a name is what fits into the size that the text had. -/
theorem record_of_not_addsName (none : ¬names.AddsName write) :
    names.record write =
      ⟨String.ofList (Utf8.fit (Utf8.size names.text.toList) (write names.text).2.toList),
        names.spans.push .none⟩ := by
  rw [record, recordBy_of_not_addsName _ none]
  rfl

theorem record_of_name (written : write names.text = (true, names.text ++ name))
    (nonempty : name ≠ "") :
    names.record write =
      ⟨names.text ++ name, names.spans.push (some (Utf8.size names.text.toList,
        Utf8.size names.text.toList + Utf8.size name.toList))⟩ := by
  have positive : 0 < Utf8.size name.toList := Utf8.size_pos_iff.mpr (by simpa using nonempty)
  have size_eq : Utf8.size (write names.text).2.toList =
      Utf8.size names.text.toList + Utf8.size name.toList := by
    rw [written, String.toList_append, Utf8.size_append]
  have adds : names.AddsName write := ⟨by rw [written], by omega⟩
  rw [record_of_addsName adds, size_eq, written]

/-- What a writer without a name has appended is cut off. -/
theorem record_of_no_name (written : write names.text = (isKnown, names.text ++ name))
    (nothing : entry isKnown name = none) :
    names.record write = ⟨names.text, names.spans.push none⟩ := by
  have none : ¬names.AddsName write := by
    rw [AddsName, written, String.toList_append, Utf8.size_append]
    rintro ⟨known, longer⟩
    have nonempty : name ≠ "" := by
      rintro rfl
      exact absurd longer (Nat.lt_irrefl _)
    rw [entry, if_pos ⟨known, nonempty⟩] at nothing
    exact Option.some_ne_none _ nothing
  rw [record_of_not_addsName none, written, String.toList_append, Utf8.fit_size_append,
    String.ofList_toList]

end Record

theorem holds_empty : empty.Holds [] where
  text_eq := rfl
  spans_eq := rfl

theorem holds_unknown (count : Nat) : (unknown count).Holds (List.replicate count none) where
  text_eq := by simp [unknown, joined]
  spans_eq := by
    have spans (start : Nat) : spansFrom start (List.replicate count none) =
        List.replicate count none := by
      induction count with
      | zero => rfl
      | succ count ih => simp [List.replicate_succ, spansFrom, ih]
    simp [unknown, spans]

namespace Holds

variable {names : Names} {entries : List (Option String)}

theorem size_eq (h : names.Holds entries) : names.size = entries.length := by
  rw [size, ← Array.length_toList, h.spans_eq, length_spansFrom]

/-- What is read at an index is the entry there. -/
theorem get?_eq (h : names.Holds entries) (i : Nat) : names.get? i = entries[i]?.join := by
  have span : names.spans[i]? = (spansFrom 0 entries)[i]? := by
    rw [← h.spans_eq, Array.getElem?_toList]
  rw [spansFrom_getElem?] at span
  cases found : entries[i]? with
  | none =>
    rw [found] at span
    simp [get?, span]
  | some entry =>
    cases entry with
    | none =>
      rw [found] at span
      simp [get?, span]
    | some name =>
      obtain ⟨bound, atIndex⟩ := List.getElem?_eq_some_iff.mp found
      -- The name stands behind all earlier entries, which is where its range begins.
      have parts : names.text.toList =
          joined (entries.take i) ++ (name.toList ++ joined (entries.drop (i + 1))) := by
        calc names.text.toList = joined (entries.take i ++ entries.drop i) := by
              rw [h.text_eq, List.take_append_drop]
          _ = joined (entries.take i) ++ (name.toList ++ joined (entries.drop (i + 1))) := by
              rw [joined_append, List.drop_eq_getElem_cons bound, atIndex, joined_cons]
              rfl
      rw [found] at span
      simp [get?, span, parts, Utf8.slice?_append]

/-- One more writer is one more entry, whatever has been recorded before. -/
theorem record (h : names.Holds entries) {write : NameWriter} {isKnown : Bool} {name : String}
    (appends : write.Appends isKnown name) :
    (names.record write).Holds (entries ++ [entry isKnown name]) := by
  have written := appends names.text
  cases isEntry : entry isKnown name with
  | none =>
    rw [record_of_no_name written isEntry]
    constructor
    · simp [h.text_eq, joined]
    · simp [h.spans_eq, spansFrom_append, spansFrom]
  | some other =>
    simp only [entry, Option.ite_none_right_eq_some, Option.some.injEq] at isEntry
    obtain ⟨⟨rfl, nonempty⟩, rfl⟩ := isEntry
    rw [record_of_name written nonempty]
    constructor
    · simp [h.text_eq, joined]
    · simp [h.spans_eq, h.text_eq, spansFrom_append, spansFrom]

end Holds

/-- A batch has the entries of its writers. -/
theorem holds_ofWriters {α : Type} {write : α → NameWriter} {isKnown : α → Bool} {name : α → String}
    (appends : ∀ a, (write a).Appends (isKnown a) (name a)) (list : List α) :
    (ofWriters (list.map write)).Holds (list.map fun a => entry (isKnown a) (name a)) := by
  have later (names : Names) (entries : List (Option String)) (holds : names.Holds entries) :
      ((list.map write).foldl Names.record names).Holds
        (entries ++ list.map fun a => entry (isKnown a) (name a)) := by
    induction list generalizing names entries with
    | nil => simpa using holds
    | cons a rest ih => simpa using ih _ _ (holds.record (appends a))
  exact later empty [] holds_empty

end Names

end Callstack
