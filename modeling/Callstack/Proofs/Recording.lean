import Callstack.Proofs.Names

/-!
# Recording what scripts write

A writer gets the text of a batch to write on. Nothing but good manners keeps it from cutting the
text first. A script says what a writer does in one call: up to where it keeps the text, which
pieces it appends, and whether it calls that a name.

Cutting the text back after a call without a name is a fault if the cut would be inside a character.
The faults do not show in the result of recording, which takes what fits, so the text is also cut
back in a way in which they do. Scripts that only append do not lead to faults, and what is
recorded of them is the list of their names.

## Main definitions

* `Script`, `Script.writer` — what a writer does in one call
* `Names.recordChecked?`, `Names.recordAll?` — recording with faults, once and many times

## Main results

* `eq_record_of_recordChecked?`, `recordChecked?_eq_none_iff` — what faults have to do with
  recording
* `eq_foldl_of_recordAll?` — a run without faults records one script after the other
* `recordAll?_of_appendOnly` — scripts that only append never lead to faults
* `appendOnly_faithful` — their names are read back, whatever is recorded before and behind
-/

namespace Callstack

/-- What a writer does with a text in one call. -/
structure Script where
  /-- The byte at which the text is cut, or `none` if it is kept. Inside a character this is the
  same as in front of the character. -/
  cut : Option Nat
  /-- What is appended, in order. -/
  pieces : List String
  /-- Whether what was written is called a name. -/
  isKnown : Bool
  deriving DecidableEq, Repr

namespace Script

variable (script : Script)

/-- The part of a text that is kept. -/
def kept (text : List Char) : List Char :=
  match script.cut with
  | none => text
  | some offset => Utf8.fit offset text

/-- All that is appended. -/
def added : String := String.join script.pieces

/-- The writer that runs a script. -/
def writer : NameWriter := fun text =>
  (script.isKnown, script.pieces.foldl (· ++ ·) (String.ofList (script.kept text.toList)))

/-- What is recorded of a script that only appends. -/
def entry : Option String := Names.entry script.isKnown script.added

theorem foldl_append_eq (pieces : List String) (held : String) :
    pieces.foldl (· ++ ·) held = held ++ String.join pieces := by
  induction pieces generalizing held with
  | nil => simp
  | cons piece rest ih => rw [List.foldl_cons, ih, String.join_cons, String.append_assoc]

theorem writer_eq (text : String) :
    script.writer text =
      (script.isKnown, String.ofList (script.kept text.toList) ++ script.added) := by
  rw [writer, foldl_append_eq]
  rfl

theorem kept_isPrefix (text : List Char) : script.kept text <+: text := by
  unfold kept
  cases script.cut with
  | none => exact List.prefix_rfl
  | some offset => exact Utf8.fit_isPrefix offset text

/-- A script without a cut is a writer that appends. -/
theorem writer_appends (keepsAll : script.cut = none) :
    script.writer.Appends script.isKnown script.added := by
  intro text
  rw [writer_eq, kept, keepsAll, String.ofList_toList]

end Script

namespace Names

/-- Add the next name, where it is a fault to cut the text back inside a character. -/
def recordChecked? (names : Names) (write : NameWriter) : Option Names :=
  names.recordBy Utf8.truncate? write

/-- Record what scripts write, one after the other. -/
def recordAll? (names : Names) (scripts : List Script) : Option Names :=
  scripts.foldlM (fun names script => names.recordChecked? script.writer) names

section Checked

variable {names next : Names} {write : NameWriter}

/-- Without a fault the result is that of recording. -/
theorem eq_record_of_recordChecked? (recorded : names.recordChecked? write = some next) :
    next = names.record write := by
  unfold recordChecked? at recorded
  by_cases adds : names.AddsName write
  · rw [recordBy_of_addsName _ adds] at recorded
    rw [record_of_addsName adds]
    exact (Option.some.inj recorded).symm
  · -- A cut between two characters leaves the longest beginning that fits.
    rw [recordBy_of_not_addsName _ adds] at recorded
    obtain ⟨kept, cut, same⟩ := Option.bind_eq_some_iff.mp recorded
    rw [record_of_not_addsName adds, ← Utf8.eq_fit_of_truncate? cut]
    exact (Option.some.inj same).symm

/-- The faults are the calls without a name after which a longer text has a character across the
former end. -/
theorem recordChecked?_eq_none_iff :
    names.recordChecked? write = none ↔
      let start := Utf8.size names.text.toList
      let text := (write names.text).2.toList
      (write names.text).1 = false ∧ start < Utf8.size text ∧
        ∀ beginning, beginning <+: text → Utf8.size beginning ≠ start := by
  unfold recordChecked?
  by_cases adds : names.AddsName write
  · rw [recordBy_of_addsName _ adds]
    simp [adds.1]
  · rw [recordBy_of_not_addsName _ adds]
    simp only [Option.bind_eq_bind, Option.bind_eq_none_iff, Option.pure_def, reduceCtorEq,
      imp_false, ← Option.eq_none_iff_forall_ne_some, Utf8.truncate?_eq_none_iff]
    constructor
    · rintro ⟨longer, across⟩
      exact ⟨Bool.eq_false_iff.mpr fun isKnown => adds ⟨isKnown, longer⟩, longer, across⟩
    · rintro ⟨-, longer, across⟩
      exact ⟨longer, across⟩

/-- It is no fault to cut off what was just appended. -/
theorem recordChecked?_of_appends {isKnown : Bool} {name : String}
    (appends : write.Appends isKnown name) :
    names.recordChecked? write = some (names.record write) := by
  cases recorded : names.recordChecked? write with
  | some next => rw [eq_record_of_recordChecked? recorded]
  | none =>
    -- What was there before ends between two characters.
    obtain ⟨-, -, across⟩ := recordChecked?_eq_none_iff.mp recorded
    rw [appends, String.toList_append] at across
    exact absurd rfl (across names.text.toList (List.prefix_append _ _))

end Checked

/-! ### Scripts one after the other -/

section Scripts

variable {names last : Names} {entries : List (Option String)} {script : Script}
  {front back scripts : List Script}

@[simp] theorem recordAll?_nil : names.recordAll? [] = some names := rfl

@[simp] theorem recordAll?_cons :
    names.recordAll? (script :: scripts) =
      (names.recordChecked? script.writer).bind fun next => next.recordAll? scripts := rfl

theorem recordAll?_append :
    names.recordAll? (front ++ back) =
      (names.recordAll? front).bind fun next => next.recordAll? back := by
  rw [recordAll?, List.foldlM_append]
  rfl

/-- Without a fault the result of a run is that of recording its scripts one after the other. -/
theorem eq_foldl_of_recordAll? (run : names.recordAll? scripts = some last) :
    last = (scripts.map Script.writer).foldl record names := by
  induction scripts generalizing names with
  | nil => exact (Option.some.inj run).symm
  | cons script rest ih =>
    obtain ⟨next, recorded, run⟩ := Option.bind_eq_some_iff.mp run
    rw [List.map_cons, List.foldl_cons, ← eq_record_of_recordChecked? recorded]
    exact ih run

/-- Scripts that only append never lead to faults, and add their entries. -/
theorem recordAll?_of_appendOnly (holds : names.Holds entries)
    (appendOnly : ∀ script ∈ scripts, script.cut = none) :
    ∃ last, names.recordAll? scripts = some last ∧
      last.Holds (entries ++ scripts.map Script.entry) := by
  induction scripts generalizing names entries with
  | nil => exact ⟨names, rfl, by simpa using holds⟩
  | cons script rest ih =>
    rw [List.forall_mem_cons] at appendOnly
    have appends := script.writer_appends appendOnly.1
    -- The other scripts find a batch that holds one entry more.
    obtain ⟨last, recorded, lastHolds⟩ := ih (holds.record appends) appendOnly.2
    refine ⟨last, ?_, ?_⟩
    · rw [recordAll?_cons, recordChecked?_of_appends appends, Option.bind_some, recorded]
    · rw [List.append_assoc] at lastHolds
      exact lastHolds

end Scripts

/-- All names of a batch are its entries. -/
theorem Holds.toList_eq {names : Names} {entries : List (Option String)}
    (holds : names.Holds entries) : names.toList = entries := by
  apply List.ext_getElem?
  intro i
  rw [toList, List.getElem?_map, holds.size_eq]
  by_cases inside : i < entries.length
  · rw [List.getElem?_range inside, Option.map_some, holds.get?_eq,
      List.getElem?_eq_getElem inside, Option.join_some]
  · rw [List.getElem?_eq_none (by simpa using inside),
      List.getElem?_eq_none (by simpa using inside)]
    rfl

/-- The characters of all entries are those of the names among them. -/
theorem joined_eq (entries : List (Option String)) :
    joined entries = (String.join (entries.filterMap id)).toList := by
  induction entries with
  | nil => rfl
  | cons entry rest ih =>
    cases entry with
    | none => simpa [joined] using ih
    | some name => simp [ih]

/-- Writers that only append are recorded faithfully. There is one entry for each of them: what it
has appended, if it calls that a name and it is not empty. The text consists of these names, and
later calls change no entry. -/
theorem appendOnly_faithful {scripts : List Script}
    (appendOnly : ∀ script ∈ scripts, script.cut = none) :
    ∃ names, empty.recordAll? scripts = some names ∧
      names = ofWriters (scripts.map Script.writer) ∧
      names.size = scripts.length ∧
      (∀ j script, scripts[j]? = some script →
        names.get? j = if script.isKnown = true ∧ String.join script.pieces ≠ "" then
          some (String.join script.pieces) else none) ∧
      (∀ j, scripts.length ≤ j → names.get? j = none) ∧
      names.toList = scripts.map Script.entry ∧
      names.text = String.join (scripts.filterMap Script.entry) ∧
      ∀ later : List Script, (∀ script ∈ later, script.cut = none) →
        ∃ more, names.recordAll? later = some more ∧
          ∀ j, j < scripts.length → more.get? j = names.get? j := by
  obtain ⟨names, recorded, holds⟩ := recordAll?_of_appendOnly holds_empty appendOnly
  rw [List.nil_append] at holds
  refine ⟨names, recorded, eq_foldl_of_recordAll? recorded, ?size, ?entries, ?behind,
    holds.toList_eq, ?text, ?later⟩
  case size => rw [holds.size_eq, List.length_map]
  case entries =>
    intro j script atIndex
    rw [holds.get?_eq, List.getElem?_map, atIndex]
    rfl
  case behind =>
    intro j behind
    rw [holds.get?_eq, List.getElem?_eq_none (by simpa using behind)]
    rfl
  case text =>
    rw [← String.toList_inj, holds.text_eq, joined_eq, List.filterMap_map]
    rfl
  case later =>
    intro later laterAppendOnly
    obtain ⟨more, moreRecorded, moreHolds⟩ := recordAll?_of_appendOnly holds laterAppendOnly
    refine ⟨more, moreRecorded, ?_⟩
    intro j inside
    rw [moreHolds.get?_eq, holds.get?_eq, List.getElem?_append_left (by simpa using inside)]

/-- Scripts of which the second one fails halfway through and the third one writes nothing. -/
def politeScripts : List Script :=
  [⟨none, ["é", "x"], true⟩, ⟨none, ["ü", "y"], false⟩, ⟨none, [""], true⟩, ⟨none, ["n"], true⟩]

theorem appendOnly_faithful_politeScripts :
    (∀ script ∈ politeScripts, script.cut = none) ∧
      ∃ names, empty.recordAll? politeScripts = some names ∧ names.size = 4 ∧
        names.toList = [some "éx", none, none, some "n"] ∧ names.text = "éxn" ∧
        names.get? 1 = none ∧ names.get? 3 = some "n" ∧ names.get? 4 = none := by
  have appendOnly : ∀ script ∈ politeScripts, script.cut = none := by decide
  obtain ⟨names, recorded, -, size, entries, behind, list, text, -⟩ :=
    appendOnly_faithful appendOnly
  refine ⟨appendOnly, names, recorded, size, ?_, ?_, entries 1 _ rfl, ?_, behind 4 (by decide)⟩
  · rw [list]
    decide +kernel
  · rw [text]
    decide +kernel
  · rw [entries 3 _ rfl]
    decide +kernel

end Names

end Callstack
