import Callstack.Proofs.Recording

/-!
# Damage by scripts that cut

A script may cut the text of a batch before it appends. Names that were recorded earlier may lose
characters by that, and a new range may begin in the middle of an old one, or in the middle of a
character. What is read from a batch is still exact: the part of the current text between the
offsets of a range, or nothing if they are not between characters.

A name is safe from all scripts that keep the text up to its end. Recording itself cuts the text
back after a call without a name, to where the text ended before the call. That is never in front of
the end of an earlier name that is safe so far, even if the text has become shorter in between.

## Main definitions

* `Names.Reads` — what lies between two offsets of the text of a batch
* `Names.NeverCutsBelow` — no script of a run leaves less than a number of bytes

## Main results

* `get?_eq_some_iff` — a name is what lies between the offsets of its range
* `isPrefix_record`, `isPrefix_recordAll` — what survives one call, and many
* `recordAll?_confines` — one more entry for each call, and no damage to names that are not cut
-/

namespace Callstack.Names

/-- The part of the text from one byte up to, but not including, another one. -/
def Reads (names : Names) (start stop : Nat) (part : String) : Prop :=
  ∃ before after, names.text = before ++ part ++ after ∧
    Utf8.size before.toList = start ∧ start + Utf8.size part.toList = stop

/-- Every script of a run leaves at least the first `room` bytes of the text that it finds. -/
def NeverCutsBelow (room : Nat) : Names → List Script → Prop
  | _, [] => True
  | names, script :: rest =>
    room ≤ Utf8.size (script.kept names.text.toList) ∧
      NeverCutsBelow room (names.record script.writer) rest

instance decidableNeverCutsBelow (room : Nat) :
    (names : Names) → (scripts : List Script) → Decidable (NeverCutsBelow room names scripts)
  | _, [] => .isTrue trivial
  | names, script :: rest =>
    have := decidableNeverCutsBelow room (names.record script.writer) rest
    inferInstanceAs (Decidable (_ ∧ _))

variable {names next last : Names} {script : Script} {scripts : List Script} {front : List Char}
  {i start stop : Nat} {name : String}

theorem slice?_eq_some_iff_reads :
    Utf8.slice? start stop names.text.toList = some name.toList ↔ names.Reads start stop name := by
  rw [Utf8.slice?_eq_some_iff]
  constructor
  · rintro ⟨before, after, whole, before_size, part_size⟩
    refine ⟨String.ofList before, String.ofList after, ?_, ?_, part_size⟩
    · rw [← String.toList_inj, whole]
      simp
    · rw [String.toList_ofList, before_size]
  · rintro ⟨before, after, whole, before_size, part_size⟩
    refine ⟨before.toList, after.toList, ?_, before_size, part_size⟩
    rw [whole, String.toList_append, String.toList_append]

/-- A name is what lies between the offsets of its range. -/
theorem get?_eq_some_iff :
    names.get? i = some name ↔
      ∃ start stop, names.spans[i]? = some (some (start, stop)) ∧ names.Reads start stop name := by
  simp only [← slice?_eq_some_iff_reads, get?, Option.bind_eq_bind, Option.bind_eq_some_iff,
    Option.pure_def, Option.some.injEq]
  constructor
  · rintro ⟨_, found, ⟨start, stop⟩, rfl, part, isPart, rfl⟩
    exact ⟨start, stop, found, by rw [String.toList_ofList, isPart]⟩
  · rintro ⟨start, stop, found, isPart⟩
    exact ⟨_, found, _, rfl, _, isPart, String.ofList_toList⟩

/-- If a range is within a text that has only grown behind, the name is the same. -/
theorem get?_of_isPrefix (grown : next.text.toList <+: last.text.toList)
    (found : next.spans[i]? = some (some (start, stop)))
    (same : last.spans[i]? = next.spans[i]?) (inside : stop ≤ Utf8.size next.text.toList) :
    last.get? i = next.get? i := by
  obtain ⟨rest, whole⟩ := grown
  have slices : Utf8.slice? start stop last.text.toList =
      Utf8.slice? start stop next.text.toList := by
    rw [← whole, Utf8.slice?_append_of_le inside]
  simp [get?, same, found, slices]

/-! ### One call -/

section Call

variable (names script)

/-- A call adds one range behind those that are there: from the end of the text before the call to
its end after the call, if that adds a name. -/
theorem spans_record (write : NameWriter) :
    (names.record write).spans = names.spans.push
      (if names.AddsName write then
        some (Utf8.size names.text.toList, Utf8.size (write names.text).2.toList) else none) := by
  split_ifs with adds
  · rw [record_of_addsName adds]
  · rw [record_of_not_addsName adds]

theorem getElem?_spans_record (write : NameWriter) (earlier : i < names.size) :
    (names.record write).spans[i]? = names.spans[i]? := by
  rw [spans_record]
  exact Array.getElem?_push_lt earlier ▸ (Array.getElem?_eq_getElem earlier).symm

/-- A range that was just recorded ends with the text. -/
theorem stop_eq_size_of_record {write : NameWriter}
    (found : (names.record write).spans[names.size]? = some (some (start, stop))) :
    stop = Utf8.size (names.record write).text.toList := by
  rw [spans_record, size, Array.getElem?_push_size, Option.some.injEq] at found
  split_ifs at found with adds
  cases found
  rw [record_of_addsName adds]

variable {names script}

/-- A beginning of the text survives a call that keeps as many bytes. Even if the call leaves the
text shorter than it was, cutting back takes nothing from the beginning. -/
theorem isPrefix_record (isBeginning : front <+: names.text.toList)
    (keeps : Utf8.size front ≤ Utf8.size (script.kept names.text.toList)) :
    front <+: (names.record script.writer).text.toList := by
  have inKept : front <+: script.kept names.text.toList :=
    Utf8.prefix_of_size_le isBeginning (script.kept_isPrefix _) keeps
  have inWritten : front <+: (script.writer names.text).2.toList := by
    rw [Script.writer_eq, String.toList_append, String.toList_ofList]
    exact inKept.trans (List.prefix_append _ _)
  by_cases adds : names.AddsName script.writer
  · rw [record_of_addsName adds]
    exact inWritten
  · -- The text is cut back to its former length, and the beginning is not longer than that.
    rw [record_of_not_addsName adds, String.toList_ofList]
    exact Utf8.prefix_fit inWritten (Utf8.size_le_of_isPrefix isBeginning)

end Call

/-! ### Many calls -/

/-- What survives every single call survives a run, and earlier ranges stay as they are. -/
theorem isPrefix_recordAll (run : names.recordAll? scripts = some last) :
    last.size = names.size + scripts.length ∧
      (∀ i, i < names.size → last.spans[i]? = names.spans[i]?) ∧
      ∀ front, front <+: names.text.toList → names.NeverCutsBelow (Utf8.size front) scripts →
        front <+: last.text.toList := by
  -- Each call leaves another batch for those behind it, so the induction is over any batch.
  induction scripts generalizing names with
  | nil =>
    cases run
    exact ⟨rfl, fun _ _ => rfl, fun _ isBeginning _ => isBeginning⟩
  | cons script rest ih =>
    obtain ⟨next, recorded, run⟩ := Option.bind_eq_some_iff.mp run
    obtain rfl := eq_record_of_recordChecked? recorded
    obtain ⟨size_eq, sameSpans, survives⟩ := ih run
    rw [size_record] at size_eq sameSpans
    -- What the first call keeps is a beginning of the text that the other calls find.
    refine ⟨?_, ?_, ?_⟩
    · rw [size_eq, List.length_cons]
      omega
    · intro i earlier
      rw [sameSpans i (Nat.lt_succ_of_lt earlier), getElem?_spans_record names _ earlier]
    · rintro front isBeginning ⟨keeps, later⟩
      exact survives front (isPrefix_record isBeginning keeps) later

/-- However scripts cut the text, recording one of them adds one entry. A name is exactly what the
text has between the offsets that were recorded, if these are between characters, and it stays what
it was right after it was recorded as long as no script cuts the text in front of its end. -/
theorem recordAll?_confines {before later : List Script}
    (run : empty.recordAll? (before ++ script :: later) = some last) :
    ∃ names next, empty.recordAll? before = some names ∧
      names = ofWriters (before.map Script.writer) ∧
      names.recordChecked? script.writer = some next ∧ next = names.record script.writer ∧
      next.recordAll? later = some last ∧
      last = (later.map Script.writer).foldl record next ∧
      names.size = before.length ∧ next.size = names.size + 1 ∧
      (∀ i name, next.get? i = some name ↔
        ∃ start stop, next.spans[i]? = some (some (start, stop)) ∧ next.Reads start stop name) ∧
      last.spans[names.size]? = next.spans[names.size]? ∧
      ∀ start stop, next.spans[names.size]? = some (some (start, stop)) →
        next.NeverCutsBelow stop later → last.get? names.size = next.get? names.size := by
  rw [recordAll?_append] at run
  obtain ⟨names, runBefore, run⟩ := Option.bind_eq_some_iff.mp run
  obtain ⟨next, recorded, runLater⟩ := Option.bind_eq_some_iff.mp run
  obtain ⟨size_eq, -, -⟩ := isPrefix_recordAll runBefore
  obtain ⟨-, sameSpans, survives⟩ := isPrefix_recordAll runLater
  obtain rfl := eq_record_of_recordChecked? recorded
  have same := sameSpans names.size (by rw [size_record]; exact Nat.lt_succ_self _)
  refine ⟨names, _, runBefore, eq_foldl_of_recordAll? runBefore, recorded, rfl, runLater,
    eq_foldl_of_recordAll? runLater, ?_, size_record _ _, fun i name => get?_eq_some_iff, same, ?_⟩
  · rw [size_eq]
    exact Nat.zero_add _
  · intro start stop found never
    -- The range ends with the text, so that the whole text is what must survive.
    have ends := stop_eq_size_of_record names found
    rw [ends] at never
    exact get?_of_isPrefix (survives _ List.prefix_rfl never) found same (Nat.le_of_eq ends)

/-- Scripts that cut the text at byte five. The second one fails behind the cut, so that what it has
written stays, and the range of the third one begins inside a character. -/
def rudeScripts : List Script :=
  [⟨none, ["dü"], true⟩, ⟨some 5, ["x"], false⟩, ⟨some 5, ["éé"], true⟩]

/-- The name that ends at byte five is not damaged, the one behind it is. -/
theorem recordAll?_confines_rudeScripts :
    let polite : Script := ⟨none, ["aé"], true⟩
    let victim : Script := ⟨none, ["bc"], true⟩
    let last : Names := ⟨"aébcéé", #[some (0, 3), some (3, 5), some (5, 8), none, some (6, 9)]⟩
    empty.recordAll? ([polite] ++ victim :: rudeScripts) = some last ∧
      (rudeScripts.map Script.writer).foldl record
        ((ofWriters [polite.writer]).record victim.writer) = last ∧
      last.get? 1 = some "bc" ∧ last.toList = [some "aé", some "bc", none, none, none] := by
  intro polite victim last
  have run : empty.recordAll? ([polite] ++ victim :: rudeScripts) = some last := by decide +kernel
  obtain ⟨names, next, runBefore, isFold, recorded, isRecord, -, last_eq, -, -, -, -, undamaged⟩ :=
    recordAll?_confines run
  rw [isRecord, isFold] at last_eq
  have names_eq : names = ⟨"aé", #[some (0, 3)]⟩ :=
    Option.some.inj (runBefore.symm.trans (by decide +kernel))
  subst names_eq
  have next_eq : next = ⟨"aébc", #[some (0, 3), some (3, 5)]⟩ :=
    Option.some.inj (recorded.symm.trans (by decide +kernel))
  subst next_eq
  refine ⟨run, last_eq.symm, ?_, by decide +kernel⟩
  exact (undamaged 3 5 rfl (by decide +kernel)).trans (by decide +kernel)

end Callstack.Names
