import Callstack.Proofs.Dump
import Callstack.Report
import Mathlib.Algebra.GroupWithZero.Nat

/-!
# Reports line by line

A report is logged by writing the dump as one text and taking the text apart again at its line
feeds. The two do not quite fit together: a dump has one line feed behind each frame, but a name may
bring more of them, and a carriage return at the end of a name is taken for a part of the line end.
Nothing else of a line can be mistaken, since numbers and addresses consist of digits and there is a
blank in front of the name.

## Main definitions

* `Dump.lead` — what stands in front of the name on a line
* `Dump.shownNames`, `Dump.rows` — the names that a dump shows, and its lines before they are ended

## Main results

* `Text.length_lines_flatMap`, `Text.lines_flatMap` — the lines of rows that end with line feeds
* `Dump.lineFeed_not_mem_lead`, `Dump.getLast?_lead` — only the name can be mistaken for a line end
* `Report.length_records`, `Report.records_eq` — how many records there are, and what they say
* `Report.log_splits_dump` — logging a report, for any trace, backend and threshold
-/

namespace Callstack

namespace Text

/-- Every line feed of a text that ends with one ends a line. -/
theorem length_linesFrom_append (begun front back : List Char) :
    (linesFrom begun (front ++ '\n' :: back)).length =
      front.count '\n' + 1 + (lines back).length := by
  -- What the first line began with has no part in the number of lines.
  induction front generalizing begun with
  | nil => simp [linesFrom, lines, Nat.add_comm]
  | cons c front ih =>
    rw [List.cons_append]
    by_cases isLineFeed : c = '\n'
    · rw [isLineFeed, linesFrom, List.length_cons, ih, List.count_cons_self]
      omega
    · rw [linesFrom, ih, List.count_cons_of_ne isLineFeed]
      exact fun same => isLineFeed same

variable {rows : List (List Char)}

/-- Rows that end with line feeds make as many lines as there are line feeds. -/
theorem length_lines_flatMap (rows : List (List Char)) :
    (lines (rows.flatMap fun row => row ++ ['\n'])).length =
      rows.length + (rows.map (List.count '\n')).sum := by
  induction rows with
  | nil => rfl
  | cons row rest ih =>
    rw [List.flatMap_cons, List.append_assoc, List.singleton_append, lines,
      length_linesFrom_append, ih, List.length_cons, List.map_cons, List.sum_cons]
    omega

/-- Rows without line feeds that end with line feeds are lines. -/
theorem lines_flatMap (noLineFeed : ∀ row ∈ rows, '\n' ∉ row) :
    lines (rows.flatMap fun row => row ++ ['\n']) = rows.map withoutReturn := by
  induction rows with
  | nil => rfl
  | cons row rest ih =>
    rw [List.forall_mem_cons] at noLineFeed
    rw [List.flatMap_cons, List.append_assoc, List.singleton_append,
      lines_append_lineFeed row _ noLineFeed.1, ih noLineFeed.2, List.map_cons]

/-- A carriage return is taken from the second part of a text, if the first part does not end with
one. -/
theorem withoutReturn_append {front : List Char} (keeps : front.getLast? ≠ some '\r')
    (back : List Char) : withoutReturn (front ++ back) = front ++ withoutReturn back := by
  unfold withoutReturn
  cases back with
  | nil =>
    -- With nothing behind, the first part has the last character.
    rw [List.append_nil, if_neg keeps, if_neg (by decide), List.append_nil]
  | cons c back =>
    have last : (front ++ c :: back).getLast? = (c :: back).getLast? := by
      rw [List.getLast?_append, List.getLast?_cons, Option.some_or]
    rw [last]
    split
    · exact List.dropLast_append_of_ne_nil (List.cons_ne_nil c back)
    · rfl

end Text

/-- Digits of an address are no line feeds. -/
theorem Hex.digit?_of_mem_fixed {width n : Nat} {c : Char} (member : c ∈ fixed width n) :
    (Numeral.digit? 16 c).isSome := by
  induction width generalizing n with
  | zero => cases member
  | succ width ih =>
    rcases List.mem_append.mp member with high | low
    · exact ih high
    · rw [List.mem_singleton.mp low, Numeral.digit?_digitChar (Nat.mod_lt _ (by decide))]
      rfl

namespace Dump

/-- What stands in front of the name on a line without label and indent. -/
def lead (n : Nat) (address : Address) : String :=
  number n ++ " " ++ address.display ++ " "

theorem line_none (n : Nat) (address : Address) (name : String) :
    line none "" n address name = lead n address ++ name ++ "\n" := by
  have pieces := join_linePieces none "" n address (some name)
  rw [Option.getD_some] at pieces
  rw [← pieces, lead, linePieces]
  simp [String.join, String.append_assoc]

theorem lineFeed_not_mem_number (n : Nat) : '\n' ∉ (number n).toList := by
  have digits : '\n' ∉ Nat.toDigits 10 n := by
    intro member
    exact absurd (Nat.isDigit_of_mem_toDigits (by decide) (by decide) member) (by decide)
  simp [number, List.rightpad, digits]

theorem lineFeed_not_mem_display (address : Address) : '\n' ∉ address.display.toList := by
  have digits : '\n' ∉ address.digits := by
    intro member
    exact absurd (Hex.digit?_of_mem_fixed member) (by decide)
  simp [Address.display, digits]

/-- In front of the name there is no line feed. -/
theorem lineFeed_not_mem_lead (n : Nat) (address : Address) : '\n' ∉ (lead n address).toList := by
  simp [lead, lineFeed_not_mem_number, lineFeed_not_mem_display]

/-- Directly in front of the name there is a blank, which is no carriage return. -/
theorem getLast?_lead (n : Nat) (address : Address) :
    (lead n address).toList.getLast? = some ' ' := by
  rw [lead, String.toList_append, List.getLast?_append]
  rfl

/-- The names that a dump shows, in order. -/
def shownNames (backend : Backend) (frames : List Address) : List String :=
  frames.zipIdx.map fun (_, i) => shownAt backend frames i

/-- A backend that agrees with itself shows the names of its lookup. -/
theorem shownNames_eq_map {backend : Backend} (agree : backend.NamesAgree) (frames : List Address) :
    shownNames backend frames = frames.map (shownName backend.lookup) := by
  have shown : shownNames backend frames =
      frames.zipIdx.map (shownName backend.lookup ∘ Prod.fst) := by
    refine List.map_congr_left ?_
    rintro ⟨address, i⟩ member
    exact getD_get?_resolveAll agree (List.mk_mem_zipIdx_iff_getElem?.mp member)
  rw [shown, ← List.map_map, List.zipIdx_map_fst]

/-- The lines of a dump without label and indent, before they are ended. -/
def rows (backend : Backend) (frames : List Address) : List (List Char) :=
  frames.zipIdx.map fun (address, i) =>
    (lead (i + 1) address).toList ++ (shownAt backend frames i).toList

variable {backend : Backend} {trace : Trace} {frames : List Address}

theorem length_rows : (rows backend frames).length = frames.length := by
  rw [rows, List.length_map, List.length_zipIdx]

theorem text_eq_join_line (unlabelled : trace.label = none) :
    text backend trace "" = String.join (trace.frames.zipIdx.map fun (address, i) =>
      line none "" (i + 1) address (shownAt backend trace.frames i)) := by
  rw [text_eq_join_pieces, join_pieces_shownAt, unlabelled]

/-- The text of a dump consists of its rows and a line feed behind each of them. -/
theorem toList_text_eq_flatMap (unlabelled : trace.label = none) :
    (text backend trace "").toList =
      (rows backend trace.frames).flatMap fun row => row ++ ['\n'] := by
  rw [text_eq_join_line unlabelled, String.toList_join, rows, List.flatMap_map, List.flatMap_map]
  simp [line_none]

/-- A row has the line feeds of its name. -/
theorem map_count_rows :
    (rows backend frames).map (List.count '\n') =
      (shownNames backend frames).map fun name => name.toList.count '\n' := by
  rw [rows, shownNames, List.map_map, List.map_map]
  refine List.map_congr_left ?_
  rintro ⟨address, i⟩ -
  simp only [Function.comp_apply, List.count_append]
  rw [List.count_eq_zero.mpr (lineFeed_not_mem_lead _ _), Nat.zero_add]

/-- If no name has a line feed, no row has one. -/
theorem lineFeed_not_mem_rows
    (noLineFeed : ∀ name ∈ shownNames backend frames, '\n' ∉ name.toList) :
    ∀ row ∈ rows backend frames, '\n' ∉ row := by
  intro row member
  obtain ⟨⟨address, i⟩, inside, rfl⟩ := List.mem_map.mp member
  have inName : '\n' ∉ (shownAt backend frames i).toList :=
    noLineFeed _ (List.mem_map_of_mem inside)
  rw [List.mem_append, not_or]
  exact ⟨lineFeed_not_mem_lead _ _, inName⟩

end Dump

namespace Report

variable {level : Log.Level} {threshold : Log.Threshold} {backend : Backend} {trace : Trace}

/-- There is a record for each frame and one more for each line feed in a name. -/
theorem length_records (unlabelled : trace.label = none) :
    (records level backend trace).length = trace.frames.length +
      ((Dump.shownNames backend trace.frames).map fun name => name.toList.count '\n').sum := by
  rw [records, List.length_map, text, Dump.toList_text_eq_flatMap unlabelled,
    Text.length_lines_flatMap, Dump.length_rows, Dump.map_count_rows]

/-- If no name has a line feed, there is one record for each frame, which has the name without a
carriage return at its end. -/
theorem records_eq (unlabelled : trace.label = none)
    (noLineFeed : ∀ name ∈ Dump.shownNames backend trace.frames, '\n' ∉ name.toList) :
    records level backend trace = trace.frames.zipIdx.map fun (address, i) =>
      ⟨level, target, Dump.lead (i + 1) address ++
        String.ofList (Text.withoutReturn (Dump.shownAt backend trace.frames i).toList)⟩ := by
  rw [records, text, Dump.toList_text_eq_flatMap unlabelled,
    Text.lines_flatMap (Dump.lineFeed_not_mem_rows noLineFeed), Dump.rows, List.map_map,
    List.map_map]
  refine List.map_congr_left ?_
  rintro ⟨address, i⟩ -
  have keeps : (Dump.lead (i + 1) address).toList.getLast? ≠ some '\r' := by
    rw [Dump.getLast?_lead]
    decide
  simp only [Function.comp_apply]
  rw [Text.withoutReturn_append keeps, String.ofList_append, String.ofList_toList]

/-- There is exactly one record for each frame if no name has a line feed, and only then. -/
theorem length_records_eq_iff (unlabelled : trace.label = none) :
    (records level backend trace).length = trace.frames.length ↔
      ∀ name ∈ Dump.shownNames backend trace.frames, '\n' ∉ name.toList := by
  rw [length_records unlabelled, Nat.add_eq_left, List.sum_eq_zero_iff_forall_eq_nat,
    List.forall_mem_map]
  simp only [List.count_eq_zero]

/-- A captured trace has no label. -/
theorem label_capture (anchor : Address) (walker : Walker) :
    (capture anchor walker).trace.label = none := by
  unfold capture Capture.run
  dsimp only
  split
  · rfl
  · rfl

/-- A capture may leave a record behind, but that is not one of the report. -/
theorem filter_captureRecords (threshold : Log.Threshold) (capture : Capture) :
    (captureRecords threshold capture).filter (fun record => record.target == target) = [] := by
  unfold captureRecords
  split
  · exact List.filter_cons_of_neg (by decide)
  · rfl

theorem filter_captureTarget_captureRecords (threshold : Log.Threshold) (capture : Capture) :
    (captureRecords threshold capture).filter (fun record => record.target == captureTarget) =
      captureRecords threshold capture := by
  unfold captureRecords
  split
  · exact List.filter_cons_of_pos (beq_self_eq_true captureTarget)
  · rfl

theorem filter_captureTarget_records (level : Log.Level) (backend : Backend) (trace : Trace) :
    (records level backend trace).filter (fun record => record.target == captureTarget) = [] := by
  have other : (target == captureTarget) = false := by decide
  rw [List.filter_eq_nil_iff, records, List.forall_mem_map]
  exact fun line _ => Bool.eq_false_iff.mp other

theorem filter_records (level : Log.Level) (backend : Backend) (trace : Trace) :
    (records level backend trace).filter (fun record => record.target == target) =
      records level backend trace := by
  rw [List.filter_eq_self, records, List.forall_mem_map]
  exact fun line _ => beq_self_eq_true target

/-- If the level does not pass, a report does not even capture the stack. Else its records are the
lines of the dump of the captured trace. There are as many as there are frames and line feeds in
names, so there is one for each frame exactly if no name has a line feed. Then each of them is a
line of the dump without the line feed and without a carriage return in front of it.

The records are those of the capture and of the report, each with its own target. What the backend
leaves behind by itself while it is asked for names has other targets and is not among them. -/
theorem log_splits_dump (level : Log.Level) (threshold : Log.Threshold) (backend : Backend)
    (anchor : Address) (walker : Walker) :
    (threshold.passes level = false → log level threshold backend anchor walker = (none, [])) ∧
    (threshold.passes level = true →
      let logged := log level threshold backend anchor walker
      let captured := capture anchor walker
      logged = (some captured,
        captureRecords threshold captured ++ records level backend captured.trace) ∧
      logged.2.filter (fun record => record.target == captureTarget) =
        captureRecords threshold captured ∧
      logged.2.filter (fun record => record.target == target) =
        records level backend captured.trace ∧
      captured.trace.label = none) ∧
    ∀ trace : Trace, trace.label = none →
      let dump := Dump.text backend trace ""
      let shown := Dump.shownAt backend trace.frames
      let names := Dump.shownNames backend trace.frames
      let records := records level backend trace
      (backend.NamesAgree → names = trace.frames.map (Dump.shownName backend.lookup)) ∧
      dump = String.join (trace.frames.zipIdx.map fun (address, i) =>
        Dump.line none "" (i + 1) address (shown i)) ∧
      records = (Text.lines dump.toList).map (fun line => ⟨level, target, String.ofList line⟩) ∧
      records.length =
        trace.frames.length + (names.map fun name => name.toList.count '\n').sum ∧
      (records.length = trace.frames.length ↔ ∀ name ∈ names, '\n' ∉ name.toList) ∧
      ((∀ name ∈ names, '\n' ∉ name.toList) →
        ∀ i address, trace.frames[i]? = some address →
          ∃ content, records[i]? = some ⟨level, target, content⟩ ∧
            content ++ "\n" = Dump.line none "" (i + 1) address
              (String.ofList (Text.withoutReturn (shown i).toList))) ∧
      (trace.isEmpty = true → records = []) := by
  refine ⟨?disabled, ?enabled, ?traces⟩
  case disabled =>
    intro stops
    rw [log, if_neg (by rw [stops]; decide)]
  case enabled =>
    intro passes logged captured
    have logged_eq : logged = (some captured,
        captureRecords threshold captured ++ records level backend captured.trace) := if_pos passes
    refine ⟨logged_eq, ?_, ?_, label_capture anchor walker⟩
    · -- Every record of the capture has one target, and every record of the report the other.
      rw [logged_eq, List.filter_append, filter_captureTarget_captureRecords,
        filter_captureTarget_records, List.append_nil]
    · rw [logged_eq, List.filter_append, filter_captureRecords, filter_records, List.nil_append]
  case traces =>
    intro trace unlabelled dump shown names
    refine ⟨fun agree => Dump.shownNames_eq_map agree _, Dump.text_eq_join_line unlabelled, rfl,
      length_records unlabelled, length_records_eq_iff unlabelled, ?_, ?_⟩
    · intro noLineFeed i address atIndex
      refine ⟨_, ?_, (Dump.line_none _ _ _).symm⟩
      rw [records_eq unlabelled noLineFeed, List.getElem?_map, List.getElem?_zipIdx, atIndex]
      simp [shown]
    · intro isEmpty
      have noFrames : trace.frames = [] := by
        rw [Trace.frames, beq_iff_eq.mp isEmpty, List.take_zero]
      rw [← List.length_eq_zero_iff, length_records unlabelled, noFrames]
      rfl

/-- A backend of which one name ends with a carriage return and all others contain a line feed. -/
def breaking : Backend where
  name := "breaking"
  lookup address := if address = ⟨0x10⟩ then some (.plain "f\r") else some (.plain "g\nh")

theorem log_splits_dump_breaking :
    let one : Trace := ⟨#[⟨0x10⟩], 1, none⟩
    let two : Trace := ⟨#[⟨0x10⟩, ⟨0x20⟩], 2, none⟩
    let silent : Trace := ⟨#[Address.null], 0, none⟩
    log .info (some .warn) breaking Address.null ⟨[], [], false⟩ = (none, []) ∧
      ((log .info (some .trace) breaking Address.null ⟨[], [], false⟩).2.filter
        (fun record => record.target == target)) = [] ∧
      records .info breaking one = [⟨.info, target, "1   0x0000000000000010 f"⟩] ∧
      (records .info breaking two).length = 3 ∧ records .info breaking silent = [] := by
  intro one two silent
  obtain ⟨disabled, -, traces⟩ :=
    log_splits_dump .info (some .warn) breaking Address.null ⟨[], [], false⟩
  obtain ⟨-, enabled, -⟩ :=
    log_splits_dump .info (some .trace) breaking Address.null ⟨[], [], false⟩
  obtain ⟨-, -, -, -, single, exact, -⟩ := traces one rfl
  obtain ⟨-, -, -, count, -, -, -⟩ := traces two rfl
  obtain ⟨-, -, -, -, -, -, nothing⟩ := traces silent rfl
  have noLineFeed : ∀ name ∈ Dump.shownNames breaking one.frames, '\n' ∉ name.toList := by
    decide +kernel
  obtain ⟨content, first, shows⟩ := exact noLineFeed 0 ⟨0x10⟩ rfl
  refine ⟨disabled (by decide), ?_, ?_, ?_, nothing rfl⟩
  · rw [(enabled (by decide)).2.2.1]
    decide +kernel
  · have length_eq : (records .info breaking one).length = 1 := single.mpr noLineFeed
    have content_eq : content = "1   0x0000000000000010 f" := by
      rw [← String.append_left_inj "\n", shows]
      decide +kernel
    obtain ⟨record, list_eq⟩ := List.length_eq_one_iff.mp length_eq
    rw [list_eq, List.getElem?_cons_zero, Option.some.injEq] at first
    rw [list_eq, first, content_eq]
  · rw [count]
    decide +kernel

end Report

end Callstack
