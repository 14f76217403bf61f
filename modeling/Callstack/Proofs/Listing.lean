import Callstack.Image.Listing
import Callstack.Proofs.Hexadecimal

/-!
# Listings, written and read

A listing is described by its rows, one for each mapping. The numbers of a row may be written with
zeros in front and with letters of either case, and there may be any number of blanks before its
path. Between the rows there may be lines with too few fields. Whatever choice is made, the mappings
that are read from the listing are those of its rows, in order.

## Main definitions

* `Listing.Row`, `Listing.Row.mapping` — a row and the mapping that it is about
* `Listing.Row.Written`, `Listing.Row.Shown` — a line that is a way to write a row, and a line that
  shows a row between blanks
* `Listing.Lists`, `Listing.Shows` — a text that lists rows, and lines that show rows

## Main results

* `Text.cut?_append`, `Text.append_of_cut?` — the parts of a text around a separator
* `parse?_of_shown` — a row is read from a line that shows it
* `shows_of_lists` — the lines of a text that lists rows show them
* `ofListing_of_shows` — the mappings of a listing are those of the rows that its lines show
-/

namespace Callstack

namespace Text

variable {separator : Char} {text before after : List Char}

/-- A text is cut at the first separator. -/
theorem cut?_append (absent : separator ∉ before) :
    cut? separator (before ++ separator :: after) = some (before, after) := by
  induction before with
  | nil => simp [cut?]
  | cons c before ih =>
    rw [List.mem_cons, not_or] at absent
    rw [List.cons_append, cut?, if_neg fun same => absent.1 same.symm, ih absent.2]
    rfl

/-- What a text is cut into makes it up again, and the part before the separator has none. -/
theorem append_of_cut? (cut : cut? separator text = some (before, after)) :
    text = before ++ separator :: after ∧ separator ∉ before := by
  induction text generalizing before with
  | nil => cases cut
  | cons c rest ih =>
    rw [cut?] at cut
    by_cases isSeparator : c = separator
    · rw [if_pos isSeparator] at cut
      cases cut
      rw [isSeparator]
      exact ⟨rfl, List.not_mem_nil⟩
    · rw [if_neg isSeparator] at cut
      obtain ⟨⟨front, back⟩, found, same⟩ := Option.map_eq_some_iff.mp cut
      cases same
      obtain ⟨rfl, absent⟩ := ih found
      refine ⟨rfl, ?_⟩
      rw [List.mem_cons, not_or]
      exact ⟨fun same => isSeparator same.symm, absent⟩

/-- Every cut uses up one separator. -/
theorem count_of_cut? (cut : cut? separator text = some (before, after)) :
    text.count separator = after.count separator + 1 := by
  obtain ⟨rfl, absent⟩ := append_of_cut? cut
  rw [List.count_append, List.count_eq_zero.mpr absent, List.count_cons_self, Nat.zero_add]

/-- A text without blank characters. -/
def NoBlank (text : List Char) : Prop :=
  ∀ c ∈ text, isBlank c = false

instance (text : List Char) : Decidable (NoBlank text) :=
  decidable_of_iff (text.all fun c => !isBlank c) (by simp [NoBlank])

theorem NoBlank.not_mem {c : Char} (noBlank : NoBlank text) (blank : isBlank c = true) :
    c ∉ text := by
  intro member
  rw [noBlank c member] at blank
  cases blank

/-- A text without blank characters at its ends. -/
structure IsTrimmed (text : List Char) : Prop where
  /-- It does not begin with a blank. -/
  head : ∀ c ∈ text.head?, isBlank c = false
  /-- It does not end with a blank. -/
  last : ∀ c ∈ text.getLast?, isBlank c = false

instance (text : List Char) : Decidable (IsTrimmed text) :=
  decidable_of_iff
    ((text.head?.all fun c => !isBlank c) ∧ text.getLast?.all fun c => !isBlank c)
    (by
      simp only [Option.all_eq_true, Bool.not_eq_true']
      exact ⟨fun ⟨head, last⟩ => ⟨head, last⟩, fun ⟨head, last⟩ => ⟨head, last⟩⟩)

theorem dropWhile_isBlank (head : ∀ c ∈ text.head?, isBlank c = false) :
    text.dropWhile isBlank = text := by
  cases text with
  | nil => rfl
  | cons c rest => rw [List.dropWhile_cons_of_neg (by simpa using head)]

theorem isBlank_space : isBlank ' ' = true := rfl

/-- Blanks before a text do not matter. -/
theorem trim_blanks_append (blanks : Nat) (trimmed : IsTrimmed text) :
    trim (List.replicate blanks ' ' ++ text) = text := by
  have front : ∀ c ∈ List.replicate blanks ' ', isBlank c = true := by
    intro c member
    rw [(List.mem_replicate.mp member).2, isBlank_space]
  have back : text.reverse.dropWhile isBlank = text.reverse := by
    apply dropWhile_isBlank
    rw [List.head?_reverse]
    exact trimmed.last
  rw [trim, List.dropWhile_append_of_pos front, dropWhile_isBlank trimmed.head, back,
    List.reverse_reverse]

theorem linesFrom_noLineFeed (begun : List Char) {line : List Char} (noLineFeed : '\n' ∉ line) :
    linesFrom begun line =
      if (line.reverse ++ begun).isEmpty then [] else [begun.reverse ++ line] := by
  induction line generalizing begun with
  | nil => simp [linesFrom]
  | cons c line ih =>
    rw [List.mem_cons, not_or] at noLineFeed
    rw [linesFrom]
    · rw [ih (c :: begun) noLineFeed.2]
      simp
    · exact fun same => noLineFeed.1 same.symm

/-- A text without a line feed is a single line. -/
theorem lines_of_ne_nil {line : List Char} (nonempty : line ≠ []) (noLineFeed : '\n' ∉ line) :
    lines line = [line] := by
  rw [lines, linesFrom_noLineFeed [] noLineFeed, if_neg (by simpa using nonempty)]
  rfl

end Text

namespace Listing

/-- A row of a listing. -/
structure Row where
  /-- The first address. -/
  start : Nat
  /-- The first address behind. -/
  stop : Nat
  /-- Where in the file the mapping begins. -/
  offset : Nat
  /-- What may be done with the memory. -/
  permissions : List Char
  /-- The device that the file is on. -/
  device : List Char
  /-- The number of the file on the device. -/
  inode : List Char
  /-- The path of the file, or something else in its place, or nothing. -/
  path : List Char
  start_lt : start < Numeral.wordLimit := by decide
  stop_lt : stop < Numeral.wordLimit := by decide
  offset_lt : offset < Numeral.wordLimit := by decide
  permissions_noBlank : Text.NoBlank permissions := by decide
  device_noBlank : Text.NoBlank device := by decide
  inode_noBlank : Text.NoBlank inode := by decide
  path_noLineFeed : '\n' ∉ path := by decide
  path_trimmed : Text.IsTrimmed path := by decide

namespace Row

/-- The offset of a row may be zero. -/
theorem zero_lt_wordLimit : 0 < Numeral.wordLimit := by decide

variable (row : Row)

/-- The mapping that a row is about. -/
def mapping : Mapping :=
  ⟨⟨row.start, row.stop⟩, row.offset, Mapping.withoutMark row.path⟩

/-- A line that is a way to write a row: six fields with single blanks between them, where the last
field is the path behind any number of further blanks. -/
def Written (line : List Char) : Prop :=
  ∃ start stop offset blanks,
    Hex.Spells start row.start ∧ Hex.Spells stop row.stop ∧ Hex.Spells offset row.offset ∧
      line = [' '].intercalate [start ++ '-' :: stop, row.permissions, offset, row.device,
        row.inode, List.replicate blanks ' ' ++ row.path]

/-- A line that shows a row: six fields with single blanks between them, where the last field is the
path with any blank characters around it. Whether these are part of the file's name cannot be
seen. -/
def Shown (line : List Char) : Prop :=
  ∃ start stop offset path,
    Hex.Spells start row.start ∧ Hex.Spells stop row.stop ∧ Hex.Spells offset row.offset ∧
      Text.trim path = row.path ∧
      line = [' '].intercalate [start ++ '-' :: stop, row.permissions, offset, row.device,
        row.inode, path]

/-- A written row shows its path behind blanks. -/
theorem shown_of_written {row : Row} {line : List Char} (written : row.Written line) :
    row.Shown line := by
  obtain ⟨start, stop, offset, blanks, spellsStart, spellsStop, spellsOffset, line_eq⟩ := written
  exact ⟨start, stop, offset, _, spellsStart, spellsStop, spellsOffset,
    Text.trim_blanks_append blanks row.path_trimmed, line_eq⟩

/-- Whether a row is about the file with the given path. The mark of replaced files does not count
on either side. -/
def IsOf (path : List Char) : Prop :=
  Mapping.withoutMark row.path = Mapping.withoutMark path

instance (path : List Char) : Decidable (row.IsOf path) :=
  inferInstanceAs (Decidable (_ = _))

end Row

/-- The mappings of the file with the given path. -/
def mappingsOf (path : List Char) (rows : List Row) : List Mapping :=
  (rows.filter fun row => row.IsOf path).map Row.mapping

theorem mem_mappingsOf {path : List Char} {rows : List Row} {mapping : Mapping} :
    mapping ∈ mappingsOf path rows ↔ ∃ row ∈ rows, row.IsOf path ∧ row.mapping = mapping := by
  simp only [mappingsOf, List.mem_map, List.mem_filter, decide_eq_true_iff, and_assoc]

/-- The rows on a line: one if the line is a way to write it, none if the line has too few
fields. -/
inductive Line : List Char → List Row → Prop
  | row {row : Row} {line : List Char} : row.Written line → Line line [row]
  | other {line : List Char} : '\n' ∉ line → line.count ' ' < 5 → Line line []

/-- A text that lists rows, line by line. -/
inductive Lists : List Char → List Row → Prop
  | last {line : List Char} {rows : List Row} : Line line rows → Lists line rows
  | more {line text : List Char} {here rows : List Row} :
      Line line here → Lists text rows → Lists (line ++ '\n' :: text) (here ++ rows)

/-- A line in front of a listing. -/
theorem Lists.append {line text : String} {here rows : List Row}
    (first : Line line.toList here) (others : Lists text.toList rows) :
    Lists (line ++ "\n" ++ text).toList (here ++ rows) := by
  rw [String.toList_append, String.toList_append, List.append_assoc]
  exact Lists.more first others

/-- Lines that show rows, one each. Lines with too few fields between them show none. -/
inductive Shows : List (List Char) → List Row → Prop
  | nil : Shows [] []
  | row {row : Row} {line : List Char} {lines : List (List Char)} {rows : List Row} :
      row.Shown line → Shows lines rows → Shows (line :: lines) (row :: rows)
  | other {line : List Char} {lines : List (List Char)} {rows : List Row} :
      line.count ' ' < 5 → Shows lines rows → Shows (line :: lines) rows

/-- A line in front of a listing. -/
theorem Shows.append {line text : String} {row : Row} {rows : List Row}
    (noLineFeed : '\n' ∉ line.toList) (noReturn : '\r' ∉ line.toList)
    (shown : row.Shown line.toList) (others : Shows (Text.lines text.toList) rows) :
    Shows (Text.lines (line ++ "\n" ++ text).toList) (row :: rows) := by
  have whole : (line ++ "\n" ++ text).toList = line.toList ++ '\n' :: text.toList := by simp
  have keeps : line.toList.getLast? ≠ some '\r' := fun last =>
    noReturn (List.mem_of_getLast? last)
  rw [whole, Text.lines_append_lineFeed _ _ noLineFeed, Text.withoutReturn_eq_self keeps]
  exact .row shown others

variable {row : Row} {rows : List Row} {line text : List Char}

/-- Five fields without blanks are taken from a line, and what is left is the last one. -/
theorem parse?_intercalate {span permissions offset device inode path : List Char}
    (span_noSpace : ' ' ∉ span) (permissions_noSpace : ' ' ∉ permissions)
    (offset_noSpace : ' ' ∉ offset) (device_noSpace : ' ' ∉ device)
    (inode_noSpace : ' ' ∉ inode) :
    Mapping.parse? ([' '].intercalate [span, permissions, offset, device, inode, path]) = do
      let (start, stop) ← Text.cut? '-' span
      return ⟨⟨← Mapping.number? start, ← Mapping.number? stop⟩, ← Mapping.number? offset,
        Mapping.withoutMark (Text.trim path)⟩ := by
  -- Every cut is at the first blank, so all later fields have to stand behind it as one text.
  have nested : [' '].intercalate [span, permissions, offset, device, inode, path] =
      span ++ ' ' :: (permissions ++ ' ' :: (offset ++ ' ' :: (device ++ ' ' ::
        (inode ++ ' ' :: path)))) := by
    simp [List.intercalate]
  rw [nested, Mapping.parse?]
  simp only [Option.bind_eq_bind, Text.cut?_append span_noSpace,
    Text.cut?_append permissions_noSpace, Text.cut?_append offset_noSpace,
    Text.cut?_append device_noSpace, Text.cut?_append inode_noSpace, Option.bind_some]

theorem number?_of_spells {n : Nat} (spells : Hex.Spells text n) (small : n < Numeral.wordLimit) :
    Mapping.number? text = some n := by
  rw [Mapping.number?, spells.read_eq small]
  rfl

/-- A row is read from any line that shows it. -/
theorem parse?_of_shown (shown : row.Shown line) : Mapping.parse? line = some row.mapping := by
  obtain ⟨start, stop, offset, path, spellsStart, spellsStop, spellsOffset, trimmed, rfl⟩ := shown
  have span_noSpace : ' ' ∉ start ++ '-' :: stop := by
    rw [List.mem_append, List.mem_cons]
    rintro (member | same | member)
    · exact spellsStart.not_mem row.start_lt rfl member
    · cases same
    · exact spellsStop.not_mem row.stop_lt rfl member
  rw [parse?_intercalate span_noSpace
      (row.permissions_noBlank.not_mem Text.isBlank_space)
      (spellsOffset.not_mem row.offset_lt rfl)
      (row.device_noBlank.not_mem Text.isBlank_space)
      (row.inode_noBlank.not_mem Text.isBlank_space),
    Text.cut?_append (spellsStart.not_mem row.start_lt rfl), trimmed]
  simp only [Option.bind_eq_bind, Option.bind_some, number?_of_spells spellsStart row.start_lt,
    number?_of_spells spellsStop row.stop_lt, number?_of_spells spellsOffset row.offset_lt]
  rfl

/-- What is written for a row is a single line. -/
theorem noLineFeed_of_written (written : row.Written line) : '\n' ∉ line := by
  obtain ⟨start, stop, offset, blanks, spellsStart, spellsStop, spellsOffset, rfl⟩ := written
  have isBlank : Text.isBlank '\n' = true := rfl
  have start_noLineFeed : '\n' ∉ start := spellsStart.not_mem row.start_lt rfl
  have stop_noLineFeed : '\n' ∉ stop := spellsStop.not_mem row.stop_lt rfl
  have offset_noLineFeed : '\n' ∉ offset := spellsOffset.not_mem row.offset_lt rfl
  simp [List.intercalate, start_noLineFeed, stop_noLineFeed, offset_noLineFeed,
    row.permissions_noBlank.not_mem isBlank, row.device_noBlank.not_mem isBlank,
    row.inode_noBlank.not_mem isBlank, row.path_noLineFeed]

theorem ne_nil_of_written (written : row.Written line) : line ≠ [] := by
  obtain ⟨start, stop, offset, blanks, -, -, -, rfl⟩ := written
  simp [List.intercalate]

/-- What is written for a row ends with its path or with a blank, so that no carriage return can be
taken for a part of the line end. -/
theorem withoutReturn_of_written (written : row.Written line) :
    Text.withoutReturn line = line := by
  obtain ⟨start, stop, offset, blanks, -, -, -, rfl⟩ := written
  have ends : ∃ front, [' '].intercalate [start ++ '-' :: stop, row.permissions, offset,
      row.device, row.inode, List.replicate blanks ' ' ++ row.path] =
      front ++ List.replicate (blanks + 1) ' ' ++ row.path := by
    refine ⟨[' '].intercalate [start ++ '-' :: stop, row.permissions, offset, row.device,
      row.inode], ?_⟩
    simp [List.intercalate, List.replicate_succ]
  obtain ⟨front, shape⟩ := ends
  rw [shape]
  apply Text.withoutReturn_eq_self
  rw [List.getLast?_append]
  cases pathLast : row.path.getLast? with
  | none =>
    -- Without a path the line ends with the blank before it.
    rw [Option.none_or, List.getLast?_append, List.getLast?_replicate]
    simp
  | some c =>
    have noBlank : Text.isBlank c = false := row.path_trimmed.last c pathLast
    rw [Option.some_or]
    rintro ⟨⟩
    cases noBlank

/-- A line with less than five blanks has less than six fields. -/
theorem parse?_eq_none (few : line.count ' ' < 5) : Mapping.parse? line = none := by
  rw [Option.eq_none_iff_forall_not_mem]
  intro mapping parsed
  simp only [Mapping.parse?, Option.bind_eq_bind, Option.mem_def, Option.bind_eq_some_iff] at parsed
  obtain ⟨_, cutSpan, _, cutPermissions, _, cutOffset, _, cutDevice, _, cutInode, -⟩ := parsed
  have := Text.count_of_cut? cutSpan
  have := Text.count_of_cut? cutPermissions
  have := Text.count_of_cut? cutOffset
  have := Text.count_of_cut? cutDevice
  have := Text.count_of_cut? cutInode
  omega

theorem Line.noLineFeed (lists : Line line rows) : '\n' ∉ line := by
  cases lists with
  | row written => exact noLineFeed_of_written written
  | other noLineFeed few => exact noLineFeed

/-- A line shows its rows, and so it does without the carriage return that is taken for a part of
the line end. -/
theorem Line.shows {here : List Row} {lines : List (List Char)} (lists : Line line here)
    (others : Shows lines rows) : Shows (Text.withoutReturn line :: lines) (here ++ rows) := by
  cases lists with
  | row written =>
    rw [withoutReturn_of_written written]
    exact .row (Row.shown_of_written written) others
  | other noLineFeed few =>
    have fewer := (Text.withoutReturn_sublist line).count_le ' '
    exact .other (Nat.lt_of_le_of_lt fewer few) others

/-- The last line of a text ends without a line feed, so nothing is taken from it. -/
theorem Line.shows_last (lists : Line line rows) : Shows (Text.lines line) rows := by
  cases lists with
  | row written =>
    rw [Text.lines_of_ne_nil (ne_nil_of_written written) (noLineFeed_of_written written)]
    exact .row (Row.shown_of_written written) .nil
  | other noLineFeed few =>
    by_cases isEmpty : line = []
    · rw [isEmpty]
      exact .nil
    · rw [Text.lines_of_ne_nil isEmpty noLineFeed]
      exact .other few .nil

/-- The lines of a text that lists rows show them. -/
theorem shows_of_lists (lists : Lists text rows) : Shows (Text.lines text) rows := by
  induction lists with
  | last lists => exact lists.shows_last
  | more lists _ ih =>
    rw [Text.lines_append_lineFeed _ _ lists.noLineFeed]
    exact lists.shows ih

theorem filterMap_parse?_of_shows {lines : List (List Char)} (shows : Shows lines rows) :
    lines.filterMap Mapping.parse? = rows.map Row.mapping := by
  induction shows with
  | nil => rfl
  | row shown _ ih =>
    rw [List.filterMap_cons_some (parse?_of_shown shown), ih, List.map_cons]
  | other few _ ih => rw [List.filterMap_cons_none (parse?_eq_none few), ih]

/-- The mappings of a listing are those of the rows that its lines show. -/
theorem ofListing_of_shows (shows : Shows (Text.lines text) rows) :
    Mapping.ofListing text = rows.map Row.mapping :=
  filterMap_parse?_of_shows shows

end Listing

end Callstack
