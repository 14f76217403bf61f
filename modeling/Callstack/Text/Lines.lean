/-!
# Lines of a text

A line ends at a line feed, and one carriage return directly before that line feed belongs to the
line end. Text after the last line feed is a line of its own, kept as it is, unless it is empty.
-/

namespace Callstack.Text

/-- A finished line, given back to front: a carriage return before the line feed is dropped. -/
def closeLine : List Char → List Char
  | '\r' :: rest => rest.reverse
  | line => line.reverse

/-- A line without the carriage return at its end, if there is one. -/
def withoutReturn (line : List Char) : List Char :=
  if line.getLast? = some '\r' then line.dropLast else line

/-- Only a carriage return is dropped with the line feed. -/
theorem closeLine_reverse (line : List Char) : closeLine line.reverse = withoutReturn line := by
  rcases List.eq_nil_or_concat line with rfl | ⟨front, c, rfl⟩
  · rfl
  · rw [List.concat_eq_append, List.reverse_concat, withoutReturn, List.getLast?_concat,
      List.dropLast_concat]
    by_cases isReturn : c = '\r'
    · rw [isReturn, if_pos rfl, closeLine, List.reverse_reverse]
    · rw [if_neg (by simpa using isReturn), closeLine, List.reverse_cons, List.reverse_reverse]
      rintro rest ⟨rfl, -⟩
      exact isReturn rfl

/-- A line that does not end with a carriage return stays as it is. -/
theorem withoutReturn_eq_self {line : List Char} (keeps : line.getLast? ≠ some '\r') :
    withoutReturn line = line := by
  rw [withoutReturn, if_neg keeps]

theorem withoutReturn_sublist (line : List Char) : (withoutReturn line).Sublist line := by
  unfold withoutReturn
  split
  · exact List.dropLast_sublist line
  · exact List.Sublist.refl line

/-- The lines of a text whose current line has begun with `begun`, given back to front. -/
def linesFrom (begun : List Char) : List Char → List (List Char)
  | [] => if begun.isEmpty then [] else [begun.reverse]
  | '\n' :: rest => closeLine begun :: linesFrom [] rest
  | c :: rest => linesFrom (c :: begun) rest

/-- The lines of a text, without their line ends. -/
def lines (text : List Char) : List (List Char) :=
  linesFrom [] text

theorem linesFrom_append_lineFeed (begun line rest : List Char) (h : '\n' ∉ line) :
    linesFrom begun (line ++ '\n' :: rest) =
      closeLine (line.reverse ++ begun) :: linesFrom [] rest := by
  induction line generalizing begun with
  | nil => simp [linesFrom]
  | cons c line ih =>
    simp only [List.mem_cons, not_or] at h
    rw [List.cons_append, linesFrom]
    · simpa using ih (c :: begun) h.2
    · exact fun e => h.1 e.symm

/-- A line without line feeds, followed by one, is the first line of the text. -/
theorem lines_append_lineFeed (line rest : List Char) (h : '\n' ∉ line) :
    lines (line ++ '\n' :: rest) = withoutReturn line :: lines rest := by
  rw [← closeLine_reverse]
  simpa [lines] using linesFrom_append_lineFeed [] line rest h

end Callstack.Text
