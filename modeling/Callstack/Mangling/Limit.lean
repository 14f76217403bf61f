/-!
# The greatest size of a shown name

Escapes and back references can make the shown form of a Rust name much longer than the name. So the
form is written in pieces, and only a number of bytes may be written. The first piece that does not
fit is left out together with all that follow it, and a note is written in their place.

## Main definitions

* `sizeLimit`, `limitNote` — how many bytes may be written, and what stands for the rest
* `writeWithin`, `limited` — pieces written one after the other, as far as they fit

## Main results

* `limited_of_size_le`, `limited_singleton_of_lt` — pieces that fit are all written, and a single
  one that does not is replaced by the note
* `limited_eq_iff` — a text without braces is only written by pieces that fit
-/

namespace Callstack.Mangling

/-- How many bytes of a Rust name may be shown. -/
def sizeLimit : Nat := 1000000

/-- What is shown in place of the pieces that do not fit. -/
def limitNote : String := "\x7bsize limit reached\x7d"

/-- Write pieces behind a text as long as there is room for them. -/
def writeWithin (room : Nat) (text : String) : List String → String
  | [] => text
  | piece :: rest =>
    if piece.utf8ByteSize ≤ room then
      writeWithin (room - piece.utf8ByteSize) (text ++ piece) rest
    else text ++ limitNote

/-- The text of pieces, as far as they fit. -/
def limited (pieces : List String) : String := writeWithin sizeLimit "" pieces

variable {room : Nat} {pieces : List String}

theorem utf8ByteSize_join_cons (piece : String) (rest : List String) :
    (String.join (piece :: rest)).utf8ByteSize =
      piece.utf8ByteSize + (String.join rest).utf8ByteSize := by
  rw [String.join_cons, String.utf8ByteSize_append]

/-- Pieces that fit are all written. -/
theorem writeWithin_of_size_le (text : String)
    (fits : (String.join pieces).utf8ByteSize ≤ room) :
    writeWithin room text pieces = text ++ String.join pieces := by
  induction pieces generalizing room text with
  | nil => simp [writeWithin]
  | cons piece rest ih =>
    rw [utf8ByteSize_join_cons] at fits
    have restFits : (String.join rest).utf8ByteSize ≤ room - piece.utf8ByteSize := by omega
    rw [writeWithin, if_pos (Nat.le_of_add_right_le fits), ih _ restFits, String.append_assoc,
      String.join_cons]

/-- If pieces do not fit, what is written ends with the note. -/
theorem exists_writeWithin_of_lt (text : String)
    (tooLong : room < (String.join pieces).utf8ByteSize) :
    ∃ written, writeWithin room text pieces = written ++ limitNote := by
  induction pieces generalizing room text with
  | nil => exact absurd tooLong (Nat.not_lt_zero room)
  | cons piece rest ih =>
    rw [utf8ByteSize_join_cons] at tooLong
    rw [writeWithin]
    split
    · exact ih _ (by omega)
    · exact ⟨text, rfl⟩

theorem limited_of_size_le (fits : (String.join pieces).utf8ByteSize ≤ sizeLimit) :
    limited pieces = String.join pieces := by
  rw [limited, writeWithin_of_size_le "" fits, String.empty_append]

/-- A single piece that does not fit is replaced by the note. -/
theorem limited_singleton_of_lt {piece : String} (tooLong : sizeLimit < piece.utf8ByteSize) :
    limited [piece] = limitNote := by
  rw [limited, writeWithin, if_neg (Nat.not_le_of_lt tooLong), String.empty_append]

/-- A text without braces is written exactly if its pieces fit, since the note has braces. -/
theorem limited_eq_iff {text : String} (noBrace : '\x7b' ∉ text.toList) :
    limited pieces = text ↔
      String.join pieces = text ∧ (String.join pieces).utf8ByteSize ≤ sizeLimit := by
  constructor
  · intro same
    -- Else the text would end with the note.
    have fits : (String.join pieces).utf8ByteSize ≤ sizeLimit := by
      rw [← Nat.not_lt]
      intro tooLong
      obtain ⟨written, ends⟩ := exists_writeWithin_of_lt "" tooLong
      rw [← same, limited, ends, String.toList_append] at noBrace
      exact noBrace (List.mem_append_right _ (List.mem_of_elem_eq_true rfl))
    rw [limited_of_size_le fits] at same
    exact ⟨same, fits⟩
  · rintro ⟨rfl, fits⟩
    exact limited_of_size_le fits

end Callstack.Mangling
