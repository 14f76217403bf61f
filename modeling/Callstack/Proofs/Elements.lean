import Callstack.Mangling.Legacy
import Mathlib.Data.List.TakeWhile

/-!
# Elements of legacy names, written and read

An element stands in a name as its length and its text. Reading takes all digits for the length, so
a text that begins with a digit would run into it. Any other text is read back, whatever the name
goes on with: digits, capitals and whole elements may stand inside it.

Escapes begin with a point or a dollar sign. An element with neither is shown as it is, in one
piece.

## Main definitions

* `Legacy.written` — an element as it stands in a name
* `Legacy.EndsNumber` — a text that can be told from the length in front of it

## Main results

* `elements?_written_append` — an element is read back, and reading goes on behind it
* `elements?_flatMap_written` — a whole path is read back
* `Path.pieces_of_plain` — a path without escapes is shown by its elements, in one piece each
-/

namespace Callstack.Mangling.Legacy

/-- An element as it stands in a name: its length and its text. -/
def written (element : List Char) : List Char :=
  Nat.toDigits 10 element.length ++ element

/-- A text that a number in front of it does not run into: it begins, and with no digit. -/
def EndsNumber (text : List Char) : Prop :=
  ∃ c rest, text = c :: rest ∧ isDigit c = false

/-! ### Lengths -/

theorem isDigit_eq (c : Char) : isDigit c = c.isDigit := rfl

/-- A length is read back. -/
theorem number_toDigits (n : Nat) : number (Nat.toDigits 10 n) = n := by
  have value : number (Nat.toDigits 10 n) = Nat.ofDigitChars 10 (Nat.toDigits 10 n) 0 := by
    rw [number, Nat.ofDigitChars_eq_foldl]
    simp only [Nat.mul_comm]
  rw [value, Nat.ofDigitChars_ten_toDigits]

theorem isDigit_of_mem_toDigits {n : Nat} {c : Char} (digit : c ∈ Nat.toDigits 10 n) :
    isDigit c = true := by
  rw [isDigit_eq]
  exact Nat.isDigit_of_mem_toDigits (by decide) (by decide) digit

section Element

variable {element : List Char} (ends : EndsNumber element) (text : List Char)

include ends in
/-- The digits that a written element begins with are its length. -/
theorem takeWhile_written :
    (written element ++ text).takeWhile isDigit = Nat.toDigits 10 element.length := by
  obtain ⟨c, rest, rfl, noDigit⟩ := ends
  rw [written, List.append_assoc, List.takeWhile_append_of_pos fun _ => isDigit_of_mem_toDigits]
  simp [noDigit]

include ends in
/-- Behind the digits that a written element begins with stands its text. -/
theorem dropWhile_written :
    (written element ++ text).dropWhile isDigit = element ++ text := by
  obtain ⟨c, rest, rfl, noDigit⟩ := ends
  rw [written, List.append_assoc, List.dropWhile_append_of_pos fun _ => isDigit_of_mem_toDigits]
  simp [noDigit]

/-- A written element begins with a digit, so it does not look like the end of a path. -/
theorem head?_written_ne : (written element ++ text).head? ≠ some 'E' := by
  obtain ⟨c, digits, split⟩ := List.exists_cons_of_ne_nil
    (Nat.toDigits_ne_nil (b := 10) (n := element.length))
  have isDigit : isDigit c = true := by
    apply isDigit_of_mem_toDigits (n := element.length)
    rw [split]
    exact List.mem_cons_self
  rw [written, split]
  rintro ⟨⟩
  cases isDigit

include ends in
/-- An element is read back, and reading goes on behind it. -/
theorem elements?_written_append :
    elements? (written element ++ text) =
      (elements? text).map fun (path, rest) => (element :: path, rest) := by
  have shorter : (element ++ text).length < (written element ++ text).length := by
    have digits : 0 < (Nat.toDigits 10 element.length).length := Nat.length_toDigits_pos
    simp only [written, List.length_append]
    omega
  have fits : element.length ≤ (element ++ text).length := by
    rw [List.length_append]
    exact Nat.le_add_right _ _
  -- The length that is read is that of the text behind it, so the cut is right behind the element.
  rw [elements?, if_neg (head?_written_ne text)]
  simp only [takeWhile_written ends, dropWhile_written ends, number_toDigits]
  rw [dif_pos shorter, if_pos fits, List.drop_left, List.take_left]

end Element

/-- A path is read back, together with what stands behind it. -/
theorem elements?_flatMap_written {elements : List (List Char)}
    (ends : ∀ element ∈ elements, EndsNumber element) (rest : List Char) :
    elements? (elements.flatMap written ++ 'E' :: rest) = some (elements, rest) := by
  induction elements with
  | nil =>
    rw [elements?]
    rfl
  | cons element elements ih =>
    have others := ih fun other member => ends other (List.mem_cons_of_mem _ member)
    rw [List.flatMap_cons, List.append_assoc,
      elements?_written_append (ends element List.mem_cons_self), others]
    rfl

/-! ### Elements without escapes -/

/-- An element without points and dollar signs has no escapes, so it is shown in one piece. -/
theorem unescape_eq_singleton {text : List Char} (nonempty : text ≠ []) (noPoint : '.' ∉ text)
    (noDollar : '$' ∉ text) : unescape text = [String.ofList text] := by
  cases text with
  | nil => exact absurd rfl nonempty
  | cons c rest =>
    rw [List.mem_cons, not_or] at noPoint noDollar
    have plain : ∀ d ∈ rest, isPlain d = true := by
      intro d member
      have noDollar : d ≠ '$' := fun same => noDollar.2 (same ▸ member)
      have noPoint : d ≠ '.' := fun same => noPoint.2 (same ▸ member)
      simp [isPlain, noDollar, noPoint]
    -- The last equation applies if the first character begins no kind of escape.
    rw [unescape]
    · rw [List.takeWhile_eq_self_iff.mpr plain, List.drop_length, unescape]
    · rintro following rfl -
      exact noPoint.1 rfl
    · exact fun same => noPoint.1 same.symm
    · exact fun same => noDollar.1 same.symm

theorem decode_eq_singleton {element : List Char} (nonempty : element ≠ [])
    (noPoint : '.' ∉ element) (noDollar : '$' ∉ element) :
    decode element = [String.ofList element] := by
  unfold decode
  split
  · simp at noDollar
  · exact unescape_eq_singleton nonempty noPoint noDollar

theorem intercalate_map_singleton (separator : String) (texts : List String) :
    [separator].intercalate (texts.map fun text => [text]) = texts.intersperse separator := by
  induction texts with
  | nil => rfl
  | cons first rest ih =>
    cases rest with
    | nil => rfl
    | cons second rest =>
      rw [List.map_cons] at ih
      rw [List.map_cons, List.map_cons, List.intercalate_cons_cons, ih, List.intersperse_cons_cons]
      rfl

/-- What is shown of a path depends on its last element alone. -/
theorem Path.shown_concat (elements : List (List Char)) (last : List Char) :
    (Path.mk (elements ++ [last])).shown =
      if isHash last then elements else elements ++ [last] := by
  simp [Path.shown]

/-- The elements of a path that are shown are elements of it. -/
theorem Path.mem_of_mem_shown {path : Path} {element : List Char} (member : element ∈ path.shown) :
    element ∈ path.elements := by
  unfold Path.shown at member
  split at member
  · split at member
    · exact List.dropLast_subset _ member
    · exact member
  · cases member

/-- A path without escapes is shown by its elements, each in one piece. -/
theorem Path.pieces_of_plain {path : Path}
    (plain : ∀ element ∈ path.elements, element ≠ [] ∧ '.' ∉ element ∧ '$' ∉ element) :
    path.pieces = (path.shown.map String.ofList).intersperse "::" := by
  have pieces : path.shown.map decode = (path.shown.map String.ofList).map fun text => [text] := by
    rw [List.map_map]
    refine List.map_congr_left fun element member => ?_
    obtain ⟨nonempty, noPoint, noDollar⟩ := plain element (mem_of_mem_shown member)
    exact decode_eq_singleton nonempty noPoint noDollar
  rw [Path.pieces, pieces, intercalate_map_singleton]

end Callstack.Mangling.Legacy
