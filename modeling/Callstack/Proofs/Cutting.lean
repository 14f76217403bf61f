import Callstack.Text.Utf8
import Mathlib.Tactic.SplitIfs

/-!
# Cutting texts by bytes

A text can be cut at a byte offset if that is between two of its characters. There are three ways
to cut: to take as many whole characters as fit, which always succeeds, to cut exactly at the offset
or fail, and to take what lies between two offsets or fail. What they find is described by the parts
of the text and their sizes, so that nothing depends on how the text goes on behind the cut.

## Main definitions

* `Utf8.truncate?` — cutting a text back, which is a fault inside a character

## Main results

* `fit_append` — a text in two parts is taken like the whole text
* `fit_isPrefix`, `size_fit_le`, `prefix_fit` — what is taken is the longest beginning that fits
* `splitAt?_eq_some_iff`, `slice?_eq_some_iff` — the parts that are found are those of the right
  sizes
* `slice?_append_of_le` — a part is found in a text as in every beginning of it
* `truncate?_eq_none_iff` — the faults are the offsets inside a character
-/

namespace Callstack.Utf8

variable {room offset start stop : Nat} {text front back part kept : List Char}

theorem size_pos_iff : 0 < size text ↔ text ≠ [] := by
  cases text with
  | nil => simp
  | cons c text =>
    have positive := c.utf8Size_pos
    simp
    omega

/-! ### Taking what fits -/

/-- As much room as the first part takes holds just that part. -/
theorem fit_size_append (a b : List Char) : fit (size a) (a ++ b) = a := by
  induction a with
  | nil =>
    cases b with
    | nil => rfl
    | cons c b =>
      have positive := c.utf8Size_pos
      simp [fit]
      omega
  | cons c a ih => simp [fit, ih]

/-- The second part of a text is taken if there is room behind the whole first part. -/
theorem fit_append (room : Nat) (front back : List Char) :
    fit room (front ++ back) =
      if size front ≤ room then front ++ fit (room - size front) back else fit room front := by
  induction front generalizing room with
  | nil => simp
  | cons c front ih =>
    rw [List.cons_append, fit, fit, ih, size_cons]
    by_cases fits : c.utf8Size ≤ room
    · have behind : size front ≤ room - c.utf8Size ↔ c.utf8Size + size front ≤ room := by omega
      simp only [if_pos fits, behind, Nat.sub_sub]
      split_ifs
      · rfl
      · rfl
    · have tooLong : ¬c.utf8Size + size front ≤ room := by omega
      rw [if_neg fits, if_neg fits, if_neg tooLong]

theorem fit_isPrefix (room : Nat) (text : List Char) : fit room text <+: text := by
  induction text generalizing room with
  | nil => exact List.nil_prefix
  | cons c text ih =>
    rw [fit]
    split_ifs with fits
    · exact List.cons_prefix_cons.mpr ⟨rfl, ih _⟩
    · exact List.nil_prefix

theorem size_fit_le (room : Nat) (text : List Char) : size (fit room text) ≤ room := by
  induction text generalizing room with
  | nil => exact Nat.zero_le room
  | cons c text ih =>
    rw [fit]
    split_ifs with fits
    · have rest := ih (room - c.utf8Size)
      rw [size_cons]
      omega
    · exact Nat.zero_le room

/-- A beginning that fits is taken. -/
theorem prefix_fit {beginning : List Char} (isBeginning : beginning <+: text)
    (fits : size beginning ≤ room) : beginning <+: fit room text := by
  obtain ⟨back, rfl⟩ := isBeginning
  rw [fit_append, if_pos fits]
  exact List.prefix_append _ _

/-- A text is taken whole if it fits. -/
theorem fit_eq_self_iff : fit room text = text ↔ size text ≤ room := by
  constructor
  · intro whole
    have bound := size_fit_le room text
    rwa [whole] at bound
  · intro fits
    have whole := fit_append room text []
    rwa [List.append_nil, if_pos fits, fit, List.append_nil] at whole

theorem size_le_of_isPrefix (isBeginning : front <+: text) : size front ≤ size text := by
  obtain ⟨back, rfl⟩ := isBeginning
  rw [size_append]
  exact Nat.le_add_right _ _

/-- Of two beginnings of a text the one with fewer bytes is a beginning of the other. -/
theorem prefix_of_size_le {a b : List Char} (first : a <+: text) (second : b <+: text)
    (le : size a ≤ size b) : a <+: b := by
  obtain ⟨back, rfl⟩ := second
  have fits := prefix_fit first le
  rwa [fit_size_append] at fits

/-! ### Cutting at an offset -/

/-- The parts at an offset are those that make up the text and of which the first one has the right
size. -/
theorem splitAt?_eq_some_iff :
    splitAt? offset text = some (front, back) ↔ text = front ++ back ∧ size front = offset := by
  constructor
  · intro found
    induction text generalizing offset front with
    | nil =>
      cases offset with
      | zero =>
        cases found
        exact ⟨rfl, rfl⟩
      | succ offset => cases found
    | cons c rest ih =>
      cases offset with
      | zero =>
        cases found
        exact ⟨rfl, rfl⟩
      | succ offset =>
        rw [splitAt?] at found
        -- An offset inside the first character has no parts.
        split_ifs at found with fits
        obtain ⟨⟨before, after⟩, inner, same⟩ := Option.map_eq_some_iff.mp found
        cases same
        obtain ⟨rfl, size_eq⟩ := ih inner
        refine ⟨rfl, ?_⟩
        rw [size_cons, size_eq]
        omega
  · rintro ⟨rfl, rfl⟩
    exact splitAt?_size front back

/-- The part between two offsets has the right sizes in front of it and up to its end. -/
theorem slice?_eq_some_iff :
    slice? start stop text = some part ↔
      ∃ before after, text = before ++ part ++ after ∧ size before = start ∧
        start + size part = stop := by
  constructor
  · intro found
    rw [slice?] at found
    split_ifs at found with le
    cases cut : splitAt? start text with
    | none =>
      rw [cut] at found
      cases found
    | some parts =>
      obtain ⟨before, rest⟩ := parts
      rw [cut] at found
      obtain ⟨⟨inside, after⟩, inner, same⟩ := Option.map_eq_some_iff.mp found
      cases same
      obtain ⟨rfl, before_size⟩ := splitAt?_eq_some_iff.mp cut
      obtain ⟨rfl, part_size⟩ := splitAt?_eq_some_iff.mp inner
      refine ⟨before, after, (List.append_assoc _ _ _).symm, before_size, ?_⟩
      rw [part_size, Nat.add_sub_cancel' le]
  · rintro ⟨before, after, rfl, rfl, rfl⟩
    rw [List.append_assoc]
    exact slice?_append before part after

/-- What lies behind a beginning of the text does not matter for the parts of the beginning. -/
theorem slice?_append_of_le (le : stop ≤ size front) (back : List Char) :
    slice? start stop (front ++ back) = slice? start stop front := by
  ext part
  rw [slice?_eq_some_iff, slice?_eq_some_iff]
  constructor
  · rintro ⟨before, after, whole, before_size, part_size⟩
    -- The part and `front` are beginnings of the same text, and the part ends first.
    have ends : before ++ part <+: front ++ back := ⟨after, whole.symm⟩
    have ends_le : size (before ++ part) ≤ size front := by
      rw [size_append]
      omega
    obtain ⟨rest, rfl⟩ := prefix_of_size_le ends (List.prefix_append front back) ends_le
    exact ⟨before, rest, rfl, before_size, part_size⟩
  · rintro ⟨before, after, rfl, before_size, part_size⟩
    exact ⟨before, after ++ back, by simp only [List.append_assoc], before_size, part_size⟩

/-- Cut a text back to a byte offset, which is a fault inside a character. A text that is not longer
stays as it is. -/
def truncate? (offset : Nat) (text : List Char) : Option (List Char) :=
  if size text ≤ offset then some text else (splitAt? offset text).map Prod.fst

/-- Where it is no fault, cutting back takes what fits. -/
theorem eq_fit_of_truncate? (cut : truncate? offset text = some kept) : kept = fit offset text := by
  rw [truncate?] at cut
  split_ifs at cut with short
  · cases cut
    exact (fit_eq_self_iff.mpr short).symm
  · obtain ⟨⟨before, after⟩, found, same⟩ := Option.map_eq_some_iff.mp cut
    cases same
    obtain ⟨rfl, rfl⟩ := splitAt?_eq_some_iff.mp found
    exact (fit_size_append _ _).symm

/-- It is a fault to cut where no beginning of a longer text ends. -/
theorem truncate?_eq_none_iff :
    truncate? offset text = none ↔
      offset < size text ∧ ∀ beginning, beginning <+: text → size beginning ≠ offset := by
  rw [truncate?]
  split_ifs with short
  · simp only [false_iff, not_and]
    exact fun long => absurd short (Nat.not_le.mpr long)
  · rw [Option.map_eq_none_iff, Option.eq_none_iff_forall_ne_some]
    simp only [Nat.not_le.mp short, true_and]
    constructor
    · rintro missing beginning ⟨rest, whole⟩ isOffset
      exact missing (beginning, rest) (splitAt?_eq_some_iff.mpr ⟨whole.symm, isOffset⟩)
    · rintro missing ⟨before, after⟩ found
      obtain ⟨whole, isOffset⟩ := splitAt?_eq_some_iff.mp found
      exact missing before ⟨after, whole.symm⟩ isOffset

end Callstack.Utf8
