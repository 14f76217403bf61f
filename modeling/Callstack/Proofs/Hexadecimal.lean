import Callstack.Text.Hex
import Callstack.Text.Numeral

/-!
# Hexadecimal numbers, written and read

Two ways to write a number with a fixed width agree: its lowest digits, and its digits filled up
with zeros. A number that is written in any of the usual ways, with zeros in front and with letters
of either case, is read back, as long as it fits into a word.

## Main definitions

* `Hex.Spells` — a text that is a way to write a number

## Main results

* `fixed_eq_padded` — the lowest digits of a number are its digits with zeros in front
* `Spells.read_eq` — a written number is read back
* `Spells.not_mem` — what does not stand in a written number
-/

namespace Callstack.Hex

/-- The lowest digits of zero. -/
theorem fixed_zero (width : Nat) : fixed width 0 = List.replicate width '0' := by
  induction width with
  | zero => rfl
  | succ width ih => simp [fixed, ih, List.replicate_succ']

/-- A number below `limit width` has no more than `width` digits, so its lowest ones are all of
them, with zeros in front. -/
theorem fixed_eq_padded {width n : Nat} (positive : 0 < width) (small : n < limit width) :
    fixed width n = padded width n := by
  induction width generalizing n with
  | zero => exact absurd positive (Nat.lt_irrefl 0)
  | succ width ih =>
    simp only [fixed, padded, minimal]
    rw [Nat.toDigits_eq_if (by decide)]
    split
    · -- All digits but the last one are zeros.
      rename_i digit
      rw [Nat.div_eq_of_lt digit, Nat.mod_eq_of_lt digit, fixed_zero]
      simp [List.leftpad]
    · rename_i large
      have shorter : n / 16 < limit width := by
        rw [limit] at small
        omega
      have more : 0 < width := by
        rcases Nat.eq_zero_or_pos width with rfl | more
        · rw [limit] at shorter
          omega
        · exact more
      rw [ih more shorter]
      simp [padded, minimal, List.leftpad]

/-- A text that is a number in hexadecimal: its digits, in either case, behind any number of
zeros. -/
def Spells (text : List Char) (n : Nat) : Prop :=
  ∃ zeros, text.map Char.toLower = List.replicate zeros '0' ++ minimal n

end Hex

namespace Numeral

private theorem toNat_toLower (c : Char) :
    c.toLower.toNat = if 65 ≤ c.toNat ∧ c.toNat ≤ 90 then c.toNat + 32 else c.toNat := by
  have upper : (c.val ≥ 'A'.val ∧ c.val ≤ 'Z'.val) ↔ 65 ≤ c.toNat ∧ c.toNat ≤ 90 := by
    simp only [ge_iff_le, UInt32.le_iff_toNat_le]
    rfl
  unfold Char.toLower
  split
  · rename_i isUpper
    have bounds := upper.mp isUpper
    rw [if_pos bounds]
    change (c.val + ('a'.val - 'A'.val)).toNat = c.toNat + 32
    have step : ('a'.val - 'A'.val).toNat = 32 := by decide
    have word : c.val.toNat = c.toNat := rfl
    rw [UInt32.toNat_add, step, word]
    omega
  · rename_i notUpper
    rw [if_neg fun bounds => notUpper (upper.mpr bounds)]

/-- The case of a letter does not matter for its value. -/
theorem digit?_toLower (radix : Nat) (c : Char) : digit? radix c.toLower = digit? radix c := by
  have le (a b : Char) : a ≤ b ↔ a.toNat ≤ b.toNat := by
    rw [Char.le_def, UInt32.le_iff_toNat_le]
    rfl
  have value :
      (if '0' ≤ c.toLower ∧ c.toLower ≤ '9' then c.toLower.toNat - '0'.toNat
        else if 'a' ≤ c.toLower ∧ c.toLower ≤ 'z' then c.toLower.toNat - 'a'.toNat + 10
        else if 'A' ≤ c.toLower ∧ c.toLower ≤ 'Z' then c.toLower.toNat - 'A'.toNat + 10
        else radix) =
      if '0' ≤ c ∧ c ≤ '9' then c.toNat - '0'.toNat
        else if 'a' ≤ c ∧ c ≤ 'z' then c.toNat - 'a'.toNat + 10
        else if 'A' ≤ c ∧ c ≤ 'Z' then c.toNat - 'A'.toNat + 10
        else radix := by
    simp only [le, toNat_toLower, Char.reduceToNat]
    split <;> grind
  unfold digit?
  simp only [value]

theorem digit?_digitChar {d : Nat} (small : d < 16) : digit? 16 (Nat.digitChar d) = some d := by
  have all : ∀ d : Fin 16, digit? 16 (Nat.digitChar d) = some d.val := by decide
  exact all ⟨d, small⟩

theorem digit?_of_toLower {c : Char} {d : Nat} (small : d < 16)
    (lower : c.toLower = Nat.digitChar d) : digit? 16 c = some d := by
  rw [← digit?_toLower, lower, digit?_digitChar small]

theorem readDigits_append (radix : Nat) (a b : List Char) (n : Nat) :
    readDigits radix (a ++ b) n = (readDigits radix a n).bind (readDigits radix b) := by
  induction a generalizing n with
  | nil => rfl
  | cons c a ih =>
    simp only [List.cons_append, readDigits]
    cases digit? radix c with
    | none => rfl
    | some d =>
      simp only
      split
      · exact ih _
      · rfl

/-- What is read consists of digits. -/
theorem isSome_digit?_of_readDigits {radix n m : Nat} {text : List Char}
    (reads : readDigits radix text n = .ok m) : ∀ c ∈ text, (digit? radix c).isSome := by
  induction text generalizing n with
  | nil => simp
  | cons c text ih =>
    simp only [readDigits] at reads
    cases digit : digit? radix c with
    | none =>
      rw [digit] at reads
      cases reads
    | some d =>
      rw [digit] at reads
      simp only at reads
      split at reads
      · intro other member
        rcases List.mem_cons.mp member with rfl | member
        · rw [digit]
          rfl
        · exact ih reads other member
      · cases reads

theorem readDigits_zeros {zeros : Nat} {text : List Char}
    (lower : text.map Char.toLower = List.replicate zeros '0') :
    readDigits 16 text 0 = .ok 0 := by
  induction zeros generalizing text with
  | zero =>
    obtain rfl := List.map_eq_nil_iff.mp lower
    rfl
  | succ zeros ih =>
    obtain ⟨c, rest, rfl, isZero, lower⟩ := List.map_eq_cons_iff.mp lower
    have digit : digit? 16 c = some 0 := digit?_of_toLower (by decide) isZero
    simpa [readDigits, digit, wordLimit] using ih lower

/-- The digits of a number are read back, by induction on the number, last digit first. -/
theorem readDigits_minimal {n : Nat} (small : n < wordLimit) {text : List Char}
    (lower : text.map Char.toLower = Hex.minimal n) : readDigits 16 text 0 = .ok n := by
  induction n using Nat.strongRecOn generalizing text with
  | ind n ih =>
    rw [Hex.minimal, Nat.toDigits_eq_if (by decide)] at lower
    split at lower
    · rename_i single
      obtain ⟨c, rest, rfl, isDigit, lower⟩ := List.map_eq_cons_iff.mp lower
      obtain rfl := List.map_eq_nil_iff.mp lower
      simp [readDigits, digit?_of_toLower single isDigit, small]
    · -- The last digit is the remainder, and those in front of it are the digits of the quotient.
      rename_i large
      obtain ⟨high, low, rfl, lowerHigh, lowerLow⟩ := List.map_eq_append_iff.mp lower
      obtain ⟨c, rest, rfl, isDigit, lowerRest⟩ := List.map_eq_cons_iff.mp lowerLow
      obtain rfl := List.map_eq_nil_iff.mp lowerRest
      have readsHigh : readDigits 16 high 0 = .ok (n / 16) :=
        ih (n / 16) (by omega) (by omega) lowerHigh
      have digit := digit?_of_toLower (Nat.mod_lt n (by decide)) isDigit
      have whole : n / 16 * 16 + n % 16 = n := by omega
      rw [readDigits_append, readsHigh]
      simp [Except.bind, readDigits, digit, whole, small]

end Numeral

namespace Hex.Spells

variable {text : List Char} {n : Nat}

theorem readDigits_eq (spells : Spells text n) (small : n < Numeral.wordLimit) :
    Numeral.readDigits 16 text 0 = .ok n := by
  obtain ⟨zeros, lower⟩ := spells
  obtain ⟨front, digits, rfl, lowerFront, lowerDigits⟩ := List.map_eq_append_iff.mp lower
  rw [Numeral.readDigits_append, Numeral.readDigits_zeros lowerFront]
  exact Numeral.readDigits_minimal small lowerDigits

/-- A character that is no digit does not stand in a written number. -/
theorem not_mem (spells : Spells text n) (small : n < Numeral.wordLimit) {c : Char}
    (noDigit : Numeral.digit? 16 c = none) : c ∉ text := by
  intro member
  have digit := Numeral.isSome_digit?_of_readDigits (spells.readDigits_eq small) c member
  rw [noDigit] at digit
  cases digit

/-- A written number is read back. -/
theorem read_eq (spells : Spells text n) (small : n < Numeral.wordLimit) :
    Numeral.read 16 text = .ok n := by
  have reads := spells.readDigits_eq small
  have noSign : '+' ∉ text := spells.not_mem small rfl
  unfold Numeral.read
  -- A written number is not empty and has no sign in front.
  split
  · obtain ⟨zeros, lower⟩ := spells
    have digits : minimal n ≠ [] := Nat.toDigits_ne_nil
    simp [digits] at lower
  · simp at noSign
  · simp at noSign
  · exact reads

end Hex.Spells

end Callstack
