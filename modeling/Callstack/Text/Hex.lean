/-!
# Hexadecimal text

Numbers are shown in lower-case hexadecimal. `Hex.fixed` writes a chosen number of low digits,
`Hex.minimal` writes as many digits as the number needs, and `Hex.padded` fills the latter up to a
least width.

## Main results

* `length_fixed` — a fixed-width text has exactly its width
* `fixed_injective` — below `limit width` the text determines the number
-/

namespace Callstack.Hex

/-- The `width` lowest hexadecimal digits of `n`, most significant first. -/
def fixed : Nat → Nat → List Char
  | 0, _ => []
  | width + 1, n => fixed width (n / 16) ++ [Nat.digitChar (n % 16)]

/-- The first number with more than `width` digits. -/
def limit : Nat → Nat
  | 0 => 1
  | width + 1 => 16 * limit width

/-- The hexadecimal digits of `n` without leading zeros; zero is the one digit `0`. -/
def minimal (n : Nat) : List Char :=
  Nat.toDigits 16 n

/-- The digits of `n`, filled up with zeros on the left to at least `width` characters. -/
def padded (width n : Nat) : List Char :=
  (minimal n).leftpad width '0'

/-- The form with the base in front: `0x` and the digits. -/
def marked (n : Nat) : List Char :=
  '0' :: 'x' :: minimal n

@[simp] theorem length_fixed (width n : Nat) : (fixed width n).length = width := by
  induction width generalizing n with
  | zero => rfl
  | succ width ih => simp [fixed, ih]

private theorem digitChar_injective {a b : Nat} (ha : a < 16) (hb : b < 16)
    (h : Nat.digitChar a = Nat.digitChar b) : a = b := by
  have all : ∀ a : Fin 16, ∀ b : Fin 16,
      Nat.digitChar a.val = Nat.digitChar b.val → a = b := by decide
  simpa using congrArg Fin.val (all ⟨a, ha⟩ ⟨b, hb⟩ h)

/-- A number below `limit width` can be read off its fixed-width text. -/
theorem fixed_injective {width a b : Nat} (ha : a < limit width) (hb : b < limit width)
    (h : fixed width a = fixed width b) : a = b := by
  induction width generalizing a b with
  | zero => simp only [limit] at ha hb; omega
  | succ width ih =>
    simp only [fixed] at h
    obtain ⟨high, low⟩ := List.append_inj h (by simp)
    have lows : a % 16 = b % 16 :=
      digitChar_injective (Nat.mod_lt _ (by omega)) (Nat.mod_lt _ (by omega)) (by simpa using low)
    have highs : a / 16 = b / 16 :=
      ih (by rw [limit] at ha; omega) (by rw [limit] at hb; omega) high
    omega

end Callstack.Hex
