/-!
# Numerals of 64-bit words

A numeral is an optional plus sign and at least one digit of its radix, in either case, with any
number of leading zeros, for a value below `2 ^ 64`. Digits are taken from the left and the first
problem is the one reported.
-/

namespace Callstack.Numeral

/-- Why a text is no numeral. -/
inductive Fault where
  | empty
  | invalidDigit
  | tooLarge
  deriving DecidableEq, Repr

/-- The wording of a fault. -/
def Fault.message : Fault → String
  | .empty => "cannot parse integer from empty string"
  | .invalidDigit => "invalid digit found in string"
  | .tooLarge => "number too large to fit in target type"

/-- The first number that a 64-bit word cannot hold. -/
def wordLimit : Nat := 1 <<< 64

/-- The value of an ASCII digit or letter in the given radix, letters counting on from ten. -/
def digit? (radix : Nat) (c : Char) : Option Nat :=
  let value :=
    if '0' ≤ c ∧ c ≤ '9' then c.toNat - '0'.toNat
    else if 'a' ≤ c ∧ c ≤ 'z' then c.toNat - 'a'.toNat + 10
    else if 'A' ≤ c ∧ c ≤ 'Z' then c.toNat - 'A'.toNat + 10
    else radix
  if value < radix then some value else none

/-- Continue a number whose leading digits have the value `n`. -/
def readDigits (radix : Nat) : List Char → Nat → Except Fault Nat
  | [], n => .ok n
  | c :: rest, n =>
    match digit? radix c with
    | none => .error .invalidDigit
    | some d =>
      if n * radix + d < wordLimit then readDigits radix rest (n * radix + d)
      else .error .tooLarge

/-- The value of a numeral, or the first thing wrong with it. -/
def read (radix : Nat) : List Char → Except Fault Nat
  | [] => .error .empty
  | ['+'] => .error .invalidDigit
  | '+' :: rest => readDigits radix rest 0
  | text => readDigits radix text 0

end Callstack.Numeral
