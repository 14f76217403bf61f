import Callstack.Text.Hex
import Callstack.Text.Outline

/-!
# Addresses

An address is one 64-bit word of the captured process. It is shown as `0x` and sixteen digits, so
that addresses line up below each other and the text determines the address.

## Main results

* `Address.toNat_lt_limit` — sixteen digits are enough
* `Address.digits_injective` — two addresses with the same digits are equal
-/

namespace Callstack

/-- The address of an instruction. -/
structure Address where
  /-- The address as a number. -/
  word : UInt64
  deriving DecidableEq, Repr, Inhabited

namespace Address

/-- The address that is no address: the end of a stack, or an unused slot of a trace. -/
def null : Address := ⟨0⟩

/-- Whether an address is the null address. -/
def isNull (a : Address) : Bool := a.word == 0

/-- The address of a number. -/
def ofNat (n : Nat) : Address := ⟨UInt64.ofNat n⟩

/-- The number of an address. -/
def toNat (a : Address) : Nat := a.word.toNat

/-- How many hexadecimal digits an address has. -/
def digitCount : Nat := 16

/-- The sixteen digits of an address. -/
def digits (a : Address) : List Char := Hex.fixed digitCount a.toNat

/-- The form in which addresses are shown. -/
def display (a : Address) : String := String.ofList ('0' :: 'x' :: a.digits)

/-- The hexadecimal number filled up with zeros to a width, which includes the mark `0x` if there
is one. -/
def hex (isMarked : Bool) (width : Nat) (a : Address) : String :=
  String.ofList
    (if isMarked then '0' :: 'x' :: Hex.padded (width - 2) a.toNat else Hex.padded width a.toNat)

/-- The outline of an address, a decimal number under its type's name. -/
def outline (a : Address) : Outline :=
  .tuple "FrameAddress" [.text (toString a.toNat)]

@[simp] theorem isNull_iff (a : Address) : a.isNull = true ↔ a = null := by
  cases a; simp [isNull, null]

@[simp] theorem length_digits (a : Address) : a.digits.length = 16 := by
  simp [digits, digitCount]

/-- The digits of an address are enough for its number. -/
theorem toNat_lt_limit (a : Address) : a.toNat < Hex.limit digitCount :=
  a.word.toNat_lt

/-- The digits determine the address. -/
theorem digits_injective {a b : Address} (h : a.digits = b.digits) : a = b := by
  have := Hex.fixed_injective (toNat_lt_limit a) (toNat_lt_limit b) h
  cases a; cases b
  simpa [toNat, UInt64.toNat_inj] using this

end Address

end Callstack
