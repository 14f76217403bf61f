/-!
# Identifiers of v0 names

An identifier is ASCII text, or the Punycode form of a text with other characters: the ASCII
characters of the text, and the positions and code points of the others as a sequence of
generalised variable-length integers (RFC 3492).

## Main definitions

* `Ident.decode?` — the text that a Punycode form stands for
* `Ident.pieces` — the pieces in which an identifier is written
-/

namespace Callstack.Mangling.V0

/-- An identifier: its ASCII characters, and the encoded rest, which is empty for plain ASCII. -/
structure Ident where
  /-- The ASCII characters. -/
  ascii : List Char
  /-- The encoded positions and code points. -/
  punycode : List Char

namespace Ident

/-- Whether an identifier has no text at all. -/
def isEmpty (ident : Ident) : Bool :=
  ident.ascii.isEmpty && ident.punycode.isEmpty

/-- The longest text that is decoded. -/
def decodeLimit : Nat := 128

private def wordLimit : Nat := 1 <<< 64

/-- The value of a Punycode digit: letters before decimal digits. -/
def digit? (c : Char) : Option Nat :=
  if 'a' ≤ c ∧ c ≤ 'z' then some (c.toNat - 'a'.toNat)
  else if '0' ≤ c ∧ c ≤ '9' then some (26 + (c.toNat - '0'.toNat))
  else none

/-- Read one variable-length integer. Position `k` and weight `w` grow with every digit; a digit
below the threshold of its position is the last one. -/
def delta? (bias : Nat) : List Char → (k w delta : Nat) → Option (Nat × List Char)
  | [], _, _, _ => none
  | c :: rest, k, w, delta =>
    let k := k + 36
    let threshold := min (max (k - bias) 1) 26
    match digit? c with
    | none => none
    | some d =>
      let delta := delta + d * w
      if delta < wordLimit then
        if d < threshold then some (delta, rest)
        else if w * (36 - threshold) < wordLimit then
          delta? bias rest k (w * (36 - threshold)) delta
        else none
      else none

/-- The quotient and the position weight after dividing `delta` until it is small. -/
def scale : Nat → (delta k : Nat) → Nat × Nat
  | 0, delta, k => (delta, k)
  | fuel + 1, delta, k => if 455 < delta then scale fuel (delta / 35) (k + 36) else (delta, k)

/-- The bias for the next integer, after one with value `delta` that made the text `length`
characters long. -/
def adapt (delta damp length : Nat) : Nat :=
  let delta := delta / damp
  let (delta, k) := scale 64 (delta + delta / length) 0
  k + 36 * delta / (delta + 38)

/-- Insert the encoded characters. Each integer advances the state by a number of steps through all
positions of the growing text, and from the end on to the next code point. -/
def insertAll : Nat → List Char → (text : List Char) → (code position bias damp : Nat) →
    Option (List Char)
  | 0, _, _, _, _, _, _ => none
  | fuel + 1, digits, text, code, position, bias, damp =>
    match delta? bias digits 0 1 0 with
    | none => none
    | some (delta, rest) =>
      let length := text.length + 1
      let sum := position + delta
      let code := code + sum / length
      let position := sum % length
      if wordLimit ≤ sum ∨ ¬code.isValidChar ∨ decodeLimit < length then none
      else
        let text := text.take position ++ Char.ofNat code :: text.drop position
        if rest.isEmpty then some text
        else insertAll fuel rest text code (position + 1) (adapt delta damp length) 2

/-- The text that a Punycode form stands for. There is none for plain ASCII, for a broken form, and
for a text that is too long. -/
def decode? (ident : Ident) : Option (List Char) :=
  if ident.punycode.isEmpty ∨ decodeLimit < ident.ascii.length then none
  else insertAll (ident.punycode.length + 1) ident.punycode ident.ascii 0x80 0 72 700

/-- The pieces in which an identifier is written: the decoded characters, the ASCII text, or the
standard Punycode form if it cannot be decoded. -/
def pieces (ident : Ident) : List String :=
  match ident.decode? with
  | some text => text.map String.singleton
  | none =>
    if ident.punycode.isEmpty then [String.ofList ident.ascii]
    else
      ["punycode\x7b"] ++
      (if ident.ascii.isEmpty then [] else [String.ofList ident.ascii, "-"]) ++
      [String.ofList ident.punycode, "\x7d"]

end Ident

end Callstack.Mangling.V0
