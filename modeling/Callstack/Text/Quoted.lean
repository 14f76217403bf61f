import Callstack.Text.Hex
import Callstack.Text.Unprintable

/-!
# Quoted text

A text between quotes, where the characters that would be lost or misread are escaped: the usual
short escapes, and `\u` with the hexadecimal code point in braces for combining and unprintable
characters. Of the two kinds of quote only the enclosing one is escaped.
-/

namespace Callstack.Quoted

/-- The written form of one character between the given quotes. -/
def escape (quote c : Char) : List Char :=
  match c with
  | '\x00' => ['\\', '0']
  | '\t' => ['\\', 't']
  | '\r' => ['\\', 'r']
  | '\n' => ['\\', 'n']
  | '\\' => ['\\', '\\']
  | c =>
    if c = '"' ∨ c = '\'' then if c = quote then ['\\', c] else [c]
    else if Text.isCombining c || !Text.isPrintable c then
      '\\' :: 'u' :: '{' :: Hex.minimal c.toNat ++ ['}']
    else [c]

/-- A text in its quoted form. -/
def encode (quote : Char) (text : List Char) : List Char :=
  quote :: text.flatMap (escape quote) ++ [quote]

end Callstack.Quoted
