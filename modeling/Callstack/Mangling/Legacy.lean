import Callstack.Mangling.Limit

/-!
# Legacy Rust names

A legacy name is a path: after the mark `ZN`, which may have one or two underscores in front, come
the elements of the path, each as its length and its text, and then an `E`. The compiler appends a
last element with a hash, which is not shown, and writes characters that linkers do not take as
escapes inside the elements.

## Main definitions

* `Legacy.elements?` — the elements of a path, and the text behind the closing `E`
* `Legacy.decode` — an element with its escapes replaced, in pieces
* `Legacy.Path.display` — the path in the form of the source, as far as it fits
-/

namespace Callstack.Mangling.Legacy

/-- A decimal digit. -/
def isDigit (c : Char) : Bool := '0' ≤ c && c ≤ '9'

/-- The value of decimal digits. -/
def number (digits : List Char) : Nat :=
  digits.foldl (fun n c => n * 10 + (c.toNat - '0'.toNat)) 0

/-- The elements up to the closing `E`, and the text behind it. -/
def elements? (text : List Char) : Option (List (List Char) × List Char) :=
  if text.head? = some 'E' then some ([], text.tail)
  else
    let body := text.dropWhile isDigit
    let length := number (text.takeWhile isDigit)
    if _h : body.length < text.length then
      if length ≤ body.length then
        (elements? (body.drop length)).map fun (path, rest) => (body.take length :: path, rest)
      else none
    else none
termination_by text.length
decreasing_by simp only [body, List.length_drop] at *; omega

/-- The character that a name between two dollar signs stands for. -/
def namedEscape? : List Char → Option Char
  | ['S', 'P'] => some '@'
  | ['B', 'P'] => some '*'
  | ['R', 'F'] => some '&'
  | ['L', 'T'] => some '<'
  | ['G', 'T'] => some '>'
  | ['L', 'P'] => some '('
  | ['R', 'P'] => some ')'
  | ['C'] => some ','
  | _ => none

/-- The value of a lower-case hexadecimal digit. -/
def hexDigit? (c : Char) : Option Nat :=
  if '0' ≤ c ∧ c ≤ '9' then some (c.toNat - '0'.toNat)
  else if 'a' ≤ c ∧ c ≤ 'f' then some (c.toNat - 'a'.toNat + 10)
  else none

/-- The character with a code point in lower-case hexadecimal, unless it is a control. -/
def codeEscape? (digits : List Char) : Option Char :=
  if digits.isEmpty then none
  else
    match digits.mapM hexDigit? with
    | none => none
    | some values =>
      let code := values.foldl (fun n d => n * 16 + d) 0
      let isControl := code < 0x20 || (0x7f ≤ code && code < 0xa0)
      if code.isValidChar && !isControl then some (Char.ofNat code) else none

/-- The character that the text between two dollar signs stands for. -/
def escape? : List Char → Option Char
  | 'u' :: digits => codeEscape? digits
  | name => namedEscape? name

/-- A character that begins neither an escape nor a doubled point. -/
def isPlain (c : Char) : Bool := c ≠ '$' && c ≠ '.'

/-- The pieces in which an element is shown: its escapes and points one by one, and the texts
between them. An escape that stands for nothing leaves everything from it on as it is. -/
def unescape (text : List Char) : List String :=
  match text with
  | [] => []
  | '.' :: '.' :: rest => "::" :: unescape rest
  | '.' :: rest => "." :: unescape rest
  | '$' :: rest =>
    let name := rest.takeWhile (· ≠ '$')
    if _h : name.length < rest.length then
      match escape? name with
      | some c => String.singleton c :: unescape (rest.drop (name.length + 1))
      | none => [String.ofList text]
    else [String.ofList text]
  | c :: rest =>
    let run := rest.takeWhile isPlain
    String.ofList (c :: run) :: unescape (rest.drop run.length)
termination_by text.length
decreasing_by all_goals simp only [List.length_cons, List.length_drop]; omega

/-- The pieces of an element in the form of the source. An underscore that only protects an escape
at the beginning is left out. -/
def decode : List Char → List String
  | '_' :: '$' :: rest => unescape ('$' :: rest)
  | element => unescape element

/-- A hexadecimal digit in either case. -/
def isHexDigit (c : Char) : Bool :=
  isDigit c || ('a' ≤ c && c ≤ 'f') || ('A' ≤ c && c ≤ 'F')

/-- Whether an element is the compiler's hash: an `h` and any number of hexadecimal digits. -/
def isHash : List Char → Bool
  | 'h' :: digits => digits.all isHexDigit
  | _ => false

/-- A path with the elements as they are written. -/
structure Path where
  /-- The elements, outermost first. -/
  elements : List (List Char)

/-- The elements that are shown: all but a hash at the end. -/
def Path.shown (path : Path) : List (List Char) :=
  match path.elements.getLast? with
  | some last => if isHash last then path.elements.dropLast else path.elements
  | none => []

/-- The pieces in which a path is shown. -/
def Path.pieces (path : Path) : List String :=
  ["::"].intercalate (path.shown.map decode)

/-- The path in the form of the source, as far as it fits. -/
def Path.display (path : Path) : String := limited path.pieces

/-- The text behind the mark of a legacy name. -/
def unmarked? : List Char → Option (List Char)
  | '_' :: 'Z' :: 'N' :: rest => some rest
  | 'Z' :: 'N' :: rest => some rest
  | '_' :: '_' :: 'Z' :: 'N' :: rest => some rest
  | _ => none

/-- The path of a legacy name and the text behind it. Names are ASCII. -/
def parse? (name : List Char) : Option (Path × List Char) :=
  match unmarked? name with
  | none => none
  | some text =>
    if text.all fun c => c.toNat < 128 then
      (elements? text).map fun (elements, rest) => (⟨elements⟩, rest)
    else none

end Callstack.Mangling.Legacy
