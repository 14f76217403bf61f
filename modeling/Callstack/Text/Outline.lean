/-!
# Outlines of values

The text that shows a value together with its structure, on one line or spread over indented lines.

## Main definitions

* `Outline` — a value as a tree of named parts
* `Outline.inline` — the form on one line
* `Outline.spread` — the form with one part per line, each level indented by four blanks
-/

namespace Callstack

/-- A value as a tree: a plain text, a name with parts in parentheses, a name with named parts in
braces, or a list in brackets. -/
inductive Outline where
  | text (shown : String)
  | tuple (name : String) (parts : List Outline)
  | record (name : String) (fields : List (String × Outline))
  | list (items : List Outline)

namespace Outline

mutual

/-- The form on one line. -/
def inline : Outline → String
  | .text shown => shown
  | .tuple name parts => name ++ "(" ++ ", ".intercalate (inlineAll parts) ++ ")"
  | .record name fields =>
    name ++ " \x7b " ++ ", ".intercalate (inlineFields fields) ++ " \x7d"
  | .list items => "[" ++ ", ".intercalate (inlineAll items) ++ "]"

/-- The one-line forms of several values. -/
def inlineAll : List Outline → List String
  | [] => []
  | part :: rest => part.inline :: inlineAll rest

/-- The one-line forms of named parts. -/
def inlineFields : List (String × Outline) → List String
  | [] => []
  | (name, part) :: rest => (name ++ ": " ++ part.inline) :: inlineFields rest

end

/-- The lines of one part inside brackets: indented, with a comma at the end. -/
def nest : List String → List String
  | [] => []
  | [line] => ["    " ++ line ++ ","]
  | line :: rest => ("    " ++ line) :: nest rest

/-- Put a text in front of the first line. -/
def lead (text : String) : List String → List String
  | [] => [text]
  | line :: rest => (text ++ line) :: rest

mutual

/-- The lines of the spread form. -/
def spreadLines : Outline → List String
  | .text shown => [shown]
  | .tuple name parts => (name ++ "(") :: spreadAll parts ++ [")"]
  | .record name fields => (name ++ " \x7b") :: spreadFields fields ++ ["\x7d"]
  | .list [] => ["[]"]
  | .list (item :: items) => "[" :: (nest item.spreadLines ++ spreadAll items) ++ ["]"]

/-- The nested lines of several values. -/
def spreadAll : List Outline → List String
  | [] => []
  | part :: rest => nest part.spreadLines ++ spreadAll rest

/-- The nested lines of named parts. -/
def spreadFields : List (String × Outline) → List String
  | [] => []
  | (name, part) :: rest => nest (lead (name ++ ": ") part.spreadLines) ++ spreadFields rest

end

/-- The form with one part per line. -/
def spread (outline : Outline) : String :=
  "\n".intercalate outline.spreadLines

end Outline

end Callstack
