import Callstack.Log
import Callstack.Text.Blank
import Callstack.Text.Utf8

/-!
# Log filters

A filter is written as rules with commas between them: a level for all records, a target for all of
its records, or `target=level`. A rule for a target applies to every target that begins like it,
and of the rules that apply the longest decides. Behind a slash may stand a text that the records
must contain.

## Main definitions

* `Log.Filter.parse` — read a filter, with complaints about what is no rule
* `Log.Filter.passes` — whether a record is shown
-/

namespace Callstack.Log

/-- A rule of a filter. -/
structure Rule where
  /-- How the targets begin that the rule is for, or `none` if it is for all records. -/
  target : Option (List Char)
  /-- The least severe level that passes. -/
  threshold : Threshold
  deriving DecidableEq

/-- A filter for records. -/
structure Filter where
  /-- The rules, no two for the same targets. -/
  rules : List Rule
  /-- What the records must contain. -/
  contained : List Char := []

/-- A written threshold. Upper and lower case are the same. -/
def Threshold.parse? (text : List Char) : Option Threshold :=
  match String.ofList (text.map Char.toLower) with
  | "off" => some none
  | "error" => some (some .error)
  | "warn" => some (some .warn)
  | "info" => some (some .info)
  | "debug" => some (some .debug)
  | "trace" => some (some .trace)
  | _ => none

/-- The parts of a text between separators. -/
def pieces (separator : Char) : List Char → List (List Char)
  | [] => [[]]
  | c :: rest =>
    if c = separator then [] :: pieces separator rest
    else
      match pieces separator rest with
      | [] => [[c]]
      | first :: others => (c :: first) :: others

namespace Rule

/-- The threshold that lets everything pass. -/
def everything : Threshold := some .trace

/-- How specific a rule is: the size of its target. -/
def weight (rule : Rule) : Nat := Utf8.size (rule.target.getD [])

/-- Whether a rule is for a target. -/
def covers (rule : Rule) (target : List Char) : Bool :=
  match rule.target with
  | some start => start.isPrefixOf target
  | none => true

/-- A written rule, or the text that keeps it from being one. -/
def parse (text : List Char) : Except (List Char) Rule :=
  match pieces '=' text with
  | [single] =>
    match Threshold.parse? single with
    | some threshold => .ok ⟨none, threshold⟩
    | none => .ok ⟨some single, everything⟩
  | [target, level] =>
    let level := Text.trim level
    if level.isEmpty then .ok ⟨some target, everything⟩
    else
      match Threshold.parse? level with
      | some threshold => .ok ⟨some (Text.trim target), threshold⟩
      | none => .error level
  | _ => .error text

end Rule

namespace Filter

/-- The rules with one more, which replaces one for the same targets. -/
def insert (rule : Rule) : List Rule → List Rule
  | [] => [rule]
  | other :: rest =>
    if other.target = rule.target then rule :: rest else other :: insert rule rest

/-- The rules that hold when none is given. -/
def standard : List Rule := [⟨none, some .error⟩]

/-- The complaint about a text that is no rule. -/
def complaint (text : List Char) : String :=
  "invalid logging spec '" ++ String.ofList text ++ "'"

/-- The written rules, and the complaints about what is none. -/
def parseRules (text : List Char) : List Rule × List String :=
  (((pieces ',' text).map Text.trim).filter fun item => !item.isEmpty).foldl
    (fun (rules, complaints) item =>
      match Rule.parse item with
      | .ok rule => (insert rule rules, complaints)
      | .error text => (rules, complaints ++ [complaint text]))
    ([], [])

/-- A written filter, and the complaints about what is no rule. -/
def parse (text : String) : Filter × List String :=
  let finish (rules : List Rule) (contained : List Char) : Filter :=
    ⟨if rules.isEmpty then standard else rules, contained⟩
  match pieces '/' text.toList with
  | [rules] =>
    let (rules, complaints) := parseRules rules
    (finish rules [], complaints)
  | [rules, contained] =>
    let (rules, complaints) := parseRules rules
    (finish rules contained, complaints)
  | _ => (finish [] [], [complaint text.toList ++ " (too many '/'s)"])

/-- Of two rules that apply the more specific one, and of equal ones the later one. -/
def choose (best : Option Rule) (rule : Rule) : Option Rule :=
  match best with
  | some other => if other.weight ≤ rule.weight then some rule else best
  | none => some rule

/-- Whether a text occurs in another one. -/
def occurs (part : List Char) : List Char → Bool
  | [] => part.isEmpty
  | c :: rest => part.isPrefixOf (c :: rest) || occurs part rest

/-- Whether a record is shown. -/
def passes (filter : Filter) (record : Record) : Bool :=
  match (filter.rules.filter fun rule => rule.covers record.target.toList).foldl choose none with
  | some rule => rule.threshold.passes record.level && occurs filter.contained record.text.toList
  | none => false

end Filter

end Callstack.Log
