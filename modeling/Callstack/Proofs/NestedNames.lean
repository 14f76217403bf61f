import Callstack.Entry
import Callstack.Proofs.Elements

/-!
# Nested names of identifiers

A nested name is a mark, the identifiers of a path, each behind its length, and an `E`. The compiler
for Rust closes the path with a hash, an `h` and sixteen hexadecimal digits. A C++ name of something
without parameters has the same form and ends with its own last identifier.

Both are read as Rust names, since those are tried first, and shown without a last element that
looks like a hash. What looks like one need not have sixteen digits: every `h` in front of
hexadecimal digits is taken for one, however many there are. So nothing but the hash is lost of a
Rust name, but a C++ name loses a last identifier such as `head`.

Of either kind of name no more is shown than fits. Identifiers and the colons between them are
pieces, so a path that does not fit is broken off between two of them.

## Main definitions

* `Identifier`, `Hash`, `Mark` — the parts of nested names
* `nested`, `hashed` — the name of a path, as it is or with a hash at the end
* `sourceText`, `sourcePieces` — a path as it stands in the source, and its pieces
* `shown` — the identifiers that are shown

## Main results

* `rustName?_nested` — a nested name is a Rust name, and nothing is left behind it
* `demangle?_nested_eq` — what is shown of a nested name
* `demangle?_hashed` — of a name with a hash, everything but the hash is shown if it fits
* `hashed_exceeds_limit` — nothing is shown of a single identifier that does not fit
* `demangle?_nested_eq_source_iff` — of a name without a hash, everything is shown if it fits and
  the last identifier does not look like a hash
* `nested_loses_head` — an identifier that is lost
-/

namespace Callstack.Mangling

/-- A letter, a digit or an underscore, all of ASCII. -/
def isWordChar (c : Char) : Bool :=
  Legacy.isDigit c || ('A' ≤ c && c ≤ 'Z') || ('a' ≤ c && c ≤ 'z') || c == '_'

/-- An identifier of a source text. -/
structure Identifier where
  /-- Its characters. -/
  chars : List Char
  /-- It begins, and with no digit. -/
  endsNumber : Legacy.EndsNumber chars
  /-- It consists of letters, digits and underscores. -/
  isWord : ∀ c ∈ chars, isWordChar c = true

namespace Identifier

variable (name : Identifier)

/-- The text of an identifier. -/
def text : String := String.ofList name.chars

/-- An identifier behind its length. -/
def counted : String := toString name.chars.length ++ name.text

/-- Whether an identifier looks like a hash: an `h` and any number of hexadecimal digits. -/
def isHash : Bool := Legacy.isHash name.chars

end Identifier

/-- The hash of a Rust name. -/
structure Hash where
  /-- Its hexadecimal digits. -/
  digits : List Char
  /-- There are sixteen. -/
  length_digits : digits.length = 16
  /-- They are hexadecimal, of either case. -/
  isHex : ∀ c ∈ digits, Legacy.isHexDigit c = true

/-- What a nested name begins with. -/
inductive Mark where
  | underscored
  | bare
  | twiceUnderscored
  deriving DecidableEq, Repr

/-- The text of a mark. -/
def Mark.text : Mark → String
  | underscored => "_ZN"
  | bare => "ZN"
  | twiceUnderscored => "__ZN"

/-- The nested name of a path. -/
def nested (mark : Mark) (path : List Identifier) : String :=
  mark.text ++ String.join (path.map Identifier.counted) ++ "E"

/-- The nested name of a path with a hash at its end. -/
def hashed (mark : Mark) (path : List Identifier) (hash : Hash) : String :=
  mark.text ++ String.join (path.map Identifier.counted) ++ "17h" ++
    String.ofList hash.digits ++ "E"

/-- A path as it stands in the source. -/
def sourceText (path : List Identifier) : String :=
  "::".intercalate (path.map Identifier.text)

/-- The pieces of a path in the source: its identifiers and the colons between them. -/
def sourcePieces (path : List Identifier) : List String :=
  (path.map Identifier.text).intersperse "::"

/-- The identifiers of a path that are shown: all but what looks like a hash at the end. -/
def shown (path : List Identifier) : List Identifier :=
  if path.getLast?.any Identifier.isHash then path.dropLast else path

/-! ### Word characters -/

section WordChar

variable {c : Char}

/-- The code points of word characters. -/
theorem isWordChar_iff :
    isWordChar c = true ↔
      48 ≤ c.toNat ∧ c.toNat ≤ 57 ∨ 65 ≤ c.toNat ∧ c.toNat ≤ 90 ∨ 97 ≤ c.toNat ∧ c.toNat ≤ 122 ∨
        c.toNat = 95 := by
  have underscore : c = '_' ↔ c.toNat = 95 := Char.toNat_inj.symm
  simp only [isWordChar, Legacy.isDigit, Bool.or_eq_true, Bool.and_eq_true, decide_eq_true_eq,
    beq_iff_eq, Char.le_def, UInt32.le_iff_toNat_le, underscore]
  change ((48 ≤ c.toNat ∧ c.toNat ≤ 57 ∨ 65 ≤ c.toNat ∧ c.toNat ≤ 90) ∨
    97 ≤ c.toNat ∧ c.toNat ≤ 122) ∨ c.toNat = 95 ↔ _
  omega

theorem toNat_lt_of_isWordChar (word : isWordChar c = true) : c.toNat < 128 := by
  rw [isWordChar_iff] at word
  omega

/-- No other character stands in a text of word characters. -/
theorem not_mem_of_isWordChar {text : List Char} (words : ∀ c ∈ text, isWordChar c = true)
    (other : isWordChar c = false) : c ∉ text := by
  intro member
  rw [words c member] at other
  cases other

/-- Hexadecimal digits are letters and digits. -/
theorem isWordChar_of_isHexDigit (hex : Legacy.isHexDigit c = true) : isWordChar c = true := by
  simp only [Legacy.isHexDigit, Legacy.isDigit, Bool.or_eq_true, Bool.and_eq_true,
    decide_eq_true_eq, Char.le_def, UInt32.le_iff_toNat_le] at hex
  change (48 ≤ c.toNat ∧ c.toNat ≤ 57 ∨ 97 ≤ c.toNat ∧ c.toNat ≤ 102) ∨
    65 ≤ c.toNat ∧ c.toNat ≤ 70 at hex
  rw [isWordChar_iff]
  omega

end WordChar

/-! ### Names as characters -/

namespace Identifier

variable (name : Identifier)

theorem toList_counted : name.counted.toList = Legacy.written name.chars := by
  rw [counted, String.toList_append, Nat.toString_eq_ofList_toDigits, String.toList_ofList, text,
    String.toList_ofList]
  rfl

theorem text_ne_empty : name.text ≠ "" := by
  obtain ⟨c, rest, chars, -⟩ := name.endsNumber
  rw [text, chars]
  simp

end Identifier

/-- A hash stands in a name as an identifier, since it begins with an `h`. -/
def Hash.toIdentifier (hash : Hash) : Identifier where
  chars := 'h' :: hash.digits
  endsNumber := ⟨'h', hash.digits, rfl, rfl⟩
  isWord := by
    intro c member
    rcases List.mem_cons.mp member with rfl | digit
    · rfl
    · exact isWordChar_of_isHexDigit (hash.isHex c digit)

theorem Hash.isHash_toIdentifier (hash : Hash) : hash.toIdentifier.isHash = true :=
  List.all_eq_true.mpr hash.isHex

/-- A name with a hash is the nested name of the path together with the hash. -/
theorem hashed_eq_nested (mark : Mark) (path : List Identifier) (hash : Hash) :
    hashed mark path hash = nested mark (path ++ [hash.toIdentifier]) := by
  have text : hash.toIdentifier.text = "h" ++ String.ofList hash.digits := by
    apply String.toList_injective
    simp [Identifier.text, Hash.toIdentifier]
  have counted : hash.toIdentifier.counted = "17h" ++ String.ofList hash.digits := by
    -- Sixteen digits and the `h` in front of them.
    have length : hash.toIdentifier.chars.length = 17 := by
      rw [Hash.toIdentifier, List.length_cons, hash.length_digits]
    have tag : toString 17 ++ "h" = "17h" := by decide
    rw [Identifier.counted, length, text, ← String.append_assoc, tag]
  simp [hashed, nested, counted, String.append_assoc]

theorem toList_nested (mark : Mark) (path : List Identifier) :
    (nested mark path).toList =
      mark.text.toList ++ ((path.map Identifier.chars).flatMap Legacy.written ++ ['E']) := by
  simp [nested, List.flatMap_map, Identifier.toList_counted]

/-- A nested name consists of word characters. -/
theorem isWordChar_of_mem_nested (mark : Mark) (path : List Identifier) :
    ∀ c ∈ (nested mark path).toList, isWordChar c = true := by
  intro c member
  rw [toList_nested, List.mem_append, List.mem_append, List.mem_singleton] at member
  rcases member with ofMark | ofPath | rfl
  · have all : mark.text.toList.all isWordChar = true := by
      cases mark <;> decide
    exact List.all_eq_true.mp all c ofMark
  · -- Lengths consist of digits, and identifiers of word characters.
    obtain ⟨element, isElement, inElement⟩ := List.mem_flatMap.mp ofPath
    obtain ⟨name, -, rfl⟩ := List.mem_map.mp isElement
    rw [Legacy.written, List.mem_append] at inElement
    rcases inElement with digit | inName
    · rw [isWordChar, Legacy.isDigit_of_mem_toDigits digit]
      rfl
    · exact name.isWord c inName
  · rfl

/-! ### Reading nested names -/

/-- A word whose first character is not in a text does not stand in it. -/
theorem splitAtWordFrom?_eq_none {c : Char} {text : List Char} (absent : c ∉ text)
    (word passed : List Char) : splitAtWordFrom? (c :: word) passed text = none := by
  induction text generalizing passed with
  | nil => rfl
  | cons d text ih =>
    rw [List.mem_cons, not_or] at absent
    have notHere : (c :: word).isPrefixOf (d :: text) = false := by
      rw [List.isPrefixOf, beq_false_of_ne absent.1, Bool.false_and]
    rw [splitAtWordFrom?, notHere, if_neg Bool.false_ne_true, ih absent.2]

/-- Nothing is cut off a name without points. -/
theorem withoutModule_eq_self {name : List Char} (noPoint : '.' ∉ name) :
    withoutModule name = name := by
  have word : ".llvm.".toList = '.' :: "llvm.".toList := by decide
  rw [withoutModule, word, splitAtWordFrom?_eq_none noPoint]

theorem unmarked?_mark_append (mark : Mark) (text : List Char) :
    Legacy.unmarked? (mark.text.toList ++ text) = some text := by
  cases mark <;> simp [Mark.text, Legacy.unmarked?]

/-- A nested name is read back as its path. -/
theorem parse?_nested (mark : Mark) (path : List Identifier) :
    Legacy.parse? (nested mark path).toList = some (⟨path.map Identifier.chars⟩, []) := by
  have ascii : ((path.map Identifier.chars).flatMap Legacy.written ++ ['E']).all
      (fun c => c.toNat < 128) = true := by
    rw [List.all_eq_true]
    intro c member
    have inName : c ∈ (nested mark path).toList := by
      rw [toList_nested]
      exact List.mem_append_right _ member
    rw [decide_eq_true_iff]
    exact toNat_lt_of_isWordChar (isWordChar_of_mem_nested mark path c inName)
  have ends : ∀ element ∈ path.map Identifier.chars, Legacy.EndsNumber element := by
    intro element member
    obtain ⟨name, -, rfl⟩ := List.mem_map.mp member
    exact name.endsNumber
  rw [Legacy.parse?, toList_nested, unmarked?_mark_append]
  simp only [ascii, if_true, Legacy.elements?_flatMap_written ends, Option.map_some]

/-- A nested name is a Rust name, and nothing is left behind it. -/
theorem rustName?_nested (mark : Mark) (path : List Identifier) :
    rustName? (nested mark path).toList =
      some (.legacy ⟨path.map Identifier.chars⟩, []) := by
  have noPoint : '.' ∉ (nested mark path).toList :=
    not_mem_of_isWordChar (isWordChar_of_mem_nested mark path) (by decide)
  rw [rustName?, withoutModule_eq_self noPoint, parse?_nested]
  rfl

/-- The readable form of a Rust name is its form in the source and the text behind it. Nobody asks
whether it is a C++ name. -/
theorem demangle?_of_rustName? {name : String} {rust : RustName} {rest : List Char}
    (isRust : rustName? name.toList = some (rust, rest)) :
    demangle? name = some (rust.display ++ String.ofList rest) := by
  simp [demangle?, demangleInto, isRust]

/-! ### What is shown -/

/-- What is shown of a path depends on its last identifier alone. -/
theorem shown_concat (path : List Identifier) (last : Identifier) :
    shown (path ++ [last]) = if last.isHash then path else path ++ [last] := by
  simp [shown]

/-- The identifiers that are shown are the shown elements. -/
theorem shown_elements (path : List Identifier) :
    (Legacy.Path.mk (path.map Identifier.chars)).shown = (shown path).map Identifier.chars := by
  rcases List.eq_nil_or_concat path with rfl | ⟨path, last, rfl⟩
  · rfl
  · rw [List.concat_eq_append, List.map_append, List.map_singleton, Legacy.Path.shown_concat,
      shown_concat, Identifier.isHash, apply_ite (List.map Identifier.chars), List.map_append,
      List.map_singleton]

theorem join_intersperse (separator : String) (texts : List String) :
    String.join (texts.intersperse separator) = separator.intercalate texts := by
  induction texts with
  | nil => rfl
  | cons first rest ih =>
    cases rest with
    | nil => simp
    | cons second rest =>
      rw [List.intersperse_cons_cons, String.join_cons, String.join_cons, ih,
        String.intercalate_cons_cons, String.append_assoc]

/-- A path consists of its pieces. -/
theorem join_sourcePieces (path : List Identifier) :
    String.join (sourcePieces path) = sourceText path :=
  join_intersperse "::" _

/-- Identifiers have no escapes, so a path of them is shown in the pieces that it has in the
source. -/
theorem display_elements (path : List Identifier) :
    RustName.display (.legacy ⟨path.map Identifier.chars⟩) =
      limited (sourcePieces (shown path)) := by
  have plain : ∀ element ∈ path.map Identifier.chars,
      element ≠ [] ∧ '.' ∉ element ∧ '$' ∉ element := by
    intro element member
    obtain ⟨name, -, rfl⟩ := List.mem_map.mp member
    refine ⟨?_, not_mem_of_isWordChar name.isWord (by decide),
      not_mem_of_isWordChar name.isWord (by decide)⟩
    obtain ⟨c, rest, chars, -⟩ := name.endsNumber
    rw [chars]
    exact List.cons_ne_nil c rest
  rw [RustName.display, Legacy.Path.display, Legacy.Path.pieces_of_plain plain, shown_elements,
    List.map_map]
  rfl

/-- The readable form of a nested name: the identifiers that are shown, as in the source, as far as
they fit. -/
theorem demangle?_nested_eq (mark : Mark) (path : List Identifier) :
    demangle? (nested mark path) = some (limited (sourcePieces (shown path))) := by
  rw [demangle?_of_rustName? (rustName?_nested mark path), display_elements]
  simp

/-- There are no braces in a path, so the note about the limit is no part of one. -/
theorem brace_not_mem_sourceText (path : List Identifier) : '\x7b' ∉ (sourceText path).toList := by
  have noBrace (name : Identifier) : '\x7b' ∉ name.text.toList := by
    rw [Identifier.text, String.toList_ofList]
    exact not_mem_of_isWordChar name.isWord (by decide)
  induction path with
  | nil => exact List.not_mem_nil
  | cons name rest ih =>
    cases rest with
    | nil => simpa [sourceText] using noBrace name
    | cons second rest =>
      have split : sourceText (name :: second :: rest) =
          name.text ++ "::" ++ sourceText (second :: rest) := String.intercalate_cons_cons
      rw [split, String.toList_append, String.toList_append, List.mem_append, List.mem_append]
      rintro ((inName | inColons) | inRest)
      · exact noBrace name inName
      · exact absurd inColons (by decide)
      · exact ih inRest

/-- A path is told from the path without its last identifier. -/
theorem sourceText_concat_ne (path : List Identifier) (last : Identifier) :
    sourceText (path ++ [last]) ≠ sourceText path := by
  rw [sourceText, sourceText, List.map_append, List.map_singleton]
  rcases List.eq_nil_or_concat path with rfl | ⟨path, name, rfl⟩
  · simpa using last.text_ne_empty
  · rw [String.intercalate_append_of_ne_nil (by simp) (by simp)]
    intro same
    -- The whole path is longer, if only by the colons.
    have lengths := congrArg String.length same
    have colons : "::".length = 2 := rfl
    rw [String.length_append, String.length_append] at lengths
    omega

/-- Nothing is lost of a path exactly if its last identifier does not look like a hash. -/
theorem sourceText_shown_eq_iff (path : List Identifier) :
    sourceText (shown path) = sourceText path ↔ path.getLast?.any Identifier.isHash = false := by
  rcases List.eq_nil_or_concat path with rfl | ⟨path, last, rfl⟩
  · exact ⟨fun _ => rfl, fun _ => rfl⟩
  · rw [List.concat_eq_append, shown_concat, List.getLast?_concat, Option.any_some]
    cases last.isHash with
    | false => simp
    | true => simpa using (sourceText_concat_ne path last).symm

/-! ### Names with a hash and without one -/

/-- The identifier `list`. -/
def listIdentifier : Identifier :=
  ⟨['l', 'i', 's', 't'], ⟨'l', ['i', 's', 't'], rfl, rfl⟩, List.all_eq_true.mp rfl⟩

/-- The identifier `head`, an `h` in front of three hexadecimal digits. -/
def headIdentifier : Identifier :=
  ⟨['h', 'e', 'a', 'd'], ⟨'h', ['e', 'a', 'd'], rfl, rfl⟩, List.all_eq_true.mp rfl⟩

/-- Of a name with a hash, everything but the hash is shown if it takes at most a million bytes. It
is a Rust name with nothing behind it, so nobody asks whether it is a C++ name. Its entry keeps the
linker's name. -/
theorem demangle?_hashed (mark : Mark) (path : List Identifier) (hash : Hash)
    (fits : (sourceText path).utf8ByteSize ≤ 1000000) :
    let name := hashed mark path hash
    demangle? name = some (sourceText path) ∧
      rustName? name.toList =
        some (.legacy ⟨path.map Identifier.chars ++ ['h' :: hash.digits]⟩, []) ∧
      (Entry.ofLinkerName name).linkerName = name ∧
      (Entry.ofLinkerName name).displayName = sourceText path := by
  intro name
  have isNested : name = nested mark (path ++ [hash.toIdentifier]) :=
    hashed_eq_nested mark path hash
  have readable : demangle? name = some (sourceText path) := by
    -- The hash is the last identifier, and no other one is taken for it.
    rw [isNested, demangle?_nested_eq, shown_concat, hash.isHash_toIdentifier, if_pos rfl,
      limited_of_size_le (by rwa [join_sourcePieces]), join_sourcePieces]
  refine ⟨readable, ?_, rfl, ?_⟩
  · rw [isNested, rustName?_nested, List.map_append]
    rfl
  · rw [Entry.displayName, Entry.ofLinkerName, readable]
    rfl

/-- The digits of a hash. -/
def someHash : Hash := ⟨"0123456789abcdef".toList, rfl, List.all_eq_true.mp rfl⟩

/-- The name that a compiler for Rust gives to `list::head`. -/
theorem demangle?_hashed_listHead :
    hashed .underscored [listIdentifier, headIdentifier] someHash =
        "_ZN4list4head17h0123456789abcdefE" ∧
      (sourceText [listIdentifier, headIdentifier]).utf8ByteSize ≤ 1000000 ∧
      demangle? "_ZN4list4head17h0123456789abcdefE" = some "list::head" := by
  have name_eq : hashed .underscored [listIdentifier, headIdentifier] someHash =
      "_ZN4list4head17h0123456789abcdefE" := by decide
  have source : sourceText [listIdentifier, headIdentifier] = "list::head" := by decide
  have fits : (sourceText [listIdentifier, headIdentifier]).utf8ByteSize ≤ 1000000 := by
    rw [source]
    decide
  obtain ⟨readable, -⟩ := demangle?_hashed .underscored _ someHash fits
  rw [name_eq, source] at readable
  exact ⟨name_eq, fits, readable⟩

/-- An identifier of many letters. -/
def letters (n : Nat) : Identifier where
  chars := List.replicate (n + 1) 'a'
  endsNumber := ⟨'a', List.replicate n 'a', List.replicate_succ, rfl⟩
  isWord := by
    intro c member
    rw [(List.mem_replicate.mp member).2]
    rfl

theorem utf8ByteSize_text_letters (n : Nat) : (letters n).text.utf8ByteSize = n + 1 := by
  have size (count : Nat) : (String.ofList (List.replicate count 'a')).utf8ByteSize = count := by
    induction count with
    | zero => rfl
    | succ count ih =>
      rw [List.replicate_succ', String.ofList_append, String.utf8ByteSize_append, ih]
      rfl
  exact size (n + 1)

/-- Of a single identifier that does not fit nothing is shown but the note. -/
theorem demangle?_hashed_letters (mark : Mark) (hash : Hash) {n : Nat} (tooLong : sizeLimit ≤ n) :
    demangle? (hashed mark [letters n] hash) = some limitNote := by
  have notHash : shown ([letters n] ++ [hash.toIdentifier]) = [letters n] := by
    rw [shown_concat, hash.isHash_toIdentifier, if_pos rfl]
  have single : sourcePieces [letters n] = [(letters n).text] := rfl
  have exceeds : sizeLimit < (letters n).text.utf8ByteSize := by
    rw [utf8ByteSize_text_letters]
    exact Nat.lt_succ_of_le tooLong
  rw [hashed_eq_nested, demangle?_nested_eq, notHash, single, limited_singleton_of_lt exceeds]

/-- One letter more than a million is too much. -/
theorem hashed_exceeds_limit :
    let path := [letters 1000000]
    let name := hashed .underscored path someHash
    (sourceText path).utf8ByteSize = 1000001 ∧
      demangle? name = some "\x7bsize limit reached\x7d" ∧
      demangle? name ≠ some (sourceText path) ∧
      (Entry.ofLinkerName name).displayName ≠ sourceText path := by
  intro path name
  have source : sourceText path = (letters 1000000).text := String.intercalate_singleton
  have readable : demangle? name = some limitNote :=
    demangle?_hashed_letters .underscored someHash (Nat.le_refl _)
  have differs : limitNote ≠ sourceText path := by
    intro same
    -- The note is told from any path by its braces.
    have noBrace := brace_not_mem_sourceText path
    rw [← same] at noBrace
    exact absurd (by decide) noBrace
  refine ⟨?_, readable, ?_, ?_⟩
  · rw [source, utf8ByteSize_text_letters]
  · rw [readable, Ne, Option.some_inj]
    exact differs
  · rw [Entry.displayName, Entry.ofLinkerName, readable]
    exact differs

/-- The readable form of a nested name shows the path without what looks like a hash at its end, as
far as it fits, which is all of it exactly if it takes at most a million bytes. So the readable form
is the whole path exactly if that is no longer and its last identifier is not an `h` in front of
hexadecimal digits, however many. -/
theorem demangle?_nested_eq_source_iff (mark : Mark) (path : List Identifier) :
    demangle? (nested mark path) = some (limited (sourcePieces (shown path))) ∧
      (demangle? (nested mark path) = some (sourceText (shown path)) ↔
        (sourceText (shown path)).utf8ByteSize ≤ 1000000) ∧
      (demangle? (nested mark path) = some (sourceText path) ↔
        path.getLast?.any Identifier.isHash = false ∧
          (sourceText path).utf8ByteSize ≤ 1000000) := by
  have isText (other : List Identifier) : demangle? (nested mark path) = some (sourceText other) ↔
      sourceText (shown path) = sourceText other ∧
        (sourceText (shown path)).utf8ByteSize ≤ sizeLimit := by
    rw [demangle?_nested_eq, Option.some_inj, limited_eq_iff (brace_not_mem_sourceText other),
      join_sourcePieces]
  refine ⟨demangle?_nested_eq mark path, ?_, ?_⟩
  · rw [isText]
    exact and_iff_right rfl
  · rw [isText, ← sourceText_shown_eq_iff]
    -- If nothing is lost, what has to fit is the whole path.
    refine and_congr_right fun same => ?_
    rw [same]
    rfl

/-- The C++ name of `list::head` does not end with the hash of a Rust name, and yet only `list` is
shown. -/
theorem nested_loses_head :
    let path := [listIdentifier, headIdentifier]
    nested .underscored path = "_ZN4list4headE" ∧
      (∀ hash : Hash, path.getLast? ≠ some hash.toIdentifier) ∧
      sourceText path = "list::head" ∧
      demangle? (nested .underscored path) = some "list" ∧
      demangle? (nested .underscored path) ≠ some (sourceText path) := by
  intro path
  have source : sourceText path = "list::head" := by decide
  have readable : demangle? (nested .underscored path) = some "list" := by
    rw [demangle?_nested_eq]
    decide
  refine ⟨by decide, ?_, source, readable, ?_⟩
  · -- A hash has sixteen digits, and `head` three.
    intro hash same
    have lengths := congrArg (fun name => name.map (·.chars.length)) same
    simp [path, headIdentifier, Hash.toIdentifier, hash.length_digits] at lengths
  · rw [readable, source]
    decide

end Callstack.Mangling
