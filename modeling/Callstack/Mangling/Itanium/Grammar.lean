import Callstack.Mangling.Itanium.Reader
import Callstack.Text.Utf8

/-!
# Reading C++ names: the grammar

The rules of the grammar that contain each other. Five of them tie the knot: names, types, template
arguments, expressions and encodings. Every other rule is a function of how to read these five, and
`Grammar.rule` unrolls the recursion for as many levels as a name may have.

## Main definitions

* `Grammar.Rule` — the rules that tie the knot
* `Grammar.rule` — reading by a rule
* `Grammar.parse?` — the tree of a whole name, and its table
-/

namespace Callstack.Mangling.Itanium.Grammar

open Reader

/-- The rules that tie the knot. -/
inductive Rule where
  | encoding
  | name
  | type
  | templateArgs
  | expression

variable (sub : Rule → Reader Component)

/-! ### Names -/

/-- A local or global name that a compiler could not spell: a closure or a type without name. -/
def unnamed : Reader Component := do
  if let some closure ← attempt closure then return closure
  enter do
    expect "Ut"
    let number ← attempt natural
    expect "_"
    return .unnamedType number
where
  /-- A closure, with the types of its parameters. -/
  closure : Reader Component := enter do
    expect "Ul"
    let parameters ← enter do
      if ← eat "v" then return []
      else atLeastOne (sub .type)
    expect "E"
    let number ← attempt natural
    expect "_"
    return .closure parameters number

/-- An operator. After `cv` stands a type; inside expressions that is a cast, and elsewhere a
conversion operator. -/
def operator (inExpression : Bool) : Reader Component := enter do
  if let some simple ← attempt (choose Operator.code Operator.all) then
    return .simpleOperator simple
  if ← eat "cv" then
    let type ← withReader (fun context => { context with inConversion := !inExpression })
      (sub .type)
    return if inExpression then .castOperator type else .conversionOperator type
  if ← eat "li" then return .literalOperator (← sourceName)
  expect "v"
  match ← peek with
  | some c =>
    unless isDigit c do mismatch
    modify fun state => { state with pos := state.pos + 1 }
    return .vendorOperator (c.toNat - '0'.toNat) (← sourceName)
  | none => mismatch

/-- A constructor or destructor. -/
def constructor : Reader Component := enter do
  if ← eat "C" then
    let inherits ← eat "I"
    match ← peek with
    | some c =>
      unless '1' ≤ c ∧ c ≤ '4' do mismatch
      modify fun state => { state with pos := state.pos + 1 }
      if inherits then return .constructor (some (← sub .type))
      else return .constructor none
    | none => mismatch
  else
    expect "D"
    match ← peek with
    | some c =>
      unless c = '0' ∨ c = '1' ∨ c = '2' ∨ c = '4' do mismatch
      modify fun state => { state with pos := state.pos + 1 }
      return .destructor
    | none => mismatch

/-- A name without its scope. -/
def unqualified : Reader Component := enter do
  let base ← base
  return .unqualified base (← tags)
where
  /-- The name without its tags. -/
  base : Reader Component := do
    if ← eat "on" then return .operatorName (← operator sub false)
    if let some operator ← attempt (operator sub false) then return .operatorName operator
    if let some constructor ← attempt (constructor sub) then return constructor
    if ← eat "L" then
      let text ← sourceName
      let _ ← attempt discriminator
      return .source text
    if let some text ← attempt sourceName then return .source text
    unnamed sub

/-- The specifier of the type of an expression. -/
def decltype : Reader Component := enter do
  expect "D"
  unless ← eat "t" do expect "T"
  let expression ← sub .expression
  expect "E"
  return .decltype expression

/-- Finish one step of a path. The whole of a nested name has no entry of its own in the table. -/
def finishStep (path : Component) : Reader Component := do
  if (← peek) == some 'E' then return .unshared path
  else share path

/-- Add a name to a path. -/
def extend (path : Option Component) (name : Component) : Reader Component :=
  finishStep (match path with
    | some path => .pathStep path name
    | none => .pathStart name)

/-- One more step of a path, if another one follows. -/
def step? (path : Option Component) : Reader (Option Component) := enter do
  match ← peek, path with
  | none, _ | some 'E', _ => return none
  | some 'S', _ => return some (← substitution)
  | some 'T', _ => return some (← finishStep (← templateParam))
  | some 'D', _ =>
    if let some type ← attempt (decltype sub) then return some (← finishStep type)
    return some (← extend path (← unqualified sub))
  | some 'I', some (.reference index) => template (.reference index)
  | some 'I', some (.standard name) => template (.standard name)
  | some c, some lead =>
    if isDigit c then member lead
    else step
  | some _, none => step
where
  /-- A step whose name is a plain one. The mark of a data member takes the place of the tags. -/
  member (lead : Component) : Reader (Option Component) := do
    let text ← sourceName
    let tags ← tags
    if (← peek) == some 'M' then
      let path ← finishStep (.pathMember lead text)
      expect "M"
      return some path
    return some (← extend lead (.unqualified (.source text) tags))
  /-- A step with any other name. The mark of a data member changes nothing. -/
  step : Reader (Option Component) := do
    let path ← extend path (← unqualified sub)
    let _ ← eat "M"
    return some path
  /-- The step from a template to one of its instances. -/
  template (lead : Component) : Reader (Option Component) := do
    return some (← finishStep (.pathTemplate lead (← sub .templateArgs)))

/-- A path up to the end of the nested name around it. -/
def path : Reader Component := enter do
  go ((← read).name.size + 1) none
where
  /-- The remaining steps. -/
  go : Nat → Option Component → Reader Component
    | 0, _ => mismatch
    | fuel + 1, path => do
      match ← step? sub path with
      | some path => go fuel (some path)
      | none =>
        match path with
        | some path => return path
        | none => mismatch

/-- A name with its scopes. A function that takes its object as an explicit parameter has an `H` in
place of the qualifiers. -/
def nested : Reader Component := enter do
  expect "N"
  let hasObject ← eat "H"
  let (qualifiers, ref) ←
    if hasObject then pure ({}, none)
    else do
      let qualifiers ← qualifiers
      pure (qualifiers, ← attempt refKind)
  let path ← path sub
  expect "E"
  let last ← match path with
    | .reference index => pure (← get).table[index]?
    | .unshared last => pure (some last)
    | _ => pure none
  match last with
  | some (.pathStep lead name) => return .nested qualifiers ref hasObject (some lead) name
  | some (.pathStart name) => return .nested qualifiers ref hasObject none name
  | some (.pathTemplate _ _) => return .nestedTemplate qualifiers ref hasObject path
  | _ => mismatch

/-- A name outside of any scope but `std`. -/
def unscoped : Reader Component := enter do
  let inStd ← eat "St"
  return .unscoped inStd (← unqualified sub)

/-- A name inside a function. -/
def localName : Reader Component := enter do
  expect "Z"
  let function ← sub .encoding
  expect "E"
  if ← eat "s" then
    let _ ← attempt discriminator
    return .localName function none
  if ← eat "d" then
    let _ ← attempt integer
    expect "_"
    return .localDefault function (← sub .name)
  let name ← sub .name
  let _ ← attempt discriminator
  return .localName function (some name)

/-- A name that refers to the table, or one outside of any scope, in front of template
arguments. -/
def templateName : Reader Component := enter do
  match ← attempt (unscoped sub) with
  | some name => share name
  | none => substitution

/-- A name. -/
def name : Reader Component := do
  if let some name ← attempt (nested sub) then return name
  if let some name ← attempt (unscoped sub) then
    -- Only a name in front of template arguments gets an entry of its own.
    if (← peek) == some 'I' then
      let template ← share name
      return .unscopedTemplate template (← sub .templateArgs)
    return name
  if let some template ← attempt (templateName sub) then
    return .unscopedTemplate template (← sub .templateArgs)
  localName sub

/-! ### Template arguments -/

/-- A template argument. -/
def templateArg (primary : Reader Component) : Nat → Reader Component
  | 0 => throw .tooDeep
  | fuel + 1 => enter do
    if ← eat "X" then
      let expression ← sub .expression
      expect "E"
      return .argument expression
    if let some literal ← attempt primary then return .argument literal
    if let some type ← attempt (sub .type) then return .argument type
    unless ← eat "J" do expect "I"
    let arguments ← many (templateArg primary fuel)
    expect "E"
    return .argumentPack arguments

/-- The longest text up to an `E`. -/
def untilE : Reader (List Char) := takeAll (· ≠ 'E')

/-- Code that runs before or after the rest of a program, named for a symbol in its file. -/
def keyed (symbol : Reader Component) : Reader Component := enter do
  unless ← eat "_" do
    unless ← eat "." do expect "$"
  let kind ←
    if ← eat "I" then pure "constructors"
    else
      expect "D"
      pure "destructors"
  expect "_"
  return .special ("global " ++ kind ++ " keyed to ") (← symbol) ""

/-- What follows the encoding of a function in the symbol of a block inside it: a fixed word, and a
number unless it is the first block. -/
def blockEnd : Reader Unit := do
  expect "_block_invoke"
  if ← eat "_" then
    let _ ← natural
  else
    let _ ← attempt natural

/-- A symbol as a whole: its mark, its encoding, and what compilers append to it. A type without a
mark stands for itself. -/
def mangled : Nat → Reader Component
  | 0 => throw .tooDeep
  | fuel + 1 => enter do
    if ← eatMark then
      let encoding ← sub .encoding
      return .mangled encoding (← many clone)
    if ← eatBlockMark then
      let encoding ← sub .encoding
      blockEnd
      return .block encoding
    if ← eat "_GLOBAL_" then return ← keyed (mangled fuel)
    return .mangled (← sub .type) []
where
  /-- Move over the mark of an encoding, if it comes next. -/
  eatMark : Reader Bool := do
    if ← eat "_Z" then return true
    eat "__Z"
  /-- Move over the mark of a block, if it comes next. -/
  eatBlockMark : Reader Bool := do
    if ← eat "___Z" then return true
    eat "____Z"

/-- A symbol at whatever level. -/
def anyMangled : Reader Component := do
  mangled sub ((← read).levels + 1)

/-- A literal, or the symbol of something declared elsewhere. -/
def primary : Reader Component := enter do
  expect "L"
  if let some type ← attempt (sub .type) then
    let text ← untilE
    expect "E"
    return .literal type (Utf8.lossy (text.map fun byte => byte.toNat.toUInt8))
  let name ← anyMangled sub
  expect "E"
  return .external name

/-- Any template argument, at whatever level. -/
def anyTemplateArg : Reader Component := do
  templateArg sub (primary sub) ((← read).levels + 1)

/-- The arguments of a template, one at least. -/
def templateArgs : Reader Component := do
  let start := (← get).pos
  expect "I"
  let arguments ← atLeastOne (anyTemplateArg sub)
  expect "E"
  return .templateArgs start arguments

/-! ### Types -/

/-- The types of a function: its result, if it is encoded, and its parameters. -/
def signature : Reader (List Component) := enter (atLeastOne (sub .type))

/-- The type of a function. -/
def function : Reader Component := enter do
  let qualifiers ← qualifiers
  let exceptions ← attempt exceptions
  let _ ← eat "Dx"
  expect "F"
  let _ ← eat "Y"
  let types ← signature sub
  let ref ← attempt refKind
  expect "E"
  return .function qualifiers (exceptions.getD .free) ref (.signature types)
where
  /-- What is said about exceptions. -/
  exceptions : Reader (Exceptions Component) := enter do
    if ← eat "Do" then return .none
    expect "DO"
    let condition ← sub .expression
    expect "E"
    return .noneIf condition

/-- The type of an array. -/
def array : Reader Component := enter do
  expect "A"
  if let some size ← attempt natural then
    expect "_"
    return .array (some (.numericText (toString size))) (← sub .type)
  let size ← attempt (sub .expression)
  expect "_"
  return .array size (← sub .type)

/-- The type of a vector. -/
def vector : Reader Component := enter do
  expect "Dv"
  let size ← match ← attempt natural with
    | some size => pure (.numericText (toString size))
    | none => sub .expression
  expect "_"
  return .vector size (← sub .type)

/-- The type of a pointer to a member. -/
def pointerToMember : Reader Component := enter do
  expect "M"
  let scope ← sub .type
  return .pointerToMember scope (← sub .type)

/-- A named type. -/
def classEnum : Reader Component := enter do
  if let some name ← attempt (sub .name) then return .classEnum "" name
  expect "T"
  if ← eat "s" then return .classEnum "class " (← sub .name)
  if ← eat "u" then return .classEnum "union " (← sub .name)
  expect "e"
  return .classEnum "enum " (← sub .name)

/-- An integer type with a given number of bits. Only a plain number has a mark behind it. -/
def bitInt : Reader Component := enter (enter do
  let isSigned ← eat "DB"
  unless isSigned do expect "DU"
  if (← peek).any isDigit then
    let width ← width
    expect "_"
    return .bitInt isSigned (.numericText (toString width))
  return .bitInt isSigned (← sub .expression))

/-- A type that is, or begins with, a template parameter. In a conversion operator, template
arguments behind the parameter belong to the operator unless yet more of them follow. -/
def parameterType : Reader Component := do
  let start := (← get).pos
  let param ← templateParam
  if (← peek) != some 'I' then share param
  else if ← ownsNoArguments then share param
  else
    modify fun state => { state with pos := start }
    mismatch
where
  /-- Whether the arguments that come next belong to a conversion operator. -/
  ownsNoArguments : Reader Bool := do
    unless (← read).inConversion do return false
    let state ← get
    let arguments ← attempt (sub .templateArgs)
    let following ← peek
    set state
    return arguments.isSome && following != some 'I'

/-- A template that is a parameter itself or an entry of the table. -/
def templateTemplateParam : Reader Component := enter do
  match ← attempt substitution with
  | some template => return template
  | none => share (← templateParam)

/-- A type made from another one by a sign in front, or `none` if there is no sign. -/
def derived? : Reader (Option Component) := do
  let qualifiers ← qualifiers
  if !qualifiers.isEmpty then return some (.qualified qualifiers (← sub .type))
  if ← eat "P" then return some (.pointer (← sub .type))
  if ← eat "R" then return some (.ref .lvalue (← sub .type))
  if ← eat "O" then return some (.ref .rvalue (← sub .type))
  if ← eat "C" then return some (.complex (← sub .type))
  if ← eat "G" then return some (.imaginary (← sub .type))
  if ← eat "Dp" then return some (.packExpansion (← sub .type))
  if ← eat "U" then
    let text ← sourceName
    let arguments ← attempt (sub .templateArgs)
    return some (.vendorQualified text arguments (← sub .type))
  return none

/-- A type. All but built-in types and references get an entry in the table. -/
def type : Reader Component := do
  if let some type ← attempt builtin then return type
  if let some type ← attempt (bitInt sub) then return type
  if let some type ← attempt (function sub) then return ← share type
  -- Some signs could begin a name as well, so they come before names.
  if let some type ← derived? sub then return ← share type
  if let some type ← attempt (classEnum sub) then return ← share type
  -- An entry in front of template arguments is only the template, which is tried further below.
  let start := (← get).pos
  if let some entry ← attempt substitution then
    if (← peek) != some 'I' then return entry
    modify fun state => { state with pos := start }
  if let some type ← attempt (array sub) then return ← share type
  if let some type ← attempt (vector sub) then return ← share type
  if let some type ← attempt (pointerToMember sub) then return ← share type
  if let some type ← attempt (parameterType sub) then return type
  if let some template ← attempt templateTemplateParam then
    return ← share (.templateTemplate template (← sub .templateArgs))
  share (← decltype sub)

/-! ### Expressions -/

/-- An identifier in an expression, possibly with template arguments. -/
def simpleId : Reader Component := enter do
  let text ← sourceName
  return .simpleId text (← attempt (sub .templateArgs))

/-- A type whose members are not known yet. -/
def unresolvedType : Reader Component := enter do
  if let some param ← attempt templateParam then
    let arguments ← attempt (sub .templateArgs)
    return ← share (.unresolvedParam param arguments)
  if let some type ← attempt (decltype sub) then return ← share type
  substitution

/-- The last part of a name that is not known yet. -/
def unresolvedBase : Reader Component := enter do
  if let some name ← attempt (simpleId sub) then return name
  if ← eat "on" then
    let operator ← operator sub false
    return .operatorId operator (← attempt (sub .templateArgs))
  expect "dn"
  enter do
    if let some type ← attempt (unresolvedType sub) then return .destructorId type
    return .destructorId (← simpleId sub)

/-- A name that is not known yet. -/
def unresolved : Reader Component := enter do
  if ← eat "gs" then
    if let some name ← attempt (unresolvedBase sub) then
      return .unresolved true none [] name
    expect "sr"
    let levels ← atLeastOne (enter (simpleId sub))
    expect "E"
    return .unresolved true none levels (← unresolvedBase sub)
  if let some name ← attempt (unresolvedBase sub) then
    return .unresolved false none [] name
  expect "sr"
  if ← eat "N" then
    let type ← unresolvedType sub
    let levels ← atLeastOne (enter (simpleId sub))
    expect "E"
    return .unresolved false (some type) levels (← unresolvedBase sub)
  if let some type ← attempt (unresolvedType sub) then
    return .unresolved false (some type) [] (← unresolvedBase sub)
  let levels ← atLeastOne (enter (simpleId sub))
  expect "E"
  return .unresolved false none levels (← unresolvedBase sub)

/-- The name of a member, possibly with template arguments. The template has no entry in the
table. -/
def memberName : Reader Component := enter do
  let name := .unscoped false (← unqualified sub)
  match ← attempt (sub .templateArgs) with
  | some arguments => return .memberName (.unscopedTemplate (.unshared name) arguments)
  | none => return .memberName name

/-- Operands up to an `E`. -/
def operandsE : Reader (List Component) := do
  let operands ← many (sub .expression)
  expect "E"
  return operands

/-- The creation of an object, behind its keyword. -/
def creation (sign : String) : Reader Component := do
  let placement ← many (sub .expression)
  expect "_"
  let type ← sub .type
  if ← eat "E" then return .new sign placement type none
  enter do
    expect "pi"
    return .new sign placement type (some (← operandsE sub))

/-- An expression that may have the global scope in front. -/
def created (scope : String) : Reader Component := do
  if ← eat "nw" then creation sub (scope ++ "new")
  else if ← eat "na" then creation sub (scope ++ "new[]")
  else if ← eat "dl" then return .prefixed (scope ++ "delete ") (← sub .expression)
  else if ← eat "da" then return .prefixed (scope ++ "delete[] ") (← sub .expression)
  else mismatch

/-- An operator with its operands. -/
def operation : Reader Component := do
  let operator ← operator sub true
  let arity := match operator with
    | .simpleOperator simple => simple.arity
    | .castOperator _ => 1
    | .vendorOperator arity _ => arity
    | _ => 0
  match arity with
  | 1 => return .unary operator (← sub .expression)
  | 2 =>
    let left ← sub .expression
    return .binary operator left (← sub .expression)
  | 3 =>
    let first ← sub .expression
    let second ← sub .expression
    return .ternary operator first second (← sub .expression)
  | _ => mismatch

/-- The folding of a pack by an operator. -/
def fold : Reader Component := do
  if ← eat "fl" then
    let operator ← simple
    return .foldLeft operator (← sub .expression)
  if ← eat "fr" then
    let operator ← simple
    return .foldRight operator (← sub .expression)
  unless ← eat "fL" do expect "fR"
  let operator ← simple
  let left ← sub .expression
  return .foldBoth operator left (← sub .expression)
where
  /-- The operator that folds. -/
  simple : Reader Component := do
    return .simpleOperator (← choose Operator.code Operator.all)

/-- An expression that begins with two letters of its own, or `none` if it does not. -/
def marked? : Reader (Option Component) := do
  if ← eat "cl" then
    let callee ← sub .expression
    return some (.call callee (← operandsE sub))
  if ← eat "cv" then
    let type ← sub .type
    if ← eat "_" then return some (.convertMany false (some type) (← operandsE sub))
    return some (.convertOne type (← sub .expression))
  if ← eat "tl" then
    let type ← sub .type
    return some (.convertMany true (some type) (← operandsE sub))
  if ← eat "il" then return some (.convertMany true none (← operandsE sub))
  if ← eat "dc" then return some (← cast .dynamic)
  if ← eat "sc" then return some (← cast .static)
  if ← eat "cc" then return some (← cast .const)
  if ← eat "rc" then return some (← cast .reinterpret)
  if ← eat "ti" then return some (.keyword "typeid" (← sub .type))
  if ← eat "te" then return some (.keyword "typeid" (← sub .expression))
  if ← eat "st" then return some (.keyword "sizeof" (← sub .type))
  if ← eat "sz" then return some (.keyword "sizeof" (← sub .expression))
  if ← eat "at" then return some (.keyword "alignof" (← sub .type))
  if ← eat "az" then return some (.keyword "alignof" (← sub .expression))
  if ← eat "nx" then return some (.keyword "noexcept" (← sub .expression))
  if ← eat "so" then return some (← subobject)
  if ← eat "dt" then
    let operand ← sub .expression
    return some (.member false operand (← memberName sub))
  if ← eat "pt" then
    let operand ← sub .expression
    return some (.member true operand (← memberName sub))
  if ← eat "ds" then
    let operand ← sub .expression
    return some (.memberPointer operand (← sub .expression))
  if ← eat "sZ" then
    if let some param ← attempt templateParam then return some (.sizeofPack [param])
    return some (.sizeofPack [← functionParam])
  if ← eat "sP" then
    let arguments ← many (anyTemplateArg sub)
    expect "E"
    return some (.sizeofPack arguments)
  if ← eat "sp" then return some (.expandedPack (← sub .expression))
  if ← eat "tw" then return some (.prefixed "throw " (← sub .expression))
  if ← eat "tr" then return some .rethrow
  return none
where
  /-- A part of an object, behind its mark. -/
  subobject : Reader Component := enter do
    let type ← sub .type
    let operand ← sub .expression
    let offset ← attempt integer
    expect "E"
    return .subobject type operand (offset.getD 0)
  /-- A cast, behind its keyword. -/
  cast (kind : CastKind) : Reader Component := do
    let type ← sub .type
    return .cast kind type (← sub .expression)

/-- An expression. -/
def expression : Reader Component := do
  if ← eat "pp_" then return .prefixed "++" (← sub .expression)
  if ← eat "mm_" then return .prefixed "--" (← sub .expression)
  -- Some marks are the codes of operators as well, so they come before operators.
  if let some marked ← marked? sub then return marked
  if let some fold ← attempt (fold sub) then return fold
  let start := (← get).pos
  if ← eat "gs" then
    if let some expression ← attempt (created sub "::") then return expression
    modify fun state => { state with pos := start }
  if let some expression ← attempt (created sub "") then return expression
  if let some param ← attempt templateParam then return param
  if let some param ← attempt functionParam then return param
  if let some name ← attempt (unresolved sub) then return name
  if let some literal ← attempt (primary sub) then return literal
  operation sub

/-! ### Encodings -/

/-- The text of a resource, in which a dollar sign escapes the characters of paths. -/
def resource : Reader Component := do
  let length ← natural
  let start := (← get).pos
  let name := (← read).name
  if length = 0 ∨ name.size < start + length then mismatch
  modify fun state => { state with pos := start + length }
  match (name.extract start (start + length)).toList with
  | '_' :: text =>
    match unescape text.length true text with
    | some text => return .resource (String.ofList text)
    | none => mismatch
  | _ => mismatch
where
  /-- Replace the escapes. Each of them ends a part of the text, which must not be empty. -/
  unescape : Nat → Bool → List Char → Option (List Char)
    | _, _, [] => some []
    | 0, _, _ => none
    | fuel + 1, isFresh, '$' :: rest =>
      if isFresh then none
      else
        match rest with
        | 'S' :: rest => (unescape fuel true rest).map ('/' :: ·)
        | '_' :: rest => (unescape fuel true rest).map ('.' :: ·)
        | '$' :: rest => (unescape fuel true rest).map ('$' :: ·)
        | _ => none
    | fuel + 1, _, c :: rest => (unescape fuel false rest).map (c :: ·)

/-- A name that a compiler made for something without a name in the source. -/
def special : Reader Component := enter do
  if ← eat "TV" then return .special "\x7bvtable(" (← sub .type) ")\x7d"
  if ← eat "TT" then return .special "\x7bvtt(" (← sub .type) ")\x7d"
  if ← eat "TI" then return .special "typeinfo for " (← sub .type) ""
  if ← eat "TS" then return .special "typeinfo name for " (← sub .type) ""
  if ← eat "Tc" then
    let first ← enter callOffset
    let second ← enter callOffset
    return .thunk [first, second] (← sub .encoding)
  if ← eat "Gr" then return ← resource
  if ← eat "GT" then
    match ← peek with
    | some c =>
      modify fun state => { state with pos := state.pos + 1 }
      let kind := if c = 'n' then "non-transaction clone for " else "transaction clone for "
      return .special kind (← sub .encoding) ""
    | none => mismatch
  if ← eat "GV" then return .special "guard variable for " (← sub .name) ""
  if ← eat "GR" then
    let name ← sub .name
    let number ← attempt (enter (naturalIn 36))
    expect "_"
    let number := match number with
      | some n => n + 1
      | none => 0
    return .special ("reference temporary #" ++ toString number ++ " for ") name ""
  if ← eat "TC" then
    let table ← sub .type
    let _ ← natural
    expect "_"
    return .constructionTable table (← sub .type)
  if ← eat "TF" then return .special "typeinfo fn for " (← sub .type) ""
  if ← eat "TH" then return .special "TLS init function for " (← sub .name) ""
  if ← eat "TW" then return .special "TLS wrapper function for " (← sub .name) ""
  expect "T"
  let offset ← enter callOffset
  return .thunk [offset] (← sub .encoding)

/-- A name together with the types of a function, a name of data, or a special name. -/
def encoding : Reader Component := do
  match ← attempt (sub .name) with
  | some name =>
    match ← attempt (signature sub) with
    | some types => return .encodedFunction name types
    | none => return .encodedData name
  | none => special sub

/-! ### The knot -/

/-- Read by a rule, with at most `fuel` rules inside each other. -/
def rule : Nat → Rule → Reader Component
  | 0, _ => throw .tooDeep
  | fuel + 1, wanted => enter (match wanted with
    | .encoding => encoding (rule fuel)
    | .name => name (rule fuel)
    | .type => type (rule fuel)
    | .templateArgs => templateArgs (rule fuel)
    | .expression => expression (rule fuel))

/-- How many rules may be entered inside each other. -/
def levelLimit : Nat := 95

/-- The tree of a name and its table, if the name is read to its end. Lengths in a name count the
bytes of its UTF-8 form, each of which is read as the character with its number. -/
def parse? (name : List Char) : Option (Component × Array Component) :=
  let bytes := (Utf8.encode name).map fun byte => Char.ofNat byte.toNat
  let context : Context := ⟨bytes.toArray, levelLimit, false⟩
  match (anyMangled (rule levelLimit) context).run ⟨0, #[]⟩ with
  | .ok tree state => if state.pos = bytes.length then some (tree, state.table) else none
  | .error _ _ => none

end Callstack.Mangling.Itanium.Grammar
