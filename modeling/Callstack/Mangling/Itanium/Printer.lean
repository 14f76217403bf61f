import Callstack.Mangling.Itanium.Component

/-!
# Printing C++ names

The declarator syntax of C++ puts parts of a type on both sides of a name. The printer therefore
keeps a stack of components that are still to be written around what is being printed: a pointer to
a function pushes itself, the function type finds it there and writes it, in parentheses, in
front of the parameters. A component that nobody has taken from the stack is written behind its
contents.

Template parameters, and the names of constructors, are looked up in the scopes around them.

## Main definitions

* `Printer` — the effects of printing
* `Job` — the two ways in which a component is printed
* `Printer.whole`, `Printer.around` — printing, given how to print the parts inside
* `Component.display?` — a whole name
-/

namespace Callstack.Mangling.Itanium

/-- What a scope offers: the name under which constructors go, or template arguments. -/
inductive ScopeItem where
  | leaf (name : Component)
  | arguments (start : Nat) (arguments : List Component)

/-- A scope, and the argument that is being printed in it: its index, and where its list of
arguments begins. -/
structure Scope where
  /-- What the scope offers. -/
  item : ScopeItem
  /-- The argument inside which the inner scopes lie. -/
  inArgument : Option (Nat × Nat)

/-- What is fixed while a component is printed. -/
structure Printer.Context where
  /-- The components that can be referred to. -/
  table : Array Component
  /-- How many more components may be entered. -/
  levels : Nat
  /-- The scopes, innermost first. -/
  scopes : List Scope

/-- The state of printing. -/
structure Printer.State where
  /-- What has been printed. -/
  text : String
  /-- Its last character. -/
  last : Option Char
  /-- The components still to be written around, each with a number of its own. -/
  inner : List (Nat × Component)
  /-- The next such number. -/
  fresh : Nat
  /-- Whether the parameters of a closure are being printed. -/
  inClosure : Bool
  /-- Whether a pack of template arguments has been printed. -/
  sawPack : Bool
  /-- The last identifier. -/
  source : Option String
  /-- Whether the next parameter is the object of a member function. -/
  objectNext : Bool

/-- Printing parts of a name. It fails if a scope lacks what a part needs, or if parts are nested
too deep. -/
abbrev Printer (α : Type) : Type :=
  ReaderT Printer.Context (EStateM Unit Printer.State) α

/-- The two ways to print a component: as a whole, or as what stands around its contents. -/
inductive Job where
  | whole (component : Component)
  | around (component : Component)

namespace Component

/-- The last part of a name, under which constructors go. -/
def leaf? (table : Array Component) : Nat → Component → Option Component
  | 0, _ => none
  | fuel + 1, component =>
    match component with
    | .reference index => table[index]?.bind (leaf? table fuel)
    | .unshared path => leaf? table fuel path
    | .standard name => if name.code = "St" then none else some (.standard name)
    | .source text => some (.source text)
    | .closure parameters number => some (.closure parameters number)
    | .unnamedType number => some (.unnamedType number)
    | .unqualified base _ => leaf? table fuel base
    | .unscoped _ name => leaf? table fuel name
    | .unscopedTemplate template _ => leaf? table fuel template
    | .nested _ _ _ lead name =>
      (leaf? table fuel name).or (lead.bind (leaf? table fuel))
    | .nestedTemplate _ _ _ path => leaf? table fuel path
    | .localName _ name => name.bind (leaf? table fuel)
    | .localDefault _ name => leaf? table fuel name
    | .pathStart name => leaf? table fuel name
    | .pathStep lead name => (leaf? table fuel name).or (leaf? table fuel lead)
    | .pathTemplate lead _ => leaf? table fuel lead
    | .pathMember _ text => some (.source text)
    | .classEnum _ name => leaf? table fuel name
    | _ => none

/-- The template arguments at the end of a name. -/
def arguments? (table : Array Component) : Nat → Component → Option (Nat × List Component)
  | 0, _ => none
  | fuel + 1, component =>
    match component with
    | .templateArgs start arguments => some (start, arguments)
    | .unscopedTemplate _ arguments => arguments? table fuel arguments
    | .nestedTemplate _ _ _ (.unshared path) => arguments? table fuel path
    | .nestedTemplate _ _ _ (.reference index) => table[index]?.bind (arguments? table fuel)
    | .pathTemplate _ arguments => arguments? table fuel arguments
    | .localName _ name => name.bind (arguments? table fuel)
    | .localDefault _ name => arguments? table fuel name
    | _ => none

/-- The template arguments inside a type. -/
def typeArguments? (table : Array Component) : Nat → Component → Option (Nat × List Component)
  | 0, _ => none
  | fuel + 1, component =>
    match component with
    | .reference index => table[index]?.bind (typeArguments? table fuel)
    | .vendorQualified _ (some (.templateArgs start arguments)) _ => some (start, arguments)
    | .templateTemplate _ (.templateArgs start arguments) => some (start, arguments)
    | .pointer type => typeArguments? table fuel type
    | .ref _ type => typeArguments? table fuel type
    | _ => none

/-- Whether a name is that of a constructor, a destructor or a conversion operator. Such functions
have no result type even as templates. -/
def lacksResult (table : Array Component) : Nat → Component → Bool
  | 0, _ => false
  | fuel + 1, component =>
    match component with
    | .reference index => table[index]?.any (lacksResult table fuel)
    | .unshared path => lacksResult table fuel path
    | .unqualified base _ => lacksResult table fuel base
    | .constructor _ => true
    | .destructor => true
    | .operatorName (.conversionOperator _) => true
    | .unscoped _ name => lacksResult table fuel name
    | .nested _ _ _ _ name => lacksResult table fuel name
    | .nestedTemplate _ _ _ path => lacksResult table fuel path
    | .pathStart name => lacksResult table fuel name
    | .pathStep _ name => lacksResult table fuel name
    | .pathTemplate lead _ => lacksResult table fuel lead
    | _ => false

/-- Whether an operand needs no parentheses. -/
def isAtom : Component → Bool
  | .functionParam _ => true
  | .external _ => true
  | _ => false

end Component

namespace Printer

/-- The deepest chain of references that is followed. -/
def chainLimit : Nat := 256

/-- Print a text. -/
def write (text : String) : Printer Unit := do
  unless text.isEmpty do
    modify fun state => { state with text := state.text ++ text, last := text.toList.getLast? }

/-- Print a blank, unless there is one already. -/
def space : Printer Unit := do
  unless (← get).last == some ' ' do write " "

/-- Enter components that lie inside each other. -/
def within (levels : Nat) (body : Printer Unit) : Printer Unit := do
  if (← read).levels < levels then throw ()
  withReader (fun context => { context with levels := context.levels - levels }) body

/-- Print inside one more scope. -/
def inScope (item : ScopeItem) (body : Printer Unit) : Printer Unit :=
  withReader (fun context => { context with scopes := ⟨item, none⟩ :: context.scopes }) body

/-- Print with nothing to be written around. -/
def isolated (body : Printer Unit) : Printer Unit := do
  let inner := (← get).inner
  modify fun state => { state with inner := [] }
  body
  modify fun state => { state with inner := inner }

/-- Take the innermost component that is to be written around. -/
def pop : Printer (Option Component) := do
  match (← get).inner with
  | [] => return none
  | (_, component) :: rest =>
    modify fun state => { state with inner := rest }
    return some component

/-- Print parts with commas between them. -/
def commas (print : Component → Printer Unit) : List Component → Printer Unit
  | [] => pure ()
  | [component] => print component
  | component :: rest => do
    print component
    write ", "
    commas print rest

/-- Print an identifier. Anonymous namespaces have reserved identifiers. -/
def identifier (text : String) : Printer Unit := within 2 do
  match text.toList with
  | '_' :: 'G' :: 'L' :: 'O' :: 'B' :: 'A' :: 'L' :: '_' :: mark :: 'N' :: _ =>
    if mark = '_' ∨ mark = '.' ∨ mark = '$' then write "(anonymous namespace)"
    else ordinary
  | _ => ordinary
where
  /-- Print an ordinary identifier. -/
  ordinary : Printer Unit := do
    modify fun state => { state with source := some text }
    write text

/-- Print the tags behind a name. -/
def printTags (tags : List String) : Printer Unit := within 1 do
  tags.forM fun tag => within 1 do
    write "[abi:"
    identifier tag
    write "]"

/-- Print qualifiers behind what they qualify. -/
def printQualifiers (q : Qualifiers) : Printer Unit := within 1 do
  if q.isConst then
    space
    write "const"
  if q.isVolatile then
    space
    write "volatile"
  if q.isRestrict then
    space
    write "restrict"

/-- The template argument with an index. An argument cannot refer to itself or to a later one of
its list. -/
def argument? (index : Nat) : Option (Nat × Nat) → List Scope → Option Component
  | _, [] => none
  | inArgument, scope :: rest =>
    match scope.item with
    | .leaf _ => argument? index scope.inArgument rest
    | .arguments start arguments =>
      match arguments[index]? with
      | none => argument? index scope.inArgument rest
      | some argument =>
        match inArgument with
        | none => some argument
        | some (inIndex, inStart) =>
          if inStart = start ∧ inIndex ≤ index then none else some argument

/-- The name of the class whose constructor is printed. -/
def leaf? : List Scope → Option Component
  | [] => none
  | ⟨.leaf name, _⟩ :: _ => some name
  | _ :: rest => leaf? rest

variable (sub : Job → Printer Unit)

/-- Print a component that is to be written around the given contents, and behind them if nobody
has taken it. -/
def surround (component : Component) (contents : Printer Unit) (before : Printer Unit) :
    Printer Unit := do
  let number := (← get).fresh
  modify fun state => { state with
    inner := (number, component) :: state.inner, fresh := number + 1 }
  contents
  match (← get).inner with
  | (top, _) :: rest =>
    if top = number then
      modify fun state => { state with inner := rest }
      before
      sub (.around component)
  | [] => pure ()

/-- Print everything that is to be written around, innermost first. -/
def unwind : Nat → Printer Unit
  | 0 => pure ()
  | fuel + 1 => do
    match ← pop with
    | some component =>
      sub (.around component)
      unwind fuel
    | none => pure ()

/-- How many components are to be written around. -/
def depth : Printer Nat := do
  return (← get).inner.length

/-- Print what stands in front of parameters, and keep the qualifiers of functions for behind
them. -/
def unwindBefore : Nat → List (Nat × Component) → Printer Unit
  | 0, kept => modify fun state => { state with inner := kept.reverse }
  | fuel + 1, kept => do
    match (← get).inner with
    | [] => modify fun state => { state with inner := kept.reverse }
    | (number, component) :: rest =>
      modify fun state => { state with inner := rest }
      match component with
      | .function qualifiers _ _ _ =>
        if qualifiers.isEmpty then
          sub (.around component)
          unwindBefore fuel kept
        else unwindBefore fuel ((number, component) :: kept)
      | _ =>
        sub (.around component)
        unwindBefore fuel kept

/-- Whether the components around a function need parentheses, and a blank in front of them. Only
those up to the first one that needs parentheses count. -/
def parentheses : List (Nat × Component) → Bool × Bool
  | [] => (false, false)
  | (_, component) :: rest =>
    match component with
    | .qualified _ _ | .complex _ | .imaginary _ | .pointerToMember _ _ => (true, true)
    | .pointer _ | .ref _ _ => (true, false)
    | _ => parentheses rest

/-- Print the parameters of a function, and before them what is to be written around it. -/
def parameters (types : List Component) : Printer Unit := within 1 do
  let (needsParentheses, needsSpace) := parentheses (← get).inner
  if needsParentheses then
    let last := (← get).last
    if needsSpace || !(last == some '(' || last == some '*') then space
    write "("
  unwindBefore sub ((← depth) + 1) []
  if needsParentheses then write ")"
  write "("
  match types with
  | [type] =>
    if type.isVoid then
      write ")"
      return
  | _ => pure ()
  commas parameter types
  write ")"
  unwind sub ((← depth) + 1)
where
  /-- Print one parameter. -/
  parameter (type : Component) : Printer Unit := do
    if (← get).objectNext then
      modify fun state => { state with objectNext := false }
      write "this "
    sub (.whole type)

/-- Print what follows a nested name: what is to be written around it, and the qualifiers of a
member function. -/
def finishNested (qualifiers : Qualifiers) (ref : Option RefKind) : Printer Unit := do
  if let some component ← pop then sub (.around component)
  unless qualifiers.isEmpty do printQualifiers qualifiers
  match ref with
  | some ref =>
    space
    write ref.sign
  | none => pure ()

/-- Print the name of a class as that of its constructor. -/
def printLeaf (leaf : Component) : Printer Unit := do
  match leaf with
  | .standard name => write name.leaf
  | .unnamedType number =>
    match (← get).source with
    | some source => write source
    | none => sub (.whole (.unnamedType number))
  | leaf => sub (.whole leaf)

/-- Print an operand, in parentheses unless it cannot be misread. -/
def operand (component : Component) : Printer Unit := do
  if component.isAtom then sub (.whole component)
  else
    write "("
    sub (.whole component)
    write ")"

/-- Print a literal. Only integers are shown without their type. -/
def literal (type : Component) (text : String) : Printer Unit := do
  match type with
  | .builtin "bool" =>
    match text with
    | "0" => write "false"
    | "1" => write "true"
    | text =>
      write "(bool)"
      signed "-" text
  | .builtin "std::nullptr_t" => write "nullptr"
  | .builtin "int" => signed "-" text
  | .builtin "double" | .builtin "float" =>
    write "("
    sub (.whole type)
    write ")"
    bracketed text.toList
  | type =>
    write "("
    sub (.whole type)
    write ")"
    signed "-" text
where
  /-- Print a number whose sign is written as a letter. -/
  signed (sign text : String) : Printer Unit :=
    match text.toList with
    | 'n' :: rest => do
      write sign
      write (String.ofList rest)
    | _ => write text
  /-- Print the digits of a floating-point number. -/
  bracketed (text : List Char) : Printer Unit := do
    match text with
    | 'n' :: rest =>
      write "-["
      write (String.ofList rest)
    | text =>
      write "["
      write (String.ofList text)
    write "]"

/-- Print template arguments. Two closing brackets are kept apart. -/
def templateArgs (start : Nat) (arguments : List Component) : Printer Unit :=
  within 1 <| isolated do
    write "<"
    go 0 arguments
    if (← get).last == some '>' then write " "
    write ">"
where
  /-- Print the remaining arguments. -/
  go : Nat → List Component → Printer Unit
    | _, [] => pure ()
    | index, argument :: rest => do
      if 0 < index then write ", "
      withReader (fun context => { context with
        scopes := match context.scopes with
          | [] => []
          | scope :: outer => { scope with inArgument := some (index, start) } :: outer })
        (sub (.whole argument))
      go (index + 1) rest

/-- Print the type behind an operator of conversion. It may use its own template arguments before
they are written. -/
def conversion (type : Component) : Printer Unit :=
  within 1 <| isolated do
    space
    match type.typeArguments? (← read).table chainLimit with
    | some (start, arguments) => inScope (.arguments start arguments) (sub (.whole type))
    | none => sub (.whole type)

/-- Print the encoding of a function: its name, with the parameters written around it. -/
def encodedFunction (name : Component) (types : List Component) : Printer Unit :=
  within 1 <| isolated do
    let table := (← read).table
    let body := surround sub (.encodedFunction name types) (sub (.whole name)) (pure ())
    let body := match name.arguments? table chainLimit with
      | some (start, arguments) => inScope (.arguments start arguments) body
      | none => body
    match name.leaf? table chainLimit with
    | some leaf => inScope (.leaf leaf) body
    | none => body

/-- Print the parameters of an encoded function. An instance of a template is encoded with its
result type, which is not shown. -/
def encodedParameters (name : Component) (types : List Component) : Printer Unit := do
  let table := (← read).table
  let hasObject := match name with
    | .nested _ _ hasObject _ _ => hasObject
    | .nestedTemplate _ _ hasObject _ => hasObject
    | _ => false
  if hasObject then modify fun state => { state with objectNext := true }
  match name.arguments? table chainLimit with
  | some (start, arguments) =>
    -- The first type is the result.
    let types := if name.lacksResult table chainLimit then types else types.drop 1
    inScope (.arguments start arguments) (parameters sub types)
  | none => parameters sub types

/-- Print the offsets of a thunk. -/
def printOffset (offset : CallOffset) : Printer Unit := do
  match offset with
  | .fixed offset => write ("\x7boffset(" ++ toString offset ++ ")\x7d, ")
  | .virtual offset lookup =>
    write ("\x7bvirtual offset(" ++ toString offset ++ ", " ++ toString lookup ++ ")\x7d, ")

/-- Print a component as a whole. -/
def whole (component : Component) : Printer Unit := do
  let print (component : Component) : Printer Unit := sub (.whole component)
  match component with
  | .reference index => within 1 do
    match (← read).table[index]? with
    | some entry => print entry
    | none => throw ()
  | .unshared path => within 1 (print path)
  | .standard name => within 1 (write name.shown)
  | .source text => identifier text
  | .unqualified base tags => within 1 do
    print base
    printTags tags
  | .operatorName operator =>
    write "operator"
    print operator
  | .simpleOperator operator => within 2 do
    -- Operators that are words stand apart.
    if operator.code = "nw" ∨ operator.code = "na" ∨ operator.code = "dl" ∨
        operator.code = "da" then space
    write operator.sign
  | .castOperator type => conversion sub type
  | .conversionOperator type => conversion sub type
  | .literalOperator text => within 1 do
    identifier text
    write "::operator \"\""
  | .vendorOperator arity text => within 1 do
    identifier text
    write ("::operator " ++ toString arity)
  | .constructor inherited => within 1 do
    match leaf? (← read).scopes with
    | none => throw ()
    | some leaf =>
      match inherited with
      | none => printLeaf sub leaf
      | some type =>
        match type.leaf? (← read).table chainLimit with
        | some leaf => printLeaf sub leaf
        | none => throw ()
  | .destructor => within 1 do
    match leaf? (← read).scopes with
    | none => throw ()
    | some leaf =>
      write "~"
      printLeaf sub leaf
  | .closure parameters number => within 1 <| isolated do
    write "\x7blambda("
    within 1 (commas closureParameter parameters)
    write (")#" ++ toString (match number with
      | some n => n + 2
      | none => 1) ++ "\x7d")
  | .unnamedType number => within 1 do
    write ("\x7bunnamed type#" ++ toString (match number with
      | some n => n + 1
      | none => 1) ++ "\x7d")
  | .unscoped inStd name => within 2 do
    if inStd then write "std::"
    print name
  | .unscopedTemplate template arguments => within 1 do
    match arguments with
    | .templateArgs start list => inScope (.arguments start list) (print template)
    | _ => print template
    print arguments
  | .nested qualifiers ref _ lead name => within 2 do
    match lead with
    | some lead =>
      print lead
      write "::"
    | none => pure ()
    print name
    finishNested sub qualifiers ref
  | .nestedTemplate qualifiers ref _ path => within 2 do
    print path
    finishNested sub qualifiers ref
  | .localName function name => within 2 do
    print function
    match name with
    | some name =>
      write "::"
      print name
    | none => write "::string literal"
  | .localDefault function _ => within 2 (print function)
  | .pathStart name => within 1 (print name)
  | .pathStep lead name => within 1 do
    print lead
    write "::"
    print name
  | .pathTemplate lead arguments => within 1 do
    print lead
    print arguments
  | .pathMember lead text => within 2 do
    print lead
    write "::"
    identifier text
  | .templateParam index => within 2 do
    if (← get).inClosure then write ("auto:" ++ toString (index + 1))
    else
      match argument? index none (← read).scopes with
      | some argument => print argument
      | none => throw ()
  | .decltype expression => within 2 do
    write "decltype ("
    print expression
    write ")"
  | .templateArgs start arguments => templateArgs sub start arguments
  | .argument content => within 1 (print content)
  | .argumentPack arguments => within 1 do
    modify fun state => { state with sawPack := true }
    commas print arguments
  | .builtin shown => within 2 (write shown)
  | .vendorBuiltin text => within 1 (identifier text)
  | .bitInt isSigned width => within 2 do
    write (if isSigned then "signed _BitInt(" else "unsigned _BitInt(")
    print width
    write ")"
  | .numericText shown => within 2 (write shown)
  | .classEnum keyword name => within 2 do
    write keyword
    print name
  | .function _ exceptions _ signature => within 2 do
    surround sub component (print signature) (pure ())
    match exceptions with
    | .free => pure ()
    | .none =>
      space
      write "noexcept"
    | .noneIf condition =>
      space
      write "noexcept("
      print condition
      write ")"
  | .signature types => within 1 do
    match types with
    | [] => throw ()
    | result :: _ => surround sub component (print result) space
  | .array _ element => within 2 (surround sub component (print element) (pure ()))
  | .vector _ element => within 2 (surround sub component (print element) (pure ()))
  | .pointerToMember _ member => within 2 (surround sub component (print member) (pure ()))
  | .templateTemplate template arguments => within 1 do
    print template
    print arguments
  | .qualified _ type => within 1 (surround sub component (print type) (pure ()))
  | .pointer type => within 1 (surround sub component (print type) (pure ()))
  | .ref _ type => within 1 (surround sub component (print type) (pure ()))
  | .complex type => within 1 (surround sub component (print type) (pure ()))
  | .imaginary type => within 1 (surround sub component (print type) (pure ()))
  | .vendorQualified text arguments type => within 1 do
    print type
    write " "
    identifier text
    arguments.forM print
  | .packExpansion type => within 1 do
    print type
    unless (← get).sawPack do write "..."
  | .encodedFunction name types => encodedFunction sub name types
  | .encodedData name => within 1 (isolated (print name))
  | .special before content after => within 2 <| isolated do
    write before
    print content
    write after
  | .constructionTable table base => within 2 <| isolated do
    write "construction vtable for "
    print table
    write "-in-"
    print base
  | .thunk offsets target => within 2 <| isolated do
    write "\x7bvirtual override thunk("
    offsets.forM printOffset
    print target
    write ")\x7d"
  | .resource text => within 2 do
    write "java resource "
    write text
  | .mangled encoding clones => within 1 do
    print encoding
    clones.forM fun clone => write (" [clone " ++ clone ++ "]")
  | .block encoding => within 1 do
    write "invocation function for block in "
    print encoding
  | .unary operator operand => within 1 do
    print operator
    Printer.operand sub operand
  | .binary operator left right => within 1 do
    let isGreater := match operator with
      | .simpleOperator simple => simple.code == "gt"
      | _ => false
    -- A bare sign would end the template arguments around it.
    if isGreater then write "("
    operand sub left
    print operator
    operand sub right
    if isGreater then write ")"
  | .ternary operator first second third => within 1 do
    match operator with
    | .simpleOperator ⟨"qu", _, _⟩ =>
      operand sub first
      write "?"
      operand sub second
      write " : "
      operand sub third
    | operator =>
      print operator
      write "("
      commas print [first, second, third]
      write ")"
  | .prefixed sign operand => within 1 do
    write sign
    print operand
  | .call callee arguments => within 1 do
    operand sub callee
    write "("
    commas print arguments
    write ")"
  | .convertOne type operand => within 1 do
    write "("
    print type
    write ")("
    print operand
    write ")"
  | .convertMany isBraced type operands => within 1 do
    type.forM print
    write (if isBraced then "\x7b" else "(")
    commas print operands
    write (if isBraced then "\x7d" else ")")
  | .new sign placement type initializer => within 1 do
    write sign
    write " ("
    commas print placement
    write ") "
    print type
    match initializer with
    | some operands => within 1 do
      write "("
      commas print operands
      write ")"
    | none => pure ()
  | .cast kind type operand => within 1 do
    write kind.keyword
    write "<"
    print type
    write ">("
    print operand
    write ")"
  | .keyword word operand => within 1 do
    write word
    write " ("
    print operand
    write ")"
  | .subobject type operand offset => within 2 do
    print operand
    write ".<"
    print type
    write (" at offset " ++ toString offset ++ ">")
  | .functionParam index => within 2 do
    match index with
    | some n => write ("\x7bparm#" ++ toString (n + 1) ++ "\x7d")
    | none => write "this"
  | .member isPointer operand name => within 1 do
    Printer.operand sub operand
    write (if isPointer then "->" else ".")
    print name
  | .memberName name => within 1 (print name)
  | .memberPointer operand name => within 1 do
    Printer.operand sub operand
    write ".*"
    print name
  | .sizeofPack arguments => within 1 do
    write "sizeof...("
    commas print arguments
    write ")"
  | .expandedPack operand => within 1 do
    Printer.operand sub operand
    write "..."
  | .foldLeft operator operand => within 1 do
    write "(..."
    print operator
    Printer.operand sub operand
    write ")"
  | .foldRight operator operand => within 1 do
    write "("
    Printer.operand sub operand
    print operator
    write "...)"
  | .foldBoth operator left right => within 1 do
    write "("
    operand sub left
    print operator
    write "..."
    print operator
    operand sub right
    write ")"
  | .rethrow => within 1 (write "throw")
  | .unresolved isGlobal type levels name => within 2 do
    if isGlobal then write "::"
    (type.toList ++ levels).forM fun level => do
      print level
      write "::"
    print name
  | .simpleId text arguments => within 1 do
    identifier text
    arguments.forM print
  | .operatorId operator arguments => within 1 do
    print operator
    arguments.forM print
  | .destructorId type => within 2 do
    write "~"
    print type
  | .unresolvedParam param arguments => within 1 do
    print param
    arguments.forM print
  | .literal type text => within 1 (literal sub type text)
  | .external name => within 1 (print name)
where
  /-- Print a parameter of a closure, in which template parameters are placeholders. -/
  closureParameter (type : Component) : Printer Unit := do
    modify fun state => { state with inClosure := true }
    sub (.whole type)
    modify fun state => { state with inClosure := false }

/-- Whether a component is an array type, possibly qualified. -/
def isArray (component : Component) : Printer Bool := do
  match component with
  | .array _ _ => return true
  | .qualified _ (.reference index) =>
    match (← read).table[index]? with
    | some (.array _ _) => return true
    | _ => return false
  | _ => return false

/-- Print what is to be written around an array, in front of its size. The answer is whether a
blank belongs before the size: not directly behind the size of an array around it. -/
def beforeSize : Nat → Bool → Printer Bool
  | 0, needsSpace => pure needsSpace
  | fuel + 1, needsSpace => do
    match ← pop with
    | none => return needsSpace
    | some component =>
      if ← isArray component then
        sub (.around component)
        match component with
        | .array _ _ => beforeSize fuel false
        | _ => beforeSize fuel needsSpace
      else
        space
        match component with
        | .qualified _ _ =>
          sub (.around component)
          space
          write "("
        | _ =>
          write "("
          sub (.around component)
        unwind sub ((← depth) + 1)
        write ")"
        beforeSize fuel needsSpace

/-- References to references collapse: the sign is that of an lvalue unless all are rvalues. The
answer is whether the sign is left to an outer one. -/
def collapse (kind : RefKind) : Nat → Printer Bool
  | 0 => pure false
  | fuel + 1 => do
    match kind, (← get).inner with
    | .rvalue, (_, .ref .lvalue _) :: _ => return true
    | _, (_, .ref _ _) :: rest =>
      modify fun state => { state with inner := rest }
      collapse kind fuel
    | _, _ => return false

/-- Print a component as what stands around its contents. -/
def around (component : Component) : Printer Unit := within 1 do
  match component with
  | .encodedFunction name types => encodedParameters sub name types
  | .qualified qualifiers _ => printQualifiers qualifiers
  | .pointer _ => write "*"
  | .ref kind _ =>
    unless ← collapse kind ((← depth) + 1) do write kind.sign
  | .complex _ =>
    space
    write "complex"
  | .imaginary _ =>
    space
    write "imaginary"
  | .array size _ =>
    if ← beforeSize sub ((← depth) + 1) true then space
    write "["
    size.forM fun size => sub (.whole size)
    write "]"
  | .vector size _ =>
    write " __vector("
    sub (.whole size)
    write ")"
  | .pointerToMember scope _ =>
    unless (← get).last == some '(' do write " "
    sub (.whole scope)
    write "::*"
  | .function qualifiers _ ref _ =>
    unless qualifiers.isEmpty do printQualifiers qualifiers
    match ref with
    | some ref =>
      space
      write ref.sign
    | none => pure ()
  | .signature types => parameters sub (types.drop 1)
  | _ => throw ()

/-- Do a job, with at most `fuel` jobs inside each other. -/
def run : Nat → Job → Printer Unit
  | 0, _ => throw ()
  | fuel + 1, .whole component => whole (run fuel) component
  | fuel + 1, .around component => around (run fuel) component

/-- How many components may be entered inside each other. -/
def levelLimit : Nat := 127

end Printer

/-- The form of a whole name in the source. -/
def Component.display? (table : Array Component) (component : Component) : Option String :=
  let context : Printer.Context := ⟨table, Printer.levelLimit, []⟩
  let state : Printer.State :=
    { text := "", last := none, inner := [], fresh := 0, inClosure := false, sawPack := false,
      source := none, objectNext := false }
  match (Printer.run (2 * Printer.levelLimit) (.whole component) context).run state with
  | .ok _ state => some state.text
  | .error _ _ => none

end Callstack.Mangling.Itanium
