/-!
# Components of C++ names

A mangled C++ name is a tree of components. Parts that have occurred before are written as
references to a table, so a component may be an index into that table.

## Main definitions

* `Qualifiers`, `RefKind`, `Operator`, `StandardName` — the vocabulary of names
* `Component` — the tree
-/

namespace Callstack.Mangling.Itanium

/-- The qualifiers of a type or of a member function. -/
structure Qualifiers where
  /-- `restrict` -/
  isRestrict : Bool := false
  /-- `volatile` -/
  isVolatile : Bool := false
  /-- `const` -/
  isConst : Bool := false
  deriving DecidableEq, Inhabited

/-- Whether there is no qualifier at all. -/
def Qualifiers.isEmpty (q : Qualifiers) : Bool :=
  !q.isRestrict && !q.isVolatile && !q.isConst

/-- The two kinds of reference. -/
inductive RefKind where
  | lvalue
  | rvalue
  deriving DecidableEq, Inhabited

/-- The sign of a reference. -/
def RefKind.sign : RefKind → String
  | .lvalue => "&"
  | .rvalue => "&&"

/-- An operator that has a code of its own. -/
structure Operator where
  /-- The two letters that stand for it. -/
  code : String
  /-- Its sign in the source. -/
  sign : String
  /-- The number of its operands in an expression. -/
  arity : Nat
  deriving DecidableEq, Inhabited

/-- The operators, in the order in which their codes are tried. -/
def Operator.all : List Operator :=
  [⟨"nw", "new", 3⟩, ⟨"na", "new[]", 3⟩, ⟨"dl", "delete", 1⟩, ⟨"da", "delete[]", 1⟩,
   ⟨"ps", "+", 1⟩, ⟨"ng", "-", 1⟩, ⟨"ad", "&", 1⟩, ⟨"de", "*", 1⟩, ⟨"co", "~", 1⟩,
   ⟨"pl", "+", 2⟩, ⟨"mi", "-", 2⟩, ⟨"ml", "*", 2⟩, ⟨"dv", "/", 2⟩, ⟨"rm", "%", 2⟩,
   ⟨"an", "&", 2⟩, ⟨"or", "|", 2⟩, ⟨"eo", "^", 2⟩, ⟨"aS", "=", 2⟩, ⟨"pL", "+=", 2⟩,
   ⟨"mI", "-=", 2⟩, ⟨"mL", "*=", 2⟩, ⟨"dV", "/=", 2⟩, ⟨"rM", "%=", 2⟩, ⟨"aN", "&=", 2⟩,
   ⟨"oR", "|=", 2⟩, ⟨"eO", "^=", 2⟩, ⟨"ls", "<<", 2⟩, ⟨"rs", ">>", 2⟩, ⟨"lS", "<<=", 2⟩,
   ⟨"rS", ">>=", 2⟩, ⟨"eq", "==", 2⟩, ⟨"ne", "!=", 2⟩, ⟨"lt", "<", 2⟩, ⟨"gt", ">", 2⟩,
   ⟨"le", "<=", 2⟩, ⟨"ge", ">=", 2⟩, ⟨"nt", "!", 1⟩, ⟨"aa", "&&", 2⟩, ⟨"oo", "||", 2⟩,
   ⟨"pp", "++", 1⟩, ⟨"mm", "--", 1⟩, ⟨"cm", ",", 2⟩, ⟨"pm", "->*", 2⟩, ⟨"pt", "->", 2⟩,
   ⟨"cl", "()", 2⟩, ⟨"ix", "[]", 2⟩, ⟨"qu", "?:", 3⟩, ⟨"ss", "<=>", 2⟩]

/-- A part of the standard library with an abbreviation of its own. -/
structure StandardName where
  /-- The abbreviation. -/
  code : String
  /-- The name that is shown. -/
  shown : String
  /-- The last part of the name, under which its constructors go. -/
  leaf : String
  deriving DecidableEq, Inhabited

/-- The abbreviations. -/
def StandardName.all : List StandardName :=
  [⟨"St", "std", "std"⟩,
   ⟨"Sa", "std::allocator", "allocator"⟩,
   ⟨"Sb", "std::basic_string", "basic_string"⟩,
   ⟨"Ss", "std::string", "string"⟩,
   ⟨"Si", "std::basic_istream<char, std::char_traits<char> >", "basic_istream"⟩,
   ⟨"So", "std::ostream", "ostream"⟩,
   ⟨"Sd", "std::basic_iostream<char, std::char_traits<char> >", "basic_iostream"⟩]

/-- The types that have a code of their own, and their names. -/
def builtinTypes : List (String × String) :=
  [("v", "void"), ("w", "wchar_t"), ("b", "bool"), ("c", "char"), ("a", "signed char"),
   ("h", "unsigned char"), ("s", "short"), ("t", "unsigned short"), ("i", "int"),
   ("j", "unsigned int"), ("l", "long"), ("m", "unsigned long"), ("x", "long long"),
   ("y", "unsigned long long"), ("n", "__int128"), ("o", "unsigned __int128"), ("f", "float"),
   ("d", "double"), ("e", "long double"), ("g", "__float128"), ("z", "..."),
   ("Dd", "decimal64"), ("De", "decimal128"), ("Df", "decimal32"), ("Dh", "half"),
   ("DF16b", "std::bfloat16_t"), ("Di", "char32_t"), ("Ds", "char16_t"), ("Du", "char8_t"),
   ("Da", "auto"), ("Dc", "decltype(auto)"), ("Dn", "std::nullptr_t")]

/-- The fixed-point types. A code says whether overflow saturates, whether there is an integral
part, and the size. -/
def fixedPointTypes : List (String × String) :=
  [("", ""), ("DS", "_Sat ")].flatMap fun (mark, saturation) =>
    [("DA", "_Accum"), ("DR", "_Fract")].flatMap fun (kind, word) =>
      [("s", "short "), ("t", "unsigned short "), ("i", ""), ("j", "unsigned "), ("l", "long "),
       ("m", "unsigned long ")].map fun (size, sized) =>
        (mark ++ kind ++ size, saturation ++ sized ++ word)

/-- How the exceptions of a function type are restricted. -/
inductive Exceptions (α : Type) where
  | free
  | none
  | noneIf (condition : α)
  deriving Inhabited

/-- How a cast is spelt. -/
inductive CastKind where
  | dynamic
  | static
  | const
  | reinterpret
  deriving DecidableEq, Inhabited

/-- The keyword of a cast. -/
def CastKind.keyword : CastKind → String
  | .dynamic => "dynamic_cast"
  | .static => "static_cast"
  | .const => "const_cast"
  | .reinterpret => "reinterpret_cast"

/-- An offset that a thunk adds to its object. -/
inductive CallOffset where
  | fixed (offset : Int)
  | virtual (offset lookup : Int)
  deriving DecidableEq, Inhabited

/-- A part of a name. -/
inductive Component where
  /-- an entry of the table -/
  | reference (index : Nat)
  /-- a path that has no entry of its own in the table -/
  | unshared (path : Component)
  | standard (name : StandardName)
  /-- an identifier -/
  | source (text : String)
  /-- a name without its scope, and the tags behind it -/
  | unqualified (base : Component) (tags : List String)
  | operatorName (operator : Component)
  | simpleOperator (operator : Operator)
  | castOperator (type : Component)
  | conversionOperator (type : Component)
  | literalOperator (text : String)
  | vendorOperator (arity : Nat) (text : String)
  | constructor (inherited : Option Component)
  | destructor
  | closure (parameters : List Component) (number : Option Nat)
  | unnamedType (number : Option Nat)
  | unscoped (inStd : Bool) (name : Component)
  | unscopedTemplate (template : Component) (arguments : Component)
  | nested (qualifiers : Qualifiers) (ref : Option RefKind) (hasObject : Bool)
      (lead : Option Component) (name : Component)
  | nestedTemplate (qualifiers : Qualifiers) (ref : Option RefKind) (hasObject : Bool)
      (path : Component)
  | localName (function : Component) (name : Option Component)
  | localDefault (function : Component) (name : Component)
  | pathStart (name : Component)
  | pathStep (lead : Component) (name : Component)
  | pathTemplate (lead : Component) (arguments : Component)
  | pathMember (lead : Component) (text : String)
  | templateParam (index : Nat)
  | decltype (expression : Component)
  /-- template arguments, which are told apart by where they begin -/
  | templateArgs (start : Nat) (arguments : List Component)
  | argument (content : Component)
  | argumentPack (arguments : List Component)
  | builtin (shown : String)
  | vendorBuiltin (text : String)
  | bitInt (isSigned : Bool) (width : Component)
  | numericText (shown : String)
  | classEnum (keyword : String) (name : Component)
  | function (qualifiers : Qualifiers) (exceptions : Exceptions Component)
      (ref : Option RefKind) (signature : Component)
  | signature (types : List Component)
  | array (size : Option Component) (element : Component)
  | vector (size : Component) (element : Component)
  | pointerToMember (scope : Component) (member : Component)
  | templateTemplate (template : Component) (arguments : Component)
  | qualified (qualifiers : Qualifiers) (type : Component)
  | pointer (type : Component)
  | ref (kind : RefKind) (type : Component)
  | complex (type : Component)
  | imaginary (type : Component)
  | vendorQualified (text : String) (arguments : Option Component) (type : Component)
  | packExpansion (type : Component)
  | encodedFunction (name : Component) (types : List Component)
  | encodedData (name : Component)
  /-- a fixed text, a component, and a fixed text -/
  | special (before : String) (content : Component) (after : String)
  | constructionTable (table : Component) (base : Component)
  | thunk (offsets : List CallOffset) (target : Component)
  | resource (text : String)
  | mangled (encoding : Component) (clones : List String)
  /-- the function that holds the code of a block inside another one -/
  | block (encoding : Component)
  | unary (operator : Component) (operand : Component)
  | binary (operator : Component) (left right : Component)
  | ternary (operator : Component) (first second third : Component)
  | prefixed (sign : String) (operand : Component)
  | call (callee : Component) (arguments : List Component)
  | convertOne (type : Component) (operand : Component)
  /-- a type, and operands between two brackets -/
  | convertMany (isBraced : Bool) (type : Option Component) (operands : List Component)
  | new (sign : String) (placement : List Component) (type : Component)
      (initializer : Option (List Component))
  | cast (kind : CastKind) (type : Component) (operand : Component)
  /-- a keyword and an operand in parentheses -/
  | keyword (word : String) (operand : Component)
  /-- a part of an object, given by its type and its offset -/
  | subobject (type : Component) (operand : Component) (offset : Int)
  | functionParam (index : Option Nat)
  | member (isPointer : Bool) (operand : Component) (name : Component)
  | memberName (name : Component)
  | memberPointer (operand : Component) (name : Component)
  | sizeofPack (arguments : List Component)
  | expandedPack (operand : Component)
  | foldLeft (operator : Component) (operand : Component)
  | foldRight (operator : Component) (operand : Component)
  | foldBoth (operator : Component) (left right : Component)
  | rethrow
  | unresolved (isGlobal : Bool) (type : Option Component) (levels : List Component)
      (name : Component)
  | simpleId (text : String) (arguments : Option Component)
  | operatorId (operator : Component) (arguments : Option Component)
  | destructorId (type : Component)
  | unresolvedParam (param : Component) (arguments : Option Component)
  | literal (type : Component) (text : String)
  | external (name : Component)
  deriving Inhabited

namespace Component

/-- The type without values. -/
def isVoid : Component → Bool
  | .builtin shown => shown == "void"
  | _ => false

end Component

end Callstack.Mangling.Itanium
