import Callstack.Text.Numeral

/-!
# Command-line arguments

Options are long, `--name value` or `--name=value`, or short, `-n value`, `-nvalue` or `-n=value`.
Short options without value may share one dash. Every option may be given once. A value of its own
must not begin with a dash, unless it is nothing but a dash; behind a lone `--` nothing is an
option.

Arguments are handled from the left and the first problem is reported. The value of an option is
looked at only when the next option begins, or at the end; by then an argument that is no option at
all has been reported.

## Main definitions

* `Cli.Opt` — the options
* `Cli.Settings` — what they set
* `Cli.Problem` — what can be wrong
* `Cli.parse` — read the arguments
-/

namespace Callstack.Cli

/-- The options. -/
inductive Opt where
  | maxFrames
  | skip
  | depth
  | label
  | indent
  | backend
  | log
  | help
  deriving DecidableEq, Repr

namespace Opt

/-- All options. -/
def all : List Opt := [maxFrames, skip, depth, label, indent, backend, log, help]

/-- The long name. -/
def long : Opt → String
  | maxFrames => "max-frames"
  | skip => "skip"
  | depth => "depth"
  | label => "prefix"
  | indent => "indent"
  | backend => "backend"
  | log => "log"
  | help => "help"

/-- The short name. -/
def short? : Opt → Option Char
  | maxFrames => some 'm'
  | skip => some 's'
  | depth => some 'd'
  | help => some 'h'
  | _ => none

/-- What the value of an option is called. Some options have none. -/
def valueName? : Opt → Option String
  | maxFrames => some "MAX_FRAMES"
  | skip => some "SKIP"
  | depth => some "DEPTH"
  | label => some "PREFIX"
  | indent => some "INDENT"
  | log => some "FILTER"
  | backend => none
  | help => none

/-- How an option is shown. -/
def shown (option : Opt) : String :=
  match option.valueName? with
  | some name => "--" ++ option.long ++ " <" ++ name ++ ">"
  | none => "--" ++ option.long

/-- The option with a long name. -/
def ofLong? (name : List Char) : Option Opt := all.find? fun option => option.long.toList == name

/-- The option with a short name. -/
def ofShort? (name : Char) : Option Opt := all.find? fun option => option.short? == some name

end Opt

/-- What the arguments set. -/
structure Settings where
  /-- The greatest number of frames. -/
  maxFrames : Nat := 32
  /-- How many frames are left out. -/
  skip : Nat := 0
  /-- How many calls are nested before the capture. -/
  depth : Nat := 4
  /-- The text in front of every line. -/
  label : Option String := none
  /-- The text behind that. -/
  indent : String := ""
  /-- Whether the backend is shown. -/
  showsBackend : Bool := false
  /-- The log filter. -/
  log : Option String := none
  deriving DecidableEq, Repr

/-- What is wrong with arguments, or that help is wanted instead. -/
inductive Problem where
  /-- An argument that is no option. -/
  | unknown (shown : String)
  /-- An option without its value. -/
  | missingValue (option : Opt)
  /-- A value that is no number. -/
  | invalidNumber (option : Opt) (value : String) (fault : Numeral.Fault)
  /-- An option that was given before. -/
  | repeated (option : Opt)
  /-- A value for an option without values. -/
  | unneededValue (option : Opt) (value : String)
  /-- Help is wanted. -/
  | help
  deriving DecidableEq, Repr

namespace Problem

/-- The first line that describes a problem. There is none if help is wanted. -/
def message? : Problem → Option String
  | unknown shown => some ("unexpected argument '" ++ shown ++ "' found")
  | missingValue option =>
    some ("a value is required for '" ++ option.shown ++ "' but none was supplied")
  | invalidNumber option value fault =>
    some ("invalid value '" ++ value ++ "' for '" ++ option.shown ++ "': " ++ fault.message)
  | repeated option => some ("the argument '" ++ option.shown ++ "' cannot be used multiple times")
  | unneededValue option value =>
    some ("unexpected value '" ++ value ++ "' for '" ++ option.shown ++
      "' found; no more were expected")
  | help => none

end Problem

/-- The help text, line by line. -/
def helpLines : List String :=
  ["Capture this process's call stack and print it with symbol names",
   "",
   "Usage: framedump [OPTIONS]",
   "",
   "Options:",
   "  -m, --max-frames <MAX_FRAMES>  Maximum number of frames to capture " ++
     "(coerced to at least 1) [default: 32]",
   "  -s, --skip <SKIP>              Frames to hide at the caller end [default: 0]",
   "  -d, --depth <DEPTH>            Extra nested calls made before capturing [default: 4]",
   "      --prefix <PREFIX>          Text written in front of every line",
   "      --indent <INDENT>          Text written after the prefix on every line [default: \"\"]",
   "      --backend                  Print the active symbol backend before the trace",
   "      --log <FILTER>             Log filter used when RUST_LOG is unset (e.g. \"debug\")",
   "  -h, --help                     Print help",
   "",
   "EXAMPLES:",
   "    framedump                                Dump the stack of a shallow call chain",
   "    framedump --depth 20 --max-frames 8      Show the 8 innermost of 20+ frames",
   "    framedump --prefix '[leak] ' --indent '  '",
   "    RUST_LOG=debug framedump --backend       Show which symbol backend is active"]

/-- The help text. -/
def helpText : String := String.join (helpLines.map (· ++ "\n"))

/-- The state of reading arguments. -/
structure State where
  /-- What is set so far. -/
  settings : Settings := {}
  /-- The options that were given. -/
  given : List Opt := []
  /-- The option whose value has not been looked at yet, with its value if it has come. -/
  pending : Option (Opt × Option String) := none

namespace State

/-- A number as the value of an option. -/
def number (option : Opt) (value : String) : Except Problem Nat :=
  match Numeral.read 10 value.toList with
  | .ok n => .ok n
  | .error fault => .error (.invalidNumber option value fault)

/-- What an option with a value sets. -/
def set (settings : Settings) (option : Opt) (value : String) : Except Problem Settings := do
  match option with
  | .maxFrames => return { settings with maxFrames := ← number option value }
  | .skip => return { settings with skip := ← number option value }
  | .depth => return { settings with depth := ← number option value }
  | .label => return { settings with label := some value }
  | .indent => return { settings with indent := value }
  | .log => return { settings with log := some value }
  | .backend => return { settings with showsBackend := true }
  | .help => throw .help

variable (state : State)

/-- Take an option with its value. -/
def give (option : Opt) (value : String) : Except Problem State := do
  if option ∈ state.given then throw (.repeated option)
  return { state with
    settings := ← set state.settings option value, given := option :: state.given }

/-- Look at the pending value. -/
def resolve : Except Problem State := do
  let done := { state with pending := none }
  match state.pending with
  | none => return done
  | some (option, none) => throw (.missingValue option)
  | some (option, some value) => done.give option value

/-- Take an argument that is no option, which must be a wanted value. -/
def take (isOnlyText : Bool) (argument : String) : Except Problem State :=
  match state.pending with
  | some (option, none) =>
    if isOnlyText then .error (.unknown argument)
    else .ok { state with pending := some (option, some argument) }
  | _ => .error (.unknown argument)

/-- Begin an option, with the value that is attached to it. -/
def begin (option : Opt) (attached : Option String) : Except Problem State := do
  match option.valueName?, attached with
  | some _, none => return { ← state.resolve with pending := some (option, none) }
  | some _, some value => (← state.resolve).give option value
  | none, none => (← state.resolve).give option ""
  | none, some value => throw (.unneededValue option value)

/-- The text behind an equals sign at the front, or the whole text. -/
def withoutEquals : List Char → List Char
  | '=' :: rest => rest
  | text => text

/-- Take short options that share a dash. -/
def takeShort (state : State) : List Char → Except Problem State
  | [] => .ok state
  | c :: rest =>
    match Opt.ofShort? c with
    | none => .error (.unknown (String.ofList ['-', c]))
    | some option =>
      if option.valueName?.isSome then
        state.begin option
          (if rest.isEmpty then none else some (String.ofList (withoutEquals rest)))
      else do
        takeShort (← state.begin option none) rest

/-- Take a long option. -/
def takeLong (text : List Char) : Except Problem State :=
  let name := text.takeWhile (· != '=')
  let attached := (text.drop name.length).tail?.map String.ofList
  match Opt.ofLong? name with
  | none => .error (.unknown (String.ofList ('-' :: '-' :: name)))
  | some option => state.begin option attached

/-- Take all arguments. Behind a lone `--` they are only texts. -/
def takeAll (isOnlyText : Bool) (state : State) : List String → Except Problem State
  | [] => state.resolve
  | argument :: rest =>
    if isOnlyText then do
      takeAll true (← state.take true argument) rest
    else
      match argument.toList with
      | ['-', '-'] => takeAll true state rest
      | '-' :: '-' :: text => do
        takeAll false (← state.takeLong text) rest
      | '-' :: c :: text => do
        takeAll false (← state.takeShort (c :: text)) rest
      | _ => do
        takeAll false (← state.take false argument) rest

end State

/-- What the arguments set, or the first problem with them. -/
def parse (arguments : List String) : Except Problem Settings := do
  return (← State.takeAll false {} arguments).settings

end Callstack.Cli
