import Callstack.Debug.Ranges

/-!
# Line programs

A unit may have a program that assigns source lines to addresses. What matters here is which
addresses it speaks about: it consists of sequences, each of which covers the addresses from its
first row up to its end.

## Main definitions

* `Debug.LineProgram`, `Debug.LineProgram.read` — a program with the files that it mentions
* `Debug.LineProgram.sequences` — the addresses that its sequences cover
-/

namespace Callstack.Debug

/-- A file that a line program mentions. -/
structure LineFile where
  /-- Its name. -/
  path : Value
  /-- The index of its directory. -/
  directory : Nat

/-- A line program. -/
structure LineProgram where
  /-- How its addresses and offsets are encoded. -/
  encoding : Encoding
  /-- The size of the shortest instruction. -/
  instructionSize : Nat
  /-- How many operations an instruction has. -/
  operations : Nat
  /-- How many line steps the special opcodes distinguish. -/
  lineRange : Nat
  /-- The first special opcode. -/
  opcodeBase : Nat
  /-- How many operands the opcodes before have. -/
  operandCounts : List UInt8
  /-- The directories. -/
  directories : List Value
  /-- The files. -/
  files : List LineFile
  /-- The opcodes. -/
  code : List UInt8

namespace LineProgram

/-- The forms that values in the header may have. -/
def forms : List Nat :=
  [0x03, 0x04, 0x05, 0x06, 0x07, 0x08, 0x09, 0x0a, 0x0b, 0x0c, 0x0d, 0x0e, 0x0f, 0x17, 0x1a, 0x1d,
   0x1e, 0x1f, 0x25, 0x26, 0x27, 0x28, 0x1f02, 0x1f21]

/-- The content that is a path. -/
def pathContent : Nat := 1

/-- The content that is the index of a directory. -/
def directoryContent : Nat := 2

/-- How entries of a table are written: contents with their forms. Exactly one is a path. -/
def readFormat : Reader (List Spec) := do
  let count ← Reader.byte
  let specs ← (List.range count).mapM fun _ => do
    let content ← Reader.unsigned
    return Spec.mk content (← Reader.short) none
  if specs.countP (fun spec => spec.name == pathContent) ≠ 1 then throw .lineProgram
  return specs

/-- The next entry of a table. -/
def readEntry (encoding : Encoding) (specs : List Spec) : Reader LineFile := do
  let values ← specs.mapM fun spec => do
    if spec.form ∈ forms then
      return (spec.name, (← Spec.read encoding { spec with name := 0 }).value)
    throw .form
  let valueOf (content : Nat) := (values.reverse.find? fun entry => entry.1 == content).map Prod.snd
  let directory := ((values.filterMap fun (content, value) =>
    if content = directoryContent then value.number? else none).getLast?).getD 0
  return ⟨(valueOf pathContent).getD .other, directory⟩

/-- The next entries of a table. -/
def readEntries (encoding : Encoding) (specs : List Spec) : Nat → Nat → Reader (List LineFile)
  | _, 0 => return []
  | 0, _ => throw .endOfInput
  | fuel + 1, count + 1 => do
    let entry ← readEntry encoding specs
    return entry :: (← readEntries encoding specs fuel count)

/-- The next table of entries. -/
def readTable (encoding : Encoding) : Reader (List LineFile) := do
  let specs ← readFormat
  let count ← Reader.unsigned
  readEntries encoding specs ((← get).length + 1) count

/-- The next directories, up to an empty one. -/
def readOldDirectories : Nat → Reader (List Value)
  | 0 => throw .endOfInput
  | fuel + 1 => do
    let path ← Reader.text
    if path.isEmpty then return []
    return .text path :: (← readOldDirectories fuel)

/-- What follows the path of a file: its directory, its time and its size. -/
def readOldFile (path : List UInt8) : Reader LineFile := do
  let directory ← Reader.unsigned
  let _ ← Reader.unsigned
  let _ ← Reader.unsigned
  return ⟨.text path, directory⟩

/-- The next files, up to an empty one. -/
def readOldFiles : Nat → Reader (List LineFile)
  | 0 => throw .endOfInput
  | fuel + 1 => do
    let path ← Reader.text
    if path.isEmpty then return []
    let file ← readOldFile path
    return file :: (← readOldFiles fuel)

/-- A number that must not be zero. -/
def positive : Reader Nat := do
  let n ← Reader.byte
  if n = 0 then throw .lineProgram
  return n

/-- The program at the front. `addressSize` counts unless the program has its own. -/
def readNext (order : ByteOrder) (addressSize : Nat) : Reader LineProgram := do
  let (length, offsetSize) ← Reader.initialLength order
  let body ← Reader.bytes length
  Reader.runOn body do
    let version ← Reader.number order 2
    if version < 2 ∨ 5 < version then throw .unknownVersion
    let addressSize ←
      if 5 ≤ version then
        let size ← Reader.addressSize
        if (← Reader.byte) ≠ 0 then throw .segmentSize
        pure size
      else pure addressSize
    let encoding : Encoding := ⟨order, version, addressSize, offsetSize⟩
    let header ← Reader.bytes (← Reader.offset encoding)
    let code ← get
    Reader.runOn header do
      let instructionSize ← positive
      let operations ← if 4 ≤ version then positive else pure 1
      Reader.skip 2
      let lineRange ← positive
      let opcodeBase ← positive
      let operandCounts ← Reader.bytes (opcodeBase - 1)
      let rest := (← get).length + 1
      let (directories, files) ←
        if version ≤ 4 then
          let directories ← readOldDirectories rest
          pure (directories, ← readOldFiles rest)
        else
          let directories ← readTable encoding
          pure (directories.map LineFile.path, ← readTable encoding)
      return { encoding, instructionSize, operations, lineRange, opcodeBase, operandCounts,
               directories, files, code }

/-- The program at a position. -/
def read (sections : Sections) (position addressSize : Nat) : Except Fault LineProgram :=
  Reader.runAt sections.lines position (readNext sections.order addressSize)

variable (program : LineProgram)

/-- The state of a running program. -/
structure State where
  /-- The present address. -/
  address : Nat := 0
  /-- The operation within the instruction. -/
  operation : Nat := 0
  /-- Whether the present code was removed. -/
  isRemoved : Bool := false
  /-- The address of the first row of the present sequence. -/
  first : Option Nat := none
  /-- The addresses that the finished sequences cover. -/
  done : List Extent := []
  /-- The files that the program itself has added. -/
  files : List LineFile := []

/-- Go on by a number of operations. -/
def advance (state : State) (count : Nat) : Except Fault State :=
  if state.isRemoved then .ok state
  else
    let total := if program.operations = 1 then count else state.operation + count
    let address := state.address + program.instructionSize * (total / program.operations)
    if program.encoding.addressLimit ≤ address then .error .addressOverflow
    else .ok { state with address := address, operation := total % program.operations }

/-- A row at the present address. -/
def row (state : State) : State :=
  if state.isRemoved then state
  else { state with first := some (state.first.getD state.address) }

/-- The end of a sequence. One without rows covers nothing. -/
def finish (state : State) : State :=
  let done := match state.first with
    | some start => if state.isRemoved then state.done else ⟨start, state.address⟩ :: state.done
    | none => state.done
  { files := state.files, done := done, first := if state.isRemoved then state.first else none }

/-- A new present address. Going back means that the code was removed. -/
def moveTo (state : State) (address : Nat) : State :=
  -- The addresses of a sequence never decrease.
  if address < state.address ∨ address = program.encoding.addressLimit - 1 then
    { state with isRemoved := true }
  else { state with address := address, operation := 0, isRemoved := false }

/-- An extended opcode, from its number on. -/
def stepExtended (state : State) : Reader State := do
  match ← Reader.byte with
  | 1 => return finish state
  | 2 => return program.moveTo state (← Reader.address program.encoding)
  | 3 =>
    if program.encoding.version ≤ 4 then
      let file ← readOldFile (← Reader.text)
      return { state with files := state.files ++ [file] }
    return state
  | 4 =>
    let _ ← Reader.unsigned
    return state
  | _ => return state

/-- One opcode with its operands. -/
def step (state : State) : Reader State := do
  let opcode ← Reader.byte
  if opcode = 0 then
    let body ← Reader.bytes (← Reader.unsigned)
    Reader.runOn body (program.stepExtended state)
  else if program.opcodeBase ≤ opcode then
    return row (← program.advance state ((opcode - program.opcodeBase) / program.lineRange))
  else
    match opcode with
    | 1 => return row state
    | 2 => program.advance state (← Reader.unsigned)
    | 3 =>
      let _ ← Reader.signed
      return state
    | 4 | 5 | 12 =>
      let _ ← Reader.unsigned
      return state
    | 6 | 7 | 10 | 11 => return state
    | 8 => program.advance state ((255 - program.opcodeBase) / program.lineRange)
    | 9 =>
      let size ← Reader.number program.encoding.order 2
      if state.isRemoved then return state
      if program.encoding.addressLimit ≤ state.address + size then throw .addressOverflow
      return { state with address := state.address + size, operation := 0 }
    | _ =>
      let count := ((program.operandCounts[opcode - 1]?).map UInt8.toNat).getD 0
      let _ ← (List.range count).mapM fun _ => Reader.unsigned
      return state

/-- Run the rest of a program. -/
def runFrom : Nat → State → Reader State
  | 0, state => return state
  | fuel + 1, state => do
    if ← Reader.isAtEnd then return state
    runFrom fuel (← program.step state)

/-- Read the texts that a file consists of. -/
def checkFile (sections : Sections) (unit : CompileUnit) (file : LineFile) :
    Except Fault Unit := do
  let directory? :=
    if program.encoding.version ≤ 4 then program.directories[file.directory - 1]?
    else program.directories[file.directory]?
  if file.directory ≠ 0 then
    match directory? with
    | some directory => discard (unit.text sections directory)
    | none => pure ()
  discard (unit.text sections file.path)

/-- The addresses that the sequences cover, by their first ones. The texts of all files must be
readable. -/
def sequences (sections : Sections) (unit : CompileUnit) : Except Fault (List Extent) := do
  let state ← Reader.runOn program.code (program.runFrom (program.code.length + 1) {})
  (program.files ++ state.files).forM (program.checkFile sections unit)
  return state.done.reverse.mergeSort fun a b => a.start ≤ b.start

end LineProgram

end Callstack.Debug
