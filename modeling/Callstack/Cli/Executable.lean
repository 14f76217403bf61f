import Callstack.Elf.Header

/-!
# The modelled executable

The executable that the command is taken to be: an object file with one segment, a symbol table
with the functions of the command, and the sections that this needs, among others without meaning.

## Main definitions

* `Cli.Executable.descend`, `Cli.Executable.callers` — its functions
* `Cli.Executable.bytes` — the whole file
-/

namespace Callstack.Cli

namespace Executable

/-- A function of the modelled executable. -/
structure Function where
  /-- The name that the linker uses. -/
  name : String
  /-- Where it begins. -/
  value : Nat

/-- The size of every function. -/
def functionSize : Nat := 256

/-- The function that nests the calls. -/
def descend : Function := ⟨"_ZN9framedump7descend17h8f14e45fceea167aE", 0x1000⟩

/-- The functions around it, the inner one first. -/
def callers : List Function :=
  [⟨"_ZN9framedump3run17hc9f0f895fb98ab91E", 0x1100⟩,
   ⟨"_ZN9framedump4main17h45c48cce2e2d7fbdE", 0x1200⟩]

/-- All functions with names. -/
def functions : List Function := descend :: callers

/-- A number in so many bytes, the least significant one first. -/
def number : Nat → Nat → List UInt8
  | 0, _ => []
  | size + 1, n => UInt8.ofNat (n % 256) :: number size (n / 256)

/-- Texts with a zero byte behind each, behind the empty text. -/
def texts (items : List String) : List UInt8 :=
  0 :: items.flatMap fun item => item.toUTF8.toList ++ [0]

/-- Where the text with an index begins among such texts. -/
def textPosition (items : List String) (index : Nat) : Nat :=
  (texts (items.take index)).length

/-- The names of functions. -/
def functionNames : List UInt8 := texts (functions.map Function.name)

/-- The names of the sections that have one. -/
def sectionTexts : List String := [".strtab", ".symtab", ".shstrtab"]

/-- The names of sections. -/
def sectionNames : List UInt8 := texts sectionTexts

/-- The entries of the symbol table, behind the empty one. -/
def symbols : List UInt8 :=
  List.replicate 24 0 ++ functions.zipIdx.flatMap fun (function, index) =>
    number 4 (textPosition (functions.map Function.name) index) ++ [0x12, 0] ++ number 2 4 ++
      number 8 function.value ++ number 8 functionSize

/-- Where the bytes of sections begin. -/
def contentPosition : Nat := 64 + 56

/-- The bytes of sections. -/
def content : List UInt8 := functionNames ++ symbols ++ sectionNames

/-- The entry of a section in the table of sections. -/
def sectionEntry (name type offset size link entrySize : Nat) : List UInt8 :=
  number 4 name ++ number 4 type ++ number 8 0 ++ number 8 0 ++ number 8 offset ++ number 8 size ++
    number 4 link ++ number 4 0 ++ number 8 1 ++ number 8 entrySize

/-- How many sections there are that play no role here. -/
def otherSections : Nat := 36

/-- The table of sections. -/
def sectionTable : List UInt8 :=
  let names := contentPosition
  let table := names + functionNames.length
  let sections := table + symbols.length
  List.replicate 64 0 ++
    (List.replicate otherSections (sectionEntry 0 1 contentPosition 0 0 0)).flatten ++
    sectionEntry (textPosition sectionTexts 0) 3 names functionNames.length 0 0 ++
    sectionEntry (textPosition sectionTexts 1) 2 table symbols.length (otherSections + 1) 24 ++
    sectionEntry (textPosition sectionTexts 2) 3 sections sectionNames.length 0 0

/-- How many bytes of memory the executable takes. -/
def extent : Nat := 0x2000

/-- The header of the executable. -/
def header : List UInt8 :=
  [0x7f, 0x45, 0x4c, 0x46, 2, 1, 1] ++ List.replicate 9 0 ++ number 2 3 ++ number 2 62 ++
    number 4 1 ++ number 8 0x1000 ++ number 8 64 ++ number 8 (contentPosition + content.length) ++
    number 4 0 ++ number 2 64 ++ number 2 56 ++ number 2 1 ++ number 2 64 ++
    number 2 (otherSections + 4) ++ number 2 (otherSections + 3)

/-- The segment that holds the whole executable. -/
def segment : List UInt8 :=
  number 4 1 ++ number 4 5 ++ number 8 0 ++ number 8 0 ++ number 8 0 ++ number 8 extent ++
    number 8 extent ++ number 8 4096

/-- The bytes of the executable. -/
def bytes : List UInt8 := header ++ segment ++ content ++ sectionTable

/-- Where the executable is mapped. -/
def base : Nat := 0x555555554000

end Executable

end Callstack.Cli
