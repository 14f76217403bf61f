/-!
# Compressed data

Data in the zlib format: two bytes of header, blocks of compressed data, and a checksum. A block
holds bytes as they are, or symbols in a prefix code: a byte, the end of the block, or a reference
to earlier data by length and distance. Bits are read from the low end of each byte.

A reader that has room for only so many bytes stops as soon as it would need more; what follows
need not be well-formed then.

## Main definitions

* `Inflate.Code` — prefix codes, given by the lengths of their words
* `Inflate.blocks` — the data of all blocks
* `Inflate.zlib?` — the data of a whole stream, up to a limit
-/

namespace Callstack.Inflate

/-- The bits of a byte, the low end first. -/
def bitsOfByte (b : UInt8) : List Bool :=
  (List.range 8).map fun i => b.toNat.testBit i

/-- The bits of bytes. -/
def bitsOf (bytes : List UInt8) : List Bool := bytes.flatMap bitsOfByte

/-- A number of `n` bits, the low end first, and what follows. -/
def number? : Nat → List Bool → Option (Nat × List Bool)
  | 0, bits => some (0, bits)
  | _ + 1, [] => none
  | n + 1, bit :: bits => (number? n bits).map fun (high, rest) => (bit.toNat + 2 * high, rest)

/-- A prefix code. Words of one length are numbered upwards in the order of their symbols, and
shorter words come before longer ones. -/
structure Code where
  /-- How many words there are of the lengths 1, 2, … -/
  counts : List Nat
  /-- The symbols in the order of their words. -/
  symbols : Array Nat
  deriving Repr

namespace Code

/-- The greatest length of a word. -/
def maxLength : Nat := 15

/-- The code in which symbol `i` has a word of length `lengths[i]`, or none if that is zero. -/
def ofLengths (lengths : List Nat) : Code where
  counts := (List.range' 1 maxLength).map lengths.count
  symbols := ((List.range' 1 maxLength).flatMap fun length =>
    (lengths.zipIdx.filter fun entry => entry.1 == length).map Prod.snd).toArray

/-- How many words of length `maxLength + 1` the words leave no room for. -/
def weight (code : Code) : Nat :=
  code.counts.foldl (fun total count => 2 * (total + count)) 0

/-- Whether every sequence of bits begins with a word, or there is at most one word. -/
def isComplete (code : Code) : Bool :=
  code.weight == 1 <<< (maxLength + 1) || code.symbols.size ≤ 1

/-- The place of the word that the bits begin with. `word` are the bits so far as a number, `first`
is the first word of the present length and `index` its place. -/
def find? : List Nat → Nat → Nat → Nat → List Bool → Option (Nat × List Bool)
  | [], _, _, _, _ => none
  | _ :: _, _, _, _, [] => none
  | count :: counts, word, first, index, bit :: bits =>
    let word := 2 * word + bit.toNat
    let first := 2 * first
    if word < first + count then some (index + (word - first), bits)
    else find? counts word (first + count) (index + count) bits

/-- The symbol whose word the bits begin with, and what follows. -/
def symbol? (code : Code) (bits : List Bool) : Option (Nat × List Bool) := do
  let (index, bits) ← find? code.counts 0 0 0 bits
  return (← code.symbols[index]?, bits)

end Code

/-- The two codes of a block: that of bytes, ends and lengths, and that of distances. -/
structure Codes where
  /-- Bytes, the end of the block, and lengths. -/
  literals : Code
  /-- Distances. -/
  distances : Code

/-- The codes of blocks that bring none of their own. -/
def Codes.fixed : Codes where
  literals := Code.ofLengths
    (List.replicate 144 8 ++ List.replicate 112 9 ++ List.replicate 24 7 ++ List.replicate 8 8)
  distances := Code.ofLengths (List.replicate 32 5)

/-- The order in which the lengths of the words for lengths are given. -/
def lengthOrder : List Nat := [16, 17, 18, 0, 8, 7, 9, 6, 10, 5, 11, 4, 12, 3, 13, 2, 14, 1, 15]

/-- The given number of 3-bit lengths. -/
def shortLengths? : Nat → List Bool → Option (List Nat × List Bool)
  | 0, bits => some ([], bits)
  | n + 1, bits => do
    let (length, bits) ← number? 3 bits
    let (lengths, bits) ← shortLengths? n bits
    return (length :: lengths, bits)

/-- Lengths of words until there are `total` of them. Some symbols repeat the length before, or
zero. The lengths so far are given back to front. -/
def lengths? (code : Code) (total : Nat) :
    Nat → List Nat → List Bool → Option (List Nat × List Bool)
  | 0, _, _ => none
  | fuel + 1, done, bits =>
    if done.length = total then some (done.reverse, bits)
    else if total < done.length then none
    else do
      let (symbol, bits) ← code.symbol? bits
      if symbol < 16 then lengths? code total fuel (symbol :: done) bits
      else if symbol = 16 then
        let last ← done.head?
        let (more, bits) ← number? 2 bits
        lengths? code total fuel (List.replicate (3 + more) last ++ done) bits
      else if symbol = 17 then
        let (more, bits) ← number? 3 bits
        lengths? code total fuel (List.replicate (3 + more) 0 ++ done) bits
      else
        let (more, bits) ← number? 7 bits
        lengths? code total fuel (List.replicate (11 + more) 0 ++ done) bits

/-- The codes that a block brings along. -/
def Codes.read? (bits : List Bool) : Option (Codes × List Bool) := do
  let (literals, bits) ← number? 5 bits
  let (distances, bits) ← number? 5 bits
  let (count, bits) ← number? 4 bits
  let literals := literals + 257
  let distances := distances + 1
  if 286 < literals ∨ 30 < distances then none
  else
    let (short, bits) ← shortLengths? (count + 4) bits
    let given := lengthOrder.zip short
    let code := Code.ofLengths <| (List.range 19).map fun symbol =>
      ((given.find? fun entry => entry.1 == symbol).map Prod.snd).getD 0
    if !code.isComplete then none
    else
      let total := literals + distances
      let (lengths, bits) ← lengths? code total (total + 1) [] bits
      let codes := Codes.mk (Code.ofLengths (lengths.take literals))
        (Code.ofLengths (lengths.drop literals))
      if codes.literals.isComplete && codes.distances.isComplete then some (codes, bits) else none

/-- The least lengths of references, with the number of bits that are added to each. -/
def lengthBases : List (Nat × Nat) :=
  [(3, 0), (4, 0), (5, 0), (6, 0), (7, 0), (8, 0), (9, 0), (10, 0), (11, 1), (13, 1), (15, 1),
   (17, 1), (19, 2), (23, 2), (27, 2), (31, 2), (35, 3), (43, 3), (51, 3), (59, 3), (67, 4),
   (83, 4), (99, 4), (115, 4), (131, 5), (163, 5), (195, 5), (227, 5), (258, 0)]

/-- The least distances of references, with the number of bits that are added to each. -/
def distanceBases : List (Nat × Nat) :=
  [(1, 0), (2, 0), (3, 0), (4, 0), (5, 1), (7, 1), (9, 2), (13, 2), (17, 3), (25, 3), (33, 4),
   (49, 4), (65, 5), (97, 5), (129, 6), (193, 6), (257, 7), (385, 7), (513, 8), (769, 8),
   (1025, 9), (1537, 9), (2049, 10), (3073, 10), (4097, 11), (6145, 11), (8193, 12), (12289, 12),
   (16385, 13), (24577, 13)]

/-- A base with its added bits. -/
def based? (bases : List (Nat × Nat)) (symbol : Nat) (bits : List Bool) :
    Option (Nat × List Bool) := do
  let (base, extra) ← bases[symbol]?
  let (more, bits) ← number? extra bits
  return (base + more, bits)

/-- How reading ends. -/
inductive Outcome where
  /-- The data is complete and this follows. -/
  | finished (data : Array UInt8) (rest : List Bool)
  /-- There is no room for more. -/
  | full (data : Array UInt8)
  /-- The data is broken. -/
  | broken

/-- Append earlier data again, byte by byte, as far as there is room. The answer says whether all
of it was appended. -/
def repeatData (limit distance : Nat) : Nat → Array UInt8 → Array UInt8 × Bool
  | 0, data => (data, true)
  | n + 1, data =>
    if data.size < limit then
      repeatData limit distance n (data.push (data.getD (data.size - distance) 0))
    else (data, false)

/-- The symbols of a block. -/
def symbols (limit : Nat) (codes : Codes) : Nat → Array UInt8 → List Bool → Outcome
  | 0, _, _ => .broken
  | fuel + 1, data, bits =>
    match codes.literals.symbol? bits with
    | none => .broken
    | some (symbol, bits) =>
      if symbol < 256 then
        if data.size < limit then symbols limit codes fuel (data.push (UInt8.ofNat symbol)) bits
        else .full data
      else if symbol = 256 then .finished data bits
      else
        let reference := do
          let (length, bits) ← based? lengthBases (symbol - 257) bits
          let (symbol, bits) ← codes.distances.symbol? bits
          let (distance, bits) ← based? distanceBases symbol bits
          return (length, distance, bits)
        match reference with
        | none => .broken
        | some (length, distance, bits) =>
          if data.size < distance then .broken
          else
            let (data, isWhole) := repeatData limit distance length data
            if isWhole then symbols limit codes fuel data bits else .full data

/-- Append bytes that stand as they are. -/
def copy (limit : Nat) : Nat → Array UInt8 → List Bool → Outcome
  | 0, data, bits => .finished data bits
  | n + 1, data, bits =>
    if data.size < limit then
      match number? 8 bits with
      | some (b, bits) => copy limit n (data.push (UInt8.ofNat b)) bits
      | none => .broken
    else .full data

/-- The bits from the next byte boundary on. -/
def aligned (bits : List Bool) : List Bool := bits.drop (bits.length % 8)

/-- The data of a block whose kind is known. -/
def block (limit kind : Nat) (data : Array UInt8) (bits : List Bool) : Outcome :=
  if kind = 0 then
    let header := do
      let (length, bits) ← number? 16 (aligned bits)
      let (complement, bits) ← number? 16 bits
      if length + complement = 0xffff then some (length, bits) else none
    match header with
    | some (length, bits) => copy limit length data bits
    | none => .broken
  else if kind = 1 then symbols limit .fixed (bits.length + 1) data bits
  else if kind = 2 then
    match Codes.read? bits with
    | some (codes, bits) => symbols limit codes (bits.length + 1) data bits
    | none => .broken
  else .broken

/-- The data of all blocks up to the last one. -/
def blocks (limit : Nat) : Nat → Array UInt8 → List Bool → Outcome
  | 0, _, _ => .broken
  | fuel + 1, data, bits =>
    match number? 3 bits with
    | none => .broken
    | some (mark, bits) =>
      match block limit (mark / 2) data bits with
      | .finished data bits =>
        if mark % 2 = 1 then .finished data bits else blocks limit fuel data bits
      | outcome => outcome

/-- The checksum of data: two sums modulo a prime, of the bytes and of the first sum. -/
def checksum (data : List UInt8) : Nat :=
  let (a, b) := data.foldl (fun (a, b) byte =>
    let a := (a + byte.toNat) % 65521
    (a, (b + a) % 65521)) (1, 0)
  b * 65536 + a

/-- Whether the two bytes of a header announce compressed data without a dictionary. -/
def isHeader (method flags : UInt8) : Bool :=
  method.toNat % 16 == 8 && method.toNat / 16 ≤ 7 && !flags.toNat.testBit 5 &&
    (method.toNat * 256 + flags.toNat) % 31 == 0

/-- The first `limit` bytes of the data of a stream, or all of it if it is shorter. -/
def zlib? (limit : Nat) : List UInt8 → Option (List UInt8)
  | method :: flags :: bytes =>
    if isHeader method flags then
      let bits := bitsOf bytes
      match blocks limit (bits.length + 1) #[] bits with
      | .full data => some data.toList
      | .broken => none
      | .finished data rest =>
        match number? 32 (aligned rest) with
        | none => none
        | some (sum, _) =>
          let bytes := [sum % 256, sum / 256 % 256, sum / 65536 % 256, sum / 16777216]
          if bytes.foldl (fun n b => n * 256 + b) 0 = checksum data.toList then some data.toList
          else none
    else none
  | _ => none

end Callstack.Inflate
