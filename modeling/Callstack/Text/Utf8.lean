/-!
# UTF-8

Writing text as bytes, and reading bytes as text, where every ill-formed part becomes one
replacement character: the part is the longest beginning of a character that the bytes still allow,
or a single byte. Also cutting a text at a byte offset, which is only possible between two
characters.

## Main definitions

* `Utf8.encode` — the bytes of a text
* `Utf8.decode` — the characters of a byte sequence, with the ill-formed parts marked
* `Utf8.lossy` — the text, with a replacement character for each ill-formed part
* `Utf8.strict?` — the text, if no part is ill-formed
* `Utf8.splitAt?`, `Utf8.slice?`, `Utf8.fit` — cutting by byte offsets
-/

namespace Callstack.Utf8

/-- The bytes of a text. -/
def encode (text : List Char) : List UInt8 :=
  text.flatMap String.utf8EncodeChar

/-- What the first byte of a character announces: how many bytes follow it, and the range of the
second byte. `none` for a byte that starts no character. -/
def lead? (b : UInt8) : Option (Nat × UInt8 × UInt8) :=
  if 0xc2 ≤ b ∧ b ≤ 0xdf then some (1, 0x80, 0xbf)
  else if b = 0xe0 then some (2, 0xa0, 0xbf)
  else if b = 0xed then some (2, 0x80, 0x9f)
  else if 0xe1 ≤ b ∧ b ≤ 0xef then some (2, 0x80, 0xbf)
  else if b = 0xf0 then some (3, 0x90, 0xbf)
  else if 0xf1 ≤ b ∧ b ≤ 0xf3 then some (3, 0x80, 0xbf)
  else if b = 0xf4 then some (3, 0x80, 0x8f)
  else none

/-- Whether a byte continues a character. -/
def isContinuation (b : UInt8) : Bool :=
  0x80 ≤ b && b ≤ 0xbf

/-- The six payload bits of a continuation byte. -/
def payload (b : UInt8) : Nat :=
  b.toNat % 64

/-- The character that begins with byte `b`, and how many of the following bytes belong to it. An
ill-formed part has no character. -/
def first (b : UInt8) (rest : List UInt8) : Option Char × Nat :=
  if b < 0x80 then (some (Char.ofNat b.toNat), 0)
  else
    match lead? b, rest with
    | some (extra, low, high), c :: rest =>
      if low ≤ c ∧ c ≤ high then
        if extra = 1 then (some (Char.ofNat (b.toNat % 32 * 64 + payload c)), 1)
        else
          match rest with
          | d :: rest =>
            if isContinuation d then
              if extra = 2 then
                (some (Char.ofNat ((b.toNat % 16 * 64 + payload c) * 64 + payload d)), 2)
              else
                match rest with
                | e :: _ =>
                  if isContinuation e then
                    (some (Char.ofNat
                      (((b.toNat % 8 * 64 + payload c) * 64 + payload d) * 64 + payload e)), 3)
                  else (none, 2)
                | [] => (none, 2)
            else (none, 1)
          | [] => (none, 1)
      else (none, 0)
    | _, _ => (none, 0)

/-- The characters of a byte sequence; an ill-formed part is `none`. -/
def decode : List UInt8 → List (Option Char)
  | [] => []
  | b :: rest => (first b rest).1 :: decode (rest.drop (first b rest).2)
termination_by bytes => bytes.length
decreasing_by simp only [List.length_drop, List.length_cons]; omega

/-- The character that stands for an ill-formed part. -/
def replacement : Char := '\uFFFD'

/-- The text of a byte sequence, with a replacement character for each ill-formed part. -/
def lossy (bytes : List UInt8) : String :=
  String.ofList ((decode bytes).map fun c => c.getD replacement)

/-- The text of a byte sequence, unless some part of it is ill-formed. -/
def strict? (bytes : List UInt8) : Option String :=
  (decode bytes).mapM id |>.map String.ofList

/-- The number of bytes that a text takes. -/
def size (text : List Char) : Nat :=
  text.foldr (fun c n => c.utf8Size + n) 0

/-- The parts of a text before and after a byte offset, unless the offset is past the end or inside
a character. -/
def splitAt? : Nat → List Char → Option (List Char × List Char)
  | 0, text => some ([], text)
  | _ + 1, [] => none
  | offset + 1, c :: rest =>
    if c.utf8Size ≤ offset + 1 then
      (splitAt? (offset + 1 - c.utf8Size) rest).map fun (before, after) => (c :: before, after)
    else none

/-- The part of a text from byte `start` up to byte `stop`, if both are character boundaries in
this order. -/
def slice? (start stop : Nat) (text : List Char) : Option (List Char) :=
  if start ≤ stop then
    match splitAt? start text with
    | some (_, rest) => (splitAt? (stop - start) rest).map Prod.fst
    | none => none
  else none

/-- The longest beginning of whole characters that takes at most `room` bytes. -/
def fit (room : Nat) : List Char → List Char
  | [] => []
  | c :: rest => if c.utf8Size ≤ room then c :: fit (room - c.utf8Size) rest else []

/-- A text is encoded in as many bytes as it takes. -/
theorem length_encode (text : List Char) : (encode text).length = size text := by
  induction text with
  | nil => rfl
  | cons c text ih => simp_all [encode, size]

@[simp] theorem size_nil : size [] = 0 := rfl

@[simp] theorem size_cons (c : Char) (text : List Char) :
    size (c :: text) = c.utf8Size + size text := rfl

@[simp] theorem size_append (a b : List Char) : size (a ++ b) = size a + size b := by
  induction a with
  | nil => simp
  | cons c a ih => rw [List.cons_append, size_cons, size_cons, ih, Nat.add_assoc]

theorem splitAt?_size (a b : List Char) : splitAt? (size a) (a ++ b) = some (a, b) := by
  induction a with
  | nil => simp [splitAt?]
  | cons c a ih =>
    have pos := c.utf8Size_pos
    obtain ⟨n, hn⟩ : ∃ n, size (c :: a) = n + 1 := ⟨size (c :: a) - 1, by simp; omega⟩
    rw [hn, List.cons_append, splitAt?, ← hn]
    have sub : size (c :: a) - c.utf8Size = size a := by simp
    simp [ih]

/-- The part between two known pieces of text is found at their byte offsets. -/
theorem slice?_append (a b c : List Char) :
    slice? (size a) (size a + size b) (a ++ (b ++ c)) = some b := by
  simp [slice?, splitAt?_size]

end Callstack.Utf8
