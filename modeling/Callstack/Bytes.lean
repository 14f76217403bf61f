/-!
# Numbers in bytes

Taking bytes off a sequence, and the numbers that they stand for in either order.

## Main definitions

* `Bytes.number` — the number that bytes stand for
* `Bytes.take?`, `Bytes.slice?`, `Bytes.fields?` — parts of a sequence, if it is long enough
-/

namespace Callstack

/-- Which byte of a number comes first. -/
inductive ByteOrder where
  /-- The least significant one. -/
  | little
  /-- The most significant one. -/
  | big
  deriving DecidableEq, Repr

namespace Bytes

/-- The number that bytes stand for. -/
def number (order : ByteOrder) (bytes : List UInt8) : Nat :=
  match order with
  | .little => bytes.foldr (fun b n => b.toNat + 256 * n) 0
  | .big => bytes.foldl (fun n b => 256 * n + b.toNat) 0

/-- The first `n` bytes and the rest, if there are that many. -/
def take? : Nat → List UInt8 → Option (List UInt8 × List UInt8)
  | 0, bytes => some ([], bytes)
  | _ + 1, [] => none
  | n + 1, b :: bytes => (take? n bytes).map fun (front, rest) => (b :: front, rest)

/-- What follows the first `n` bytes, if there are that many. -/
def skip? : Nat → List UInt8 → Option (List UInt8)
  | 0, bytes => some bytes
  | _ + 1, [] => none
  | n + 1, _ :: bytes => skip? n bytes

/-- The `size` bytes from an offset on, if they are all there. -/
def slice? (offset size : Nat) (bytes : List UInt8) : Option (List UInt8) := do
  return (← take? size (← skip? offset bytes)).1

/-- The bytes before the first zero byte and those behind it, if there is one. -/
def untilZero? : List UInt8 → Option (List UInt8 × List UInt8)
  | [] => none
  | b :: rest =>
    if b = 0 then some ([], rest)
    else (untilZero? rest).map fun (front, rest) => (b :: front, rest)

/-- How many bytes numbers of the given sizes take. -/
def total (sizes : List Nat) : Nat := sizes.foldr (fun size n => size + n) 0

/-- Numbers of the given sizes that stand one after the other, and the rest. -/
def fields? (order : ByteOrder) : List Nat → List UInt8 → Option (List Nat × List UInt8)
  | [], bytes => some ([], bytes)
  | size :: sizes, bytes => do
    let (front, bytes) ← take? size bytes
    let (values, bytes) ← fields? order sizes bytes
    return (number order front :: values, bytes)

end Bytes

end Callstack
