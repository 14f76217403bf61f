/-!
# Mapped images

Where an executable file lies in the memory of a process: the extent from its lowest to its highest
address, and the base, which is where the beginning of the file is mapped.
-/

namespace Callstack

/-- The addresses from `start` up to, but not including, `stop`. -/
structure Extent where
  /-- The first address. -/
  start : Nat
  /-- The first address behind. -/
  stop : Nat
  deriving DecidableEq, Repr

/-- Whether an address lies in an extent. -/
def Extent.contains (extent : Extent) (address : Nat) : Bool :=
  extent.start ≤ address && address < extent.stop

/-- Where a file is mapped. -/
structure Image where
  /-- The extent of all its mappings. -/
  range : Extent
  /-- Where the beginning of the file is mapped. -/
  base : Nat
  deriving DecidableEq, Repr

end Callstack
