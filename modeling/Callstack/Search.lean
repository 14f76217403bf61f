/-!
# Binary search

Search in a sorted array by halving: of the entries that are left, the upper half is kept unless
its first entry lies behind what is sought. When several entries match, this decides which one is
found.
-/

namespace Callstack.Search

variable {α : Type}

/-- The place that is left when `size` entries from `start` on are halved until there is one. The
comparison says where an entry lies, seen from what is sought. -/
def narrow (compare : α → Ordering) (entries : Array α) (start size : Nat) : Nat :=
  if size ≤ 1 then start
  else
    let half := size / 2
    let start :=
      match entries[start + half]? with
      | some entry => if compare entry = .gt then start else start + half
      | none => start
    narrow compare entries start (size - half)
termination_by size
decreasing_by omega

/-- The place of an entry that matches. -/
def find? (compare : α → Ordering) (entries : Array α) : Option Nat :=
  let place := narrow compare entries 0 entries.size
  match entries[place]? with
  | some entry => if compare entry = .eq then some place else none
  | none => none

end Callstack.Search
