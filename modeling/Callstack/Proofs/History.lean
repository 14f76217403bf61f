import Callstack.Capture
import Callstack.Proofs.Passes

/-!
# How traces come about

A trace is made from addresses, by a writer, or by a capture, and may get labels afterwards.
Whatever its history, the slots behind its frames are null: a writer clears all of them when it is
reset, and nothing else takes frames away. So two traces that show the same are equal, although
equality compares all slots.

## Main definitions

* `Trace.Writer.Op`, `Trace.Writer.replay` — operations of a writer, one after the other
* `Trace.Origin`, `Trace.Change`, `Trace.History` — how a trace came about
* `Trace.IsTidy` — a trace without anything behind its frames

## Main results

* `holds_replay` — a writer holds the first addresses pushed since the last reset
* `History.isTidy` — every trace is tidy
* `IsTidy.eq_of_shown` — tidy traces that show the same are equal
* `History.beq_iff_same_shown` — equality of traces is that of what they show
-/

namespace Callstack.Trace

namespace Writer

/-- What may be done with a writer. -/
inductive Op where
  /-- Push a frame. -/
  | push (a : Address)
  /-- Forget all frames. -/
  | reset
  deriving DecidableEq, Repr

/-- The writer after an operation. -/
def Op.apply (writer : Writer) : Op → Writer
  | push a => (writer.push a).1
  | reset => writer.reset

/-- A new writer after some operations. -/
def replay (capacity : Nat) (ops : List Op) : Writer :=
  ops.foldl Op.apply (withCapacity capacity)

/-- The addresses pushed so far, after one more operation. -/
def Op.pushed (earlier : List Address) : Op → List Address
  | push a => earlier ++ [a]
  | reset => []

/-- The addresses pushed since the last reset. -/
def pushed (ops : List Op) : List Address :=
  ops.foldl Op.pushed []

section Replay

variable {writer : Writer} {capacity : Nat} {earlier : List Address}

/-- Of the addresses that are pushed a writer holds the first ones. -/
theorem Holds.apply (holds : writer.Holds capacity (earlier.take capacity)) (op : Op) :
    (op.apply writer).Holds capacity ((op.pushed earlier).take capacity) := by
  cases op with
  | push a =>
    rw [Op.apply, Op.pushed]
    rcases Nat.lt_or_ge earlier.length capacity with hasRoom | full
    · have fits : (earlier ++ [a]).length ≤ capacity := by
        rw [List.length_append]
        exact hasRoom
      rw [List.take_of_length_le (Nat.le_of_lt hasRoom)] at holds
      rw [List.take_of_length_le fits]
      exact (holds.push a hasRoom).1
    · -- Neither the writer nor the beginning that fits takes anything from the new address.
      have isFull : (earlier.take capacity).length = capacity := by
        rw [List.length_take]
        exact Nat.min_eq_left full
      rw [holds.push_eq_of_full a isFull, List.take_append_of_le_length full]
      exact holds
  | reset =>
    rw [Op.apply, Op.pushed, List.take_nil]
    exact holds.reset

/-- After any operations a writer holds the first addresses pushed since the last reset. -/
theorem holds_replay (capacity : Nat) (ops : List Op) :
    (replay capacity ops).Holds (max capacity 1) ((pushed ops).take (max capacity 1)) := by
  -- Every operation changes both the writer and what was pushed, so the induction is over any two
  -- that belong together.
  have later (writer : Writer) (earlier : List Address)
      (holds : writer.Holds (max capacity 1) (earlier.take (max capacity 1))) :
      (ops.foldl Op.apply writer).Holds (max capacity 1)
        ((ops.foldl Op.pushed earlier).take (max capacity 1)) := by
    induction ops generalizing writer earlier with
    | nil => exact holds
    | cons op ops ih => exact ih _ _ (holds.apply op)
  apply later
  rw [List.take_nil]
  exact holds_withCapacity capacity

end Replay

end Writer

/-- A trace that is made from addresses is written, with a push for each of them. -/
theorem ofAddresses_eq_replay (addresses : List Address) :
    ofAddresses addresses =
      (Writer.replay addresses.length (addresses.map Writer.Op.push)).finish := by
  rw [ofAddresses, Writer.replay, List.foldl_map]
  rfl

/-! ### Histories -/

/-- Where a trace comes from. -/
inductive Origin where
  /-- It was made from addresses. -/
  | addresses (list : List Address)
  /-- It was written, with pushes and resets in any order. -/
  | written (capacity : Nat) (ops : List Writer.Op)
  /-- It was captured. -/
  | captured (maxFrames skip : Nat) (anchor : Address) (walker : Walker)

/-- The trace of an origin. -/
def Origin.trace : Origin → Trace
  | addresses list => ofAddresses list
  | written capacity ops => (Writer.replay capacity ops).finish
  | captured maxFrames skip anchor walker => (Capture.run maxFrames skip anchor walker).trace

/-- What may be done to a trace. -/
inductive Change where
  /-- Give it a label. -/
  | label (text : String)
  /-- Take its label away. -/
  | unlabel
  /-- Take a copy in its place. -/
  | copy
  deriving DecidableEq, Repr

/-- The trace after a change. -/
def Change.apply (trace : Trace) : Change → Trace
  | label text => trace.withLabel text
  | unlabel => trace.withoutLabel
  | copy => trace

/-- How a trace came about. -/
structure History where
  /-- Where it comes from. -/
  origin : Origin
  /-- What was done to it, in order. -/
  changes : List Change

/-- The trace with a history. -/
def History.trace (history : History) : Trace :=
  history.changes.foldl Change.apply history.origin.trace

/-- A trace with room for a frame at least, without anything behind its frames. -/
structure IsTidy (trace : Trace) : Prop where
  /-- One frame fits. -/
  one_le_capacity : 1 ≤ trace.capacity
  /-- The frames fit. -/
  len_le_capacity : trace.len ≤ trace.capacity
  /-- The slots behind the frames are null. -/
  eq_null_of_le : ∀ i slot, trace.len ≤ i → trace.slots[i]? = some slot → slot = Address.null

section Origin

variable {writer : Writer} {capacity : Nat} {frames : List Address}

/-- What a writer finishes is tidy. -/
theorem Writer.Holds.isTidy_finish (holds : writer.Holds capacity frames)
    (positive : 1 ≤ capacity) : writer.finish.IsTidy := by
  constructor
  case one_le_capacity =>
    rw [holds.capacity_finish]
    exact positive
  case len_le_capacity =>
    rw [holds.capacity_finish, holds.len_finish]
    exact holds.length_le
  case eq_null_of_le =>
    intro i slot behind isSlot
    rw [holds.len_finish] at behind
    rw [← Array.getElem?_toList, finish, holds.slots_eq,
      List.getElem?_append_right behind] at isSlot
    exact List.eq_of_mem_replicate (List.mem_of_getElem? isSlot)

/-- The writer that a capture finishes has been filled by its passes, whichever they are. -/
theorem exists_writer_of_capture (maxFrames skip : Nat) (anchor : Address) (walker : Walker) :
    ∃ (writer : Writer) (frames : List Address),
      (Capture.run maxFrames skip anchor walker).trace = writer.finish ∧
        writer.Holds (max (max maxFrames 1) 1) frames := by
  have empty := Writer.holds_withCapacity (max maxFrames 1)
  -- What the first pass has stored does not matter: it is the result, or the reset forgets it.
  obtain ⟨first, holdsFirst, -⟩ :=
    Walk.holds_run walker.stubborn
      (.anchored anchor (Capture.requested (max maxFrames 1) skip) skip) empty walker.first
  unfold Capture.run
  dsimp only
  split_ifs with found
  · exact ⟨_, _, rfl, holdsFirst⟩
  · obtain ⟨second, holdsSecond, -⟩ :=
      Walk.holds_run walker.stubborn (.fixed (Capture.requested (max maxFrames 1) skip) skip)
        holdsFirst.reset walker.second
    exact ⟨_, _, rfl, holdsSecond⟩

theorem Origin.isTidy (origin : Origin) : origin.trace.IsTidy := by
  have positive (n : Nat) : 1 ≤ max n 1 := Nat.le_max_right n 1
  cases origin with
  | addresses list =>
    rw [Origin.trace, ofAddresses_eq_replay]
    exact (Writer.holds_replay _ _).isTidy_finish (positive _)
  | written capacity ops => exact (Writer.holds_replay capacity ops).isTidy_finish (positive _)
  | captured maxFrames skip anchor walker =>
    obtain ⟨writer, frames, finished, holds⟩ :=
      exists_writer_of_capture maxFrames skip anchor walker
    rw [Origin.trace, finished]
    exact holds.isTidy_finish (positive _)

end Origin

section Change

variable (trace : Trace) (change : Change)

theorem Change.slots_apply : (change.apply trace).slots = trace.slots := by
  cases change <;> rfl

theorem Change.len_apply : (change.apply trace).len = trace.len := by
  cases change <;> rfl

theorem Change.frames_apply : (change.apply trace).frames = trace.frames := by
  rw [frames, frames, slots_apply, len_apply]

theorem Change.capacity_apply : (change.apply trace).capacity = trace.capacity := by
  rw [capacity, capacity, slots_apply]

theorem Change.isTidy_apply {trace : Trace} (tidy : trace.IsTidy) :
    (change.apply trace).IsTidy := by
  constructor
  case one_le_capacity =>
    rw [capacity_apply]
    exact tidy.one_le_capacity
  case len_le_capacity =>
    rw [capacity_apply, len_apply]
    exact tidy.len_le_capacity
  case eq_null_of_le =>
    rw [slots_apply, len_apply]
    exact tidy.eq_null_of_le

end Change

/-- Every trace is tidy, whatever its history. -/
theorem History.isTidy (history : History) : history.trace.IsTidy := by
  obtain ⟨origin, changes⟩ := history
  have later (trace : Trace) (tidy : trace.IsTidy) : (changes.foldl Change.apply trace).IsTidy := by
    induction changes generalizing trace with
    | nil => exact tidy
    | cons change changes ih => exact ih _ (change.isTidy_apply tidy)
  exact later _ origin.isTidy

section Equality

variable {a b : Trace}

theorem IsTidy.length_frames (tidy : a.IsTidy) : a.frames.length = a.len := by
  rw [frames, List.length_take, Array.length_toList]
  exact Nat.min_eq_left tidy.len_le_capacity

/-- The slots of a tidy trace are determined by what it shows. -/
theorem IsTidy.getElem?_slots (tidy : a.IsTidy) (i : Nat) :
    a.slots[i]? =
      if i < a.frames.length then a.frames[i]?
      else if i < a.capacity then some Address.null else none := by
  rw [tidy.length_frames]
  split_ifs with isFrame fits
  · rw [frames, List.getElem?_take_of_lt isFrame, Array.getElem?_toList]
  · cases isSlot : a.slots[i]? with
    | none =>
      rw [Array.getElem?_eq_none_iff] at isSlot
      exact absurd fits (Nat.not_lt.mpr isSlot)
    | some slot => rw [tidy.eq_null_of_le i slot (Nat.not_lt.mp isFrame) isSlot]
  · exact Array.getElem?_eq_none (Nat.not_lt.mp fits)

/-- Tidy traces that show the same are equal. -/
theorem IsTidy.eq_of_shown (tidyA : a.IsTidy) (tidyB : b.IsTidy)
    (capacities : a.capacity = b.capacity) (sameFrames : a.frames = b.frames)
    (labels : a.label = b.label) : a = b := by
  have slots : a.slots = b.slots := by
    apply Array.ext_getElem?
    intro i
    rw [tidyA.getElem?_slots, tidyB.getElem?_slots, capacities, sameFrames]
  have lens : a.len = b.len := by
    rw [← tidyA.length_frames, ← tidyB.length_frames, sameFrames]
  cases a
  cases b
  simp only at slots lens labels
  rw [slots, lens, labels]

end Equality

/-- Whatever their histories, two traces are equal exactly if they have the same capacity, the same
frames and the same label, where no label is not an empty one. Every trace is tidy, and labels
change neither its frames nor its capacity. -/
theorem History.beq_iff_same_shown (a b : History) :
    ((a.trace == b.trace) = true ↔
      a.trace.capacity = b.trace.capacity ∧ a.trace.frames = b.trace.frames ∧
        a.trace.label = b.trace.label) ∧
      a.trace.IsTidy ∧
      ∀ change : Change, (change.apply a.trace).frames = a.trace.frames ∧
        (change.apply a.trace).len = a.trace.len ∧
        (change.apply a.trace).capacity = a.trace.capacity := by
  refine ⟨?_, a.isTidy, fun change => ⟨change.frames_apply _, change.len_apply _,
    change.capacity_apply _⟩⟩
  rw [beq_iff_eq]
  constructor
  · intro same
    rw [same]
    exact ⟨rfl, rfl, rfl⟩
  · rintro ⟨capacities, sameFrames, labels⟩
    exact a.isTidy.eq_of_shown b.isTidy capacities sameFrames labels

/-- Nothing is left of a first filling, so a reset writer makes the same trace as a new one. -/
example :
    let refilled : History := ⟨.written 2 [.push ⟨1⟩, .push ⟨2⟩, .push ⟨3⟩, .reset, .push ⟨4⟩], []⟩
    let new : History := ⟨.written 2 [.push ⟨4⟩], [.label "", .unlabel]⟩
    (refilled.trace == new.trace) = true := by decide

/-- An empty label is not the same as none. -/
example :
    let plain : History := ⟨.addresses [⟨4⟩], []⟩
    let labelled : History := ⟨.addresses [⟨4⟩], [.label "", .copy]⟩
    (plain.trace == labelled.trace) = false := by decide

end Callstack.Trace
