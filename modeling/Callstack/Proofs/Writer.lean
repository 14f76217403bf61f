import Callstack.Trace.Writer

/-!
# What a writer holds

A writer is an array that is filled from the front. All that matters of it is how many frames fit
and which ones are stored: `Holds` says that a writer is such a bounded list, with null addresses in
the slots that are left. Every operation is then an equation between bounded lists, and nobody has
to look at the slots again.

## Main definitions

* `Trace.Writer.Holds` — a writer with a capacity and the frames stored in it

## Main results

* `holds_withCapacity`, `Holds.push`, `Holds.reset` — what the operations do to the list
* `Holds.push_eq_of_full` — a full writer stays as it is
* `Holds.frames_finish` and its companions — the finished trace has exactly the stored frames
-/

namespace Callstack.Trace.Writer

/-- A writer of a capacity that holds the given frames. The slots behind them are null. -/
structure Holds (writer : Writer) (capacity : Nat) (frames : List Address) : Prop where
  /-- The frames fit. -/
  length_le : frames.length ≤ capacity
  /-- The frames come first, and the other slots are null. -/
  slots_eq : writer.slots.toList =
    frames ++ List.replicate (capacity - frames.length) Address.null
  /-- The used slots are those of the frames. -/
  len_eq : writer.len = frames.length

/-- Whether a writer has room is asked after the push. -/
theorem snd_push (writer : Writer) (a : Address) :
    (writer.push a).2 = !(writer.push a).1.isFull := by
  unfold push
  cases full : writer.isFull with
  | true => simp [full]
  | false => simp

/-- A new writer is empty and has room for one frame at least. -/
theorem holds_withCapacity (capacity : Nat) :
    (withCapacity capacity).Holds (max capacity 1) [] where
  length_le := Nat.zero_le _
  slots_eq := by simp [withCapacity]
  len_eq := rfl

namespace Holds

variable {writer : Writer} {capacity : Nat} {frames : List Address}

theorem size_slots (h : writer.Holds capacity frames) : writer.slots.size = capacity := by
  have lengths := congrArg List.length h.slots_eq
  have fits := h.length_le
  simp only [Array.length_toList, List.length_append, List.length_replicate] at lengths
  omega

theorem isFull_eq (h : writer.Holds capacity frames) :
    writer.isFull = decide (frames.length = capacity) := by
  rw [isFull, h.size_slots, h.len_eq]
  rfl

theorem lt_capacity (h : writer.Holds capacity frames) (notFull : writer.isFull = false) :
    frames.length < capacity := by
  rw [h.isFull_eq, decide_eq_false_iff_not] at notFull
  exact Nat.lt_of_le_of_ne h.length_le notFull

/-- A writer with room stores the frame behind the others, and says whether there is room left. -/
theorem push (h : writer.Holds capacity frames) (a : Address) (hasRoom : frames.length < capacity) :
    (writer.push a).1.Holds capacity (frames ++ [a]) ∧
      (writer.push a).2 = decide (frames.length + 1 < capacity) := by
  have notFull : writer.isFull = false := by
    rw [h.isFull_eq]
    exact decide_eq_false (Nat.ne_of_lt hasRoom)
  obtain ⟨left, hleft⟩ : ∃ left, capacity - frames.length = left + 1 :=
    ⟨capacity - frames.length - 1, by omega⟩
  have rest : capacity - (frames.length + 1) = left := by omega
  -- The frame takes the first of the null slots behind the others.
  have stored : (writer.push a).1.Holds capacity (frames ++ [a]) := by
    refine ⟨?_, ?_, ?_⟩
    · rw [List.length_append]
      exact hasRoom
    · simp [Writer.push, notFull, h.slots_eq, h.len_eq, hleft, rest, List.replicate_succ]
    · simp [Writer.push, notFull, h.len_eq]
  refine ⟨stored, ?_⟩
  rw [snd_push, stored.isFull_eq, List.length_append, ← decide_not, decide_eq_decide]
  exact ⟨fun notLast => Nat.lt_of_le_of_ne hasRoom notLast, Nat.ne_of_lt⟩

/-- A full writer drops the frame. -/
theorem push_eq_of_full (h : writer.Holds capacity frames) (a : Address)
    (full : frames.length = capacity) : writer.push a = (writer, false) := by
  have isFull : writer.isFull = true := by
    rw [h.isFull_eq]
    exact decide_eq_true full
  simp [Writer.push, isFull]

/-- A reset keeps the capacity and forgets the frames. -/
theorem reset (h : writer.Holds capacity frames) : writer.reset.Holds capacity [] where
  length_le := Nat.zero_le _
  slots_eq := by simp [Writer.reset, h.size_slots]
  len_eq := rfl

theorem capacity_finish (h : writer.Holds capacity frames) :
    writer.finish.capacity = capacity := by
  exact h.size_slots

theorem frames_finish (h : writer.Holds capacity frames) : writer.finish.frames = frames := by
  simp [finish, Trace.frames, h.slots_eq, h.len_eq]

theorem len_finish (h : writer.Holds capacity frames) : writer.finish.len = frames.length := by
  exact h.len_eq

end Holds

end Callstack.Trace.Writer
