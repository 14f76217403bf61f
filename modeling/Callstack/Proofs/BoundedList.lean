import Callstack.Proofs.History

/-!
# Writers as bounded lists

Of the addresses that are pushed to it after the last reset, a writer keeps the first ones, as many
as fit. What it answers to a push looks ahead: whether there is room for another frame. So the push
that takes the last slot stores its frame and answers no, and every later one answers no and changes
nothing.

## Main results

* `snd_push_replay` — the answer of a push, after any operations
* `push_replay_of_full` — a push that comes too late
* `frames_ofAddresses`, `capacity_ofAddresses` — a trace that is made from addresses keeps them all
* `replay_refines_boundedList` — all of this for any pushes and resets
-/

namespace Callstack.Trace

namespace Writer

variable (capacity : Nat) (ops : List Op) (a : Address)

theorem replay_concat (op : Op) :
    replay capacity (ops ++ [op]) = op.apply (replay capacity ops) := by
  rw [replay, List.foldl_append]
  rfl

theorem pushed_concat (op : Op) : pushed (ops ++ [op]) = op.pushed (pushed ops) := by
  rw [pushed, List.foldl_append]
  rfl

/-- Pushes without a reset are all remembered. -/
theorem pushed_map_push (addresses : List Address) :
    pushed (addresses.map Op.push) = addresses := by
  induction addresses using List.reverseRecOn with
  | nil => rfl
  | append_singleton addresses a ih =>
    rw [List.map_append, List.map_singleton, pushed_concat, ih]
    rfl

theorem frames_replay :
    (replay capacity ops).finish.frames = (pushed ops).take (max capacity 1) :=
  (holds_replay capacity ops).frames_finish

theorem capacity_replay : (replay capacity ops).finish.capacity = max capacity 1 :=
  (holds_replay capacity ops).capacity_finish

theorem isFull_replay :
    (replay capacity ops).isFull =
      decide ((replay capacity ops).finish.frames.length = max capacity 1) := by
  rw [frames_replay]
  exact (holds_replay capacity ops).isFull_eq

/-- After any operations, a push answers whether fewer frames are stored after it than fit. -/
theorem snd_push_replay :
    ((replay capacity ops).push a).2 =
      decide (((replay capacity ops).push a).1.finish.frames.length < max capacity 1) := by
  -- The push is the last one of a longer sequence, so what is known of every sequence holds of it.
  have last : ((replay capacity ops).push a).1 = replay capacity (ops ++ [.push a]) :=
    (replay_concat capacity ops (.push a)).symm
  have fits := (holds_replay capacity (ops ++ [.push a])).length_le
  rw [snd_push, last, isFull_replay, ← decide_not, decide_eq_decide]
  rw [← frames_replay] at fits
  exact ⟨fun room => Nat.lt_of_le_of_ne fits room, Nat.ne_of_lt⟩

/-- A push that comes when all room is used changes nothing and answers no. -/
theorem push_replay_of_full (full : max capacity 1 ≤ (pushed ops).length) :
    (replay capacity ops).push a = (replay capacity ops, false) := by
  apply (holds_replay capacity ops).push_eq_of_full
  rw [List.length_take]
  exact Nat.min_eq_left full

end Writer

/-- A trace that is made from addresses has them all, in their order. -/
theorem frames_ofAddresses (addresses : List Address) :
    (ofAddresses addresses).frames = addresses := by
  rw [ofAddresses_eq_replay, Writer.frames_replay, Writer.pushed_map_push]
  exact List.take_of_length_le (Nat.le_max_left _ _)

theorem capacity_ofAddresses (addresses : List Address) :
    (ofAddresses addresses).capacity = max addresses.length 1 := by
  rw [ofAddresses_eq_replay, Writer.capacity_replay]

/-- A writer is a bounded list. For any pushes and resets of a writer with a capacity, and at any
time between them: it has room for that many frames, and for one at least; it holds the first
addresses pushed since the last reset, as many as fit; it is full exactly if all its room is used;
a push answers whether fewer frames are stored after it than fit, and one that comes when as many
have been pushed as fit changes nothing. So a trace that is made from addresses has them all. -/
theorem Writer.replay_refines_boundedList (capacity : Nat) (ops : List Writer.Op) :
    let room := max capacity 1
    let writer := Writer.replay capacity ops
    writer.finish.capacity = room ∧
      writer.finish.frames = (Writer.pushed ops).take room ∧
      (writer.isFull = true ↔ writer.finish.frames.length = room) ∧
      (∀ a, (writer.push a).2 = true ↔ (writer.push a).1.finish.frames.length < room) ∧
      (∀ a, room ≤ (Writer.pushed ops).length → writer.push a = (writer, false)) ∧
      ∀ addresses : List Address, (ofAddresses addresses).frames = addresses ∧
        (ofAddresses addresses).capacity = max addresses.length 1 := by
  intro room writer
  refine ⟨Writer.capacity_replay capacity ops, Writer.frames_replay capacity ops, ?_, ?_, ?_, ?_⟩
  · rw [Writer.isFull_replay, decide_eq_true_iff]
  · intro a
    rw [Writer.snd_push_replay, decide_eq_true_iff]
  · intro a full
    exact Writer.push_replay_of_full capacity ops a full
  · intro addresses
    exact ⟨frames_ofAddresses addresses, capacity_ofAddresses addresses⟩

/-- A writer made for no frame has room for one, and is filled anew after it has overflowed. -/
theorem Writer.replay_refines_boundedList_overflowed :
    let ops : List Writer.Op := [.push ⟨1⟩, .push ⟨2⟩, .reset, .push ⟨3⟩]
    let writer := Writer.replay 0 ops
    max 0 1 ≤ (Writer.pushed ops).length ∧ writer.finish.frames = [⟨3⟩] ∧
      writer.push ⟨4⟩ = (writer, false) := by
  intro ops writer
  have full : max 0 1 ≤ (Writer.pushed ops).length := by decide
  obtain ⟨-, frames, -, -, late, -⟩ := Writer.replay_refines_boundedList 0 ops
  exact ⟨full, frames, late ⟨4⟩ full⟩

end Callstack.Trace
