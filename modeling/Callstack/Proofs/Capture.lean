import Callstack.Capture
import Callstack.Proofs.Walk

/-!
# What a capture keeps

A capture keeps a stretch of one of the two reported stacks: that of the first pass if the anchor
is among its first frames, else that of the second one. The counters of the walk do not show in the
result. They are sums that stop at the greatest word, so this needs that the walker reports fewer
frames than that.

## Main definitions

* `Capture.behind?` — the frames behind the anchor, if it is found
* `Capture.kept` — the addresses that a capture is to keep

## Main results

* `anchored_run_of_behind`, `anchored_run_of_not_behind`, `fixed_run` — the two passes
* `trace_run_keeps` — the captured trace has the addresses that are to be kept, and nothing else
-/

namespace Callstack.Capture

open Trace (Writer)
open Walk (shown)

/-- The frames behind the first one of the anchor's function, if that is among the first 32. -/
def behind? (anchor : Address) (frames : List Frame) : Option (List Frame) :=
  match frames.findIdx? fun frame => frame.symbol = anchor with
  | some k => if k < 32 then some (frames.drop (k + 1)) else none
  | none => none

/-- What to keep of the stacks of two passes: the first addresses behind the anchor in the first
stack, or behind two frames in the second one. -/
def kept (maxFrames skip : Nat) (anchor : Address) (first second : List Frame) : List Address :=
  shown skip (max 1 maxFrames) ((behind? anchor first).getD (second.drop 2))

theorem behind?_eq_some_iff {anchor : Address} {frames rest : List Frame} :
    behind? anchor frames = some rest ↔
      ∃ k, frames.findIdx? (fun frame => frame.symbol = anchor) = some k ∧ k < 32 ∧
        frames.drop (k + 1) = rest := by
  unfold behind?
  split
  · rename_i k first
    split_ifs with near
    · simp [first, near]
    · simp [first, near]
  · rename_i none
    simp [none]

theorem behind?_eq_none_iff {anchor : Address} {frames : List Frame} :
    behind? anchor frames = none ↔
      ∀ k, frames.findIdx? (fun frame => frame.symbol = anchor) = some k → 32 ≤ k := by
  unfold behind?
  split
  · rename_i k first
    split_ifs with near
    · simp [first, near]
    · simpa [first] using near
  · rename_i none
    simp [none]

section Budget

variable {limit : Nat} (skip : Nat)

theorem internalFrames_lt_requested (positive : 0 < limit) :
    Walk.internalFrames < requested limit skip := by
  simp only [requested, saturatingAdd, Walk.internalFrames, Numeral.wordLimit]
  omega

/-- Behind the hidden frames the budget covers all that is skipped and stored, or any stack. -/
theorem budget_covers (limit : Nat) {frames : List Frame}
    (short : frames.length < Numeral.wordLimit - 3) :
    skip + limit ≤ requested limit skip - Walk.internalFrames ∨
      frames.length ≤ requested limit skip - Walk.internalFrames := by
  simp only [requested, saturatingAdd, Walk.internalFrames, Numeral.wordLimit] at short ⊢
  omega

theorem length_drop_lt {bound : Nat} {frames : List Frame} (n : Nat)
    (short : frames.length < bound) : (frames.drop n).length < bound := by
  rw [List.length_drop]
  exact Nat.lt_of_le_of_lt (Nat.sub_le _ _) short

end Budget

section Pass

variable {limit : Nat} (skip : Nat) {anchor : Address} {frames rest : List Frame}

/-- A walk past the hidden frames that has the rest of the requested budget stores all there is to
be shown. -/
theorem run_of_budget {walk : Walk} {writer : Writer} (past : walk.IsPastHidden)
    (hskip : walk.skip = skip)
    (hbudget : walk.budget = requested limit skip - Walk.internalFrames)
    (empty : writer.Holds limit []) (short : frames.length < Numeral.wordLimit - 3) :
    (walk.run false writer frames).walk.foundAnchor = walk.foundAnchor ∧
      (walk.run false writer frames).writer.Holds limit (shown skip limit frames) := by
  have stores := Walk.run_pending past empty frames
  have all : walk.pending limit [] frames = shown skip limit frames := by
    rw [Walk.pending, hskip, hbudget]
    exact Walk.shown_take (budget_covers skip limit short)
  rwa [all] at stores

/-- A first pass that comes to the anchor finds it and stores what lies behind it. -/
theorem anchored_run_of_behind {writer : Writer} (positive : 0 < limit)
    (empty : writer.Holds limit []) (short : frames.length < Numeral.wordLimit - 3)
    (found : behind? anchor frames = some rest) :
    let pass := (Walk.anchored anchor (requested limit skip) skip).run false writer frames
    pass.walk.foundAnchor = true ∧ pass.writer.Holds limit (shown skip limit rest) := by
  intro pass
  obtain ⟨k, first, near, rfl⟩ := behind?_eq_some_iff.mp found
  obtain ⟨sameWalk, sameWriter⟩ :=
    Walk.run_of_anchor (.anchored anchor (requested limit skip) skip) rfl rfl
      (internalFrames_lt_requested skip positive) writer first
      (by simpa [Walk.anchored, Walk.searchLimit] using near)
  rw [sameWalk, sameWriter]
  exact run_of_budget skip rfl rfl rfl empty (length_drop_lt (k + 1) short)

/-- A first pass that does not come to the anchor stores nothing. -/
theorem anchored_run_of_not_behind (requested : Nat) (writer : Writer)
    (lost : behind? anchor frames = none) :
    let pass := (Walk.anchored anchor requested skip).run false writer frames
    pass.walk.foundAnchor = false ∧ pass.writer = writer := by
  intro pass
  refine Walk.run_without_anchor _ rfl rfl writer (by simp [Walk.anchored, Walk.searchLimit]) ?_
  intro k first
  simpa [Walk.anchored, Walk.searchLimit] using behind?_eq_none_iff.mp lost k first

/-- A second pass stores what lies behind the first two frames. -/
theorem fixed_run {writer : Writer} (positive : 0 < limit) (empty : writer.Holds limit [])
    (short : frames.length < Numeral.wordLimit - 3) :
    ((Walk.fixed (requested limit skip) skip).run false writer frames).writer.Holds limit
      (shown skip limit (frames.drop 2)) := by
  rw [Walk.run_hidden _ rfl (internalFrames_lt_requested skip positive)]
  have past : { Walk.fixed (requested limit skip) skip with
      hidden := 0, budget := requested limit skip - Walk.internalFrames }.IsPastHidden := rfl
  exact (run_of_budget skip past rfl rfl empty (length_drop_lt 2 short)).2

end Pass

/-- The writer that a capture finishes holds what is to be kept, whichever pass has filled it. -/
theorem exists_writer_of_run (maxFrames skip : Nat) (anchor : Address) {first second : List Frame}
    (hfirst : first.length < Numeral.wordLimit - 3)
    (hsecond : second.length < Numeral.wordLimit - 3) :
    ∃ writer : Writer, (run maxFrames skip anchor ⟨first, second, false⟩).trace = writer.finish ∧
      writer.Holds (max 1 maxFrames) (kept maxFrames skip anchor first second) := by
  have positive : 0 < max maxFrames 1 := Nat.lt_of_lt_of_le Nat.one_pos (Nat.le_max_right _ _)
  have empty : (Writer.withCapacity (max maxFrames 1)).Holds (max maxFrames 1) [] := by
    simpa using Trace.Writer.holds_withCapacity (max maxFrames 1)
  rw [kept, Nat.max_comm 1]
  cases found : behind? anchor first with
  | some rest =>
    obtain ⟨isFound, holds⟩ := anchored_run_of_behind skip positive empty hfirst found
    refine ⟨_, ?_, holds⟩
    simp [run, isFound]
  | none =>
    obtain ⟨isLost, same⟩ := anchored_run_of_not_behind skip
      (requested (max maxFrames 1) skip) (.withCapacity (max maxFrames 1)) found
    -- The first pass has stored nothing, but the writer is reset all the same.
    refine ⟨_, ?_, fixed_run skip positive empty.reset hsecond⟩
    simp [run, isLost, same]

/-- A capture keeps the addresses behind the anchor of the first pass, or behind two frames of the
second one. The trace has room for the requested frames, and for one at least. -/
theorem trace_run_keeps (maxFrames skip : Nat) (anchor : Address) (first second : List Frame)
    (hfirst : first.length < Numeral.wordLimit - 3)
    (hsecond : second.length < Numeral.wordLimit - 3) :
    let trace := (run maxFrames skip anchor ⟨first, second, false⟩).trace
    trace.capacity = max 1 maxFrames ∧ trace.label = none ∧
      trace.len = (kept maxFrames skip anchor first second).length ∧
      trace.frames = kept maxFrames skip anchor first second := by
  intro trace
  obtain ⟨writer, finished, holds⟩ := exists_writer_of_run maxFrames skip anchor hfirst hsecond
  have finished : trace = writer.finish := finished
  rw [finished]
  exact ⟨holds.capacity_finish, rfl, holds.len_finish, holds.frames_finish⟩

/-- Null addresses in front of the anchor and among the skipped frames do not end the stack, but the
first one behind them does. A second frame of the anchor's function is stored like any other. -/
theorem trace_run_keeps_behind_nulls :
    let first : List Frame := [⟨⟨0⟩, ⟨0x10⟩⟩, ⟨⟨0x501⟩, ⟨0x500⟩⟩, ⟨⟨0⟩, ⟨0x20⟩⟩, ⟨⟨0x31⟩, ⟨0x30⟩⟩,
      ⟨⟨0x502⟩, ⟨0x500⟩⟩, ⟨⟨0⟩, ⟨0x50⟩⟩, ⟨⟨0x41⟩, ⟨0x40⟩⟩]
    let second : List Frame := [⟨⟨0x61⟩, ⟨0x60⟩⟩]
    let trace := (run 3 1 ⟨0x500⟩ ⟨first, second, false⟩).trace
    first.length < Numeral.wordLimit - 3 ∧ second.length < Numeral.wordLimit - 3 ∧
      trace.capacity = 3 ∧ trace.label = none ∧ trace.len = 2 ∧
      trace.frames = [⟨0x31⟩, ⟨0x502⟩] := by
  intro first second trace
  have keeps : kept 3 1 ⟨0x500⟩ first second = [⟨0x31⟩, ⟨0x502⟩] := by decide
  have short : first.length < Numeral.wordLimit - 3 := by decide
  have short' : second.length < Numeral.wordLimit - 3 := by decide
  have facts := trace_run_keeps 3 1 ⟨0x500⟩ first second short short'
  rw [keeps] at facts
  exact ⟨short, short', facts⟩

end Callstack.Capture
