import Callstack.Proofs.Writer
import Callstack.Walk
import Mathlib.Logic.Basic
import Mathlib.Tactic.SplitIfs

/-!
# What a pass stores

A pass goes through three phases. It searches for the anchor or counts off the hidden frames; it
skips frames; it stores frames. The first two leave the writer alone, and the last two are the same
for both kinds of walk. So a pass is described in two steps: how it gets past the hidden frames,
and what it stores from there on.

## Main definitions

* `Walk.shown` — the addresses of the frames that are to be stored, behind the hidden ones
* `Walk.IsPastHidden` — a walk that hides no more frames
* `Walk.pending` — what such a walk is still to store

## Main results

* `visitShown_cases` — what a visit behind the hidden frames can do
* `visit_pending`, `run_pending` — what one visit and a whole pass store behind the hidden frames
* `run_of_anchor`, `run_without_anchor` — how the search for the anchor ends
* `run_hidden` — a walk without anchor leaves out its hidden frames
-/

namespace Callstack.Walk

open Trace (Writer)

/-- The addresses to store: `skip` frames are left out, the next null address ends the stack, and
`limit` addresses are enough. -/
def shown (skip limit : Nat) (frames : List Frame) : List Address :=
  (((frames.drop skip).takeWhile fun frame => !frame.ip.isNull).take limit).map Frame.ip

/-- A walk that hides no more frames: it has seen its anchor, or it has none and has counted off
the hidden frames. -/
def IsPastHidden (walk : Walk) : Prop :=
  match walk.anchor with
  | some _ => walk.foundAnchor = true
  | none => walk.hidden = 0

section Shown

variable {skip limit : Nat} {frame : Frame} {frames : List Frame}

@[simp] theorem shown_nil : shown skip limit [] = [] := by
  simp [shown]

@[simp] theorem shown_no_room : shown skip 0 frames = [] := by
  simp [shown]

theorem shown_cons_skip : shown (skip + 1) limit (frame :: frames) = shown skip limit frames := by
  rfl

theorem shown_cons_of_null (isNull : frame.ip.isNull = true) :
    shown 0 limit (frame :: frames) = [] := by
  simp [shown, isNull]

theorem shown_cons (notNull : frame.ip.isNull = false) :
    shown 0 (limit + 1) (frame :: frames) = frame.ip :: shown 0 limit frames := by
  simp [shown, notNull]

/-- Frames that are neither skipped nor fit do not matter. -/
theorem shown_take {budget : Nat} (enough : skip + limit ≤ budget ∨ frames.length ≤ budget) :
    shown skip limit (frames.take budget) = shown skip limit frames := by
  rcases enough with enough | enough
  · have fits : min limit (budget - skip) = limit := by omega
    rw [shown, shown, List.drop_take, ← List.take_takeWhile, List.take_take, fits]
  · rw [List.take_of_length_le enough]

end Shown

section Run

variable {walk next : Walk} {writer filled : Writer} {frame : Frame}

/-- A walk that wants no further frame ends the pass. -/
theorem run_cons_of_stop (visited : walk.visit writer frame = (next, filled, false))
    (rest : List Frame) : walk.run false writer (frame :: rest) = ⟨next, filled, 1⟩ := by
  simp [run, visited]

/-- A walk that wants another frame continues with the rest. -/
theorem run_cons_of_go (visited : walk.visit writer frame = (next, filled, true))
    (rest : List Frame) :
    (walk.run false writer (frame :: rest)).walk = (next.run false filled rest).walk ∧
      (walk.run false writer (frame :: rest)).writer = (next.run false filled rest).writer := by
  simp [run, visited]

end Run

/-! ### Behind the hidden frames -/

/-- How frames are stored matters only behind the hidden ones, and there the walks with an anchor
and those without one are the same. -/
theorem visitBy_of_isPastHidden {m : Type → Type} [Monad m]
    (push : Writer → Address → m (Writer × Bool)) {walk : Walk} (past : walk.IsPastHidden)
    (writer : Writer) (frame : Frame) :
    walk.visitBy push writer frame = walk.visitShownBy push writer frame.ip := by
  unfold IsPastHidden at past
  unfold visitBy
  cases anchor : walk.anchor with
  | some address =>
    rw [anchor] at past
    exact if_pos past
  | none =>
    rw [anchor] at past
    exact if_neg (Nat.not_lt_of_le (Nat.le_of_eq past))

theorem visit_of_isPastHidden {walk : Walk} (past : walk.IsPastHidden) (writer : Writer)
    (frame : Frame) : walk.visit writer frame = walk.visitShown writer frame.ip := by
  rw [visit, visitBy_of_isPastHidden _ past, visitShown]

/-- What a visit behind the hidden frames can do: the budget is used up, the frame is skipped, the
stack or the room ends in front of it, or it is stored. -/
theorem visitShown_cases (walk : Walk) (writer : Writer) (ip : Address) :
    (walk.budget = 0 ∧ walk.visitShown writer ip = (walk, writer, false)) ∨
    (0 < walk.budget ∧ 0 < walk.skip ∧ walk.visitShown writer ip =
      ({ walk with budget := walk.budget - 1, skip := walk.skip - 1 }, writer,
        decide (0 < walk.budget - 1))) ∨
    (0 < walk.budget ∧ walk.skip = 0 ∧ (ip.isNull = true ∨ writer.isFull = true) ∧
      walk.visitShown writer ip = ({ walk with budget := walk.budget - 1 }, writer, false)) ∨
    (0 < walk.budget ∧ walk.skip = 0 ∧ ip.isNull = false ∧ writer.isFull = false ∧
      walk.visitShown writer ip = ({ walk with budget := walk.budget - 1 }, (writer.push ip).1,
        (writer.push ip).2 && decide (0 < walk.budget - 1))) := by
  unfold visitShown visitShownBy
  dsimp only
  split_ifs with spent skips ends
  · exact .inl ⟨spent, rfl⟩
  · exact .inr (.inl ⟨Nat.pos_of_ne_zero spent, skips, rfl⟩)
  · rw [Bool.or_eq_true] at ends
    exact .inr (.inr (.inl ⟨Nat.pos_of_ne_zero spent, Nat.eq_zero_of_not_pos skips, ends, rfl⟩))
  · rw [Bool.or_eq_true, not_or, Bool.not_eq_true, Bool.not_eq_true] at ends
    exact .inr (.inr (.inr
      ⟨Nat.pos_of_ne_zero spent, Nat.eq_zero_of_not_pos skips, ends.1, ends.2, rfl⟩))

/-- What a walk past the hidden frames is still to store: of the frames that its budget covers,
those for which a writer with `stored` frames has room. -/
def pending (walk : Walk) (capacity : Nat) (stored : List Address) (frames : List Frame) :
    List Address :=
  shown walk.skip (capacity - stored.length) (frames.take walk.budget)

section Pending

variable {walk : Walk} {capacity : Nat} {stored : List Address} {frame : Frame}

theorem pending_of_no_budget (spent : walk.budget = 0) (frames : List Frame) :
    walk.pending capacity stored frames = [] := by
  simp [pending, spent]

theorem pending_of_full (full : stored.length = capacity) (frames : List Frame) :
    walk.pending capacity stored frames = [] := by
  simp [pending, full]

theorem pending_cons_of_skip (positive : 0 < walk.budget) (skips : 0 < walk.skip)
    (rest : List Frame) :
    walk.pending capacity stored (frame :: rest) =
      { walk with budget := walk.budget - 1, skip := walk.skip - 1 }.pending capacity stored
        rest := by
  obtain ⟨budget, hbudget⟩ := Nat.exists_eq_add_of_lt positive
  obtain ⟨skip, hskip⟩ := Nat.exists_eq_add_of_lt skips
  simp [pending, hbudget, hskip, shown_cons_skip]

theorem pending_cons_of_null (noSkip : walk.skip = 0) (isNull : frame.ip.isNull = true)
    (rest : List Frame) : walk.pending capacity stored (frame :: rest) = [] := by
  cases hbudget : walk.budget with
  | zero => exact pending_of_no_budget hbudget _
  | succ budget => simp [pending, hbudget, noSkip, shown_cons_of_null isNull]

theorem pending_cons_of_room (positive : 0 < walk.budget) (noSkip : walk.skip = 0)
    (notNull : frame.ip.isNull = false) (hasRoom : stored.length < capacity) (rest : List Frame) :
    walk.pending capacity stored (frame :: rest) =
      frame.ip :: { walk with budget := walk.budget - 1 }.pending capacity (stored ++ [frame.ip])
        rest := by
  obtain ⟨budget, hbudget⟩ := Nat.exists_eq_add_of_lt positive
  obtain ⟨room, hroom⟩ : ∃ room, capacity - stored.length = room + 1 :=
    ⟨capacity - stored.length - 1, by omega⟩
  have left : capacity - (stored ++ [frame.ip]).length = room := by
    simp only [List.length_append, List.length_cons, List.length_nil]
    omega
  rw [Nat.zero_add] at hbudget
  simp only [pending, hbudget, noSkip, hroom, left, List.take_succ_cons, shown_cons notNull,
    Nat.add_sub_cancel]

end Pending

/-- One visit past the hidden frames stores the first part of what is pending. The rest of it is
what is pending afterwards, and nothing if the walk wants no further frame. -/
theorem visit_pending {walk : Walk} {writer : Writer} {capacity : Nat} {stored : List Address}
    (past : walk.IsPastHidden) (holds : writer.Holds capacity stored) (frame : Frame) :
    ∃ next filled goOn added, walk.visit writer frame = (next, filled, goOn) ∧
      next.IsPastHidden ∧ next.foundAnchor = walk.foundAnchor ∧
      filled.Holds capacity (stored ++ added) ∧
      ∀ rest, walk.pending capacity stored (frame :: rest) =
        added ++ if goOn then next.pending capacity (stored ++ added) rest else [] := by
  rw [visit_of_isPastHidden past]
  have same : writer.Holds capacity (stored ++ []) := by rwa [List.append_nil]
  rcases visitShown_cases walk writer frame.ip with ⟨spent, visits⟩ | ⟨positive, skips, visits⟩ |
    ⟨-, noSkip, ends, visits⟩ | ⟨positive, noSkip, notNull, notFull, visits⟩
  · refine ⟨_, _, _, [], visits, past, rfl, same, fun rest => ?_⟩
    exact pending_of_no_budget spent _
  · refine ⟨_, _, _, [], visits, past, rfl, same, fun rest => ?_⟩
    rw [pending_cons_of_skip positive skips, List.append_nil, List.nil_append]
    split_ifs with goesOn
    · rfl
    · -- The skipped frame was the last one that the budget covers.
      rw [decide_eq_true_iff, Nat.not_lt, Nat.le_zero] at goesOn
      exact pending_of_no_budget goesOn rest
  · refine ⟨_, _, _, [], visits, past, rfl, same, fun rest => ?_⟩
    rcases ends with isNull | isFull
    · exact pending_cons_of_null noSkip isNull rest
    · rw [holds.isFull_eq, decide_eq_true_iff] at isFull
      exact pending_of_full isFull _
  · have hasRoom := holds.lt_capacity notFull
    obtain ⟨stores, roomLeft⟩ := holds.push frame.ip hasRoom
    refine ⟨_, _, _, [frame.ip], visits, past, rfl, stores, fun rest => ?_⟩
    rw [pending_cons_of_room positive noSkip notNull hasRoom, List.singleton_append, roomLeft]
    congr 1
    split_ifs with goesOn
    · rfl
    · -- The walk stops because the writer is full now or the budget spent.
      simp only [Bool.and_eq_true, decide_eq_true_eq, not_and_or, Nat.not_lt] at goesOn
      rcases goesOn with full | spent
      · refine pending_of_full ?_ rest
        rw [List.length_append]
        exact Nat.le_antisymm hasRoom full
      · exact pending_of_no_budget (Nat.le_zero.mp spent) rest

/-- Past the hidden frames a pass stores all that is pending. -/
theorem run_pending {walk : Walk} {writer : Writer} {capacity : Nat} {stored : List Address}
    (past : walk.IsPastHidden) (holds : writer.Holds capacity stored) (frames : List Frame) :
    (walk.run false writer frames).walk.foundAnchor = walk.foundAnchor ∧
      (walk.run false writer frames).writer.Holds capacity
        (stored ++ walk.pending capacity stored frames) := by
  induction frames generalizing walk writer stored with
  | nil => exact ⟨rfl, by simpa [run, pending] using holds⟩
  | cons frame rest ih =>
    obtain ⟨next, filled, goOn, added, visited, stays, found, stores, split⟩ :=
      visit_pending past holds frame
    rw [split]
    cases goOn with
    | false =>
      -- Nothing is pending any more, so the frames that are not reported make no difference.
      rw [run_cons_of_stop visited]
      exact ⟨found, by simpa using stores⟩
    | true =>
      obtain ⟨sameWalk, sameWriter⟩ := run_cons_of_go visited rest
      obtain ⟨foundLater, storesLater⟩ := ih stays stores
      rw [sameWalk, sameWriter]
      exact ⟨foundLater.trans found, by simpa [List.append_assoc] using storesLater⟩

/-! ### Hidden frames -/

section Search

variable {walk : Walk} {anchor : Address} {frame : Frame}

theorem visit_of_anchor (hanchor : walk.anchor = some anchor) (unfound : walk.foundAnchor = false)
    (writer : Writer) (isAnchor : frame.symbol = anchor) :
    walk.visit writer frame =
      ({ walk with
          foundAnchor := true
          budget := walk.budget - internalFrames
          searched := walk.searched + 1 },
        writer, decide (0 < walk.budget - internalFrames)) := by
  simp [visit, visitBy, hanchor, unfound, isAnchor]

theorem visit_of_not_anchor (hanchor : walk.anchor = some anchor)
    (unfound : walk.foundAnchor = false) (writer : Writer) (notAnchor : frame.symbol ≠ anchor) :
    walk.visit writer frame =
      ({ walk with searched := walk.searched + 1 }, writer,
        decide (walk.searched + 1 < searchLimit)) := by
  simp [visit, visitBy, hanchor, unfound, notAnchor]

/-- The search reaches an anchor within its limit, and the pass goes on behind it. -/
theorem run_of_anchor (walk : Walk) (hanchor : walk.anchor = some anchor)
    (unfound : walk.foundAnchor = false) (hbudget : internalFrames < walk.budget)
    (writer : Writer) {frames : List Frame} {k : Nat}
    (first : frames.findIdx? (fun frame => frame.symbol = anchor) = some k)
    (near : walk.searched + k < searchLimit) :
    let behind : Walk :=
      { walk with
        foundAnchor := true
        budget := walk.budget - internalFrames
        searched := walk.searched + k + 1 }
    (walk.run false writer frames).walk =
        (behind.run false writer (frames.drop (k + 1))).walk ∧
      (walk.run false writer frames).writer =
        (behind.run false writer (frames.drop (k + 1))).writer := by
  -- Every frame in front of the anchor counts as searched, so the induction is over any walk.
  induction frames generalizing walk k with
  | nil => simp at first
  | cons frame rest ih =>
    rw [List.findIdx?_cons] at first
    by_cases isAnchor : frame.symbol = anchor
    · simp only [isAnchor, decide_true, if_true, Option.some.injEq] at first
      subst first
      have visited := visit_of_anchor hanchor unfound writer isAnchor
      rw [decide_eq_true (Nat.sub_pos_of_lt hbudget)] at visited
      exact run_cons_of_go visited rest
    · simp only [isAnchor, decide_false, Bool.false_eq_true, if_false,
        Option.map_eq_some_iff] at first
      obtain ⟨j, first, rfl⟩ := first
      have visited := visit_of_not_anchor hanchor unfound writer isAnchor
      rw [decide_eq_true (by omega)] at visited
      have goes := run_cons_of_go visited rest
      have found := ih { walk with searched := walk.searched + 1 } hanchor unfound hbudget
        first (by simp only; omega)
      have counted : walk.searched + 1 + j + 1 = walk.searched + (j + 1) + 1 := by omega
      rw [goes.1, goes.2, List.drop_succ_cons]
      simpa only [counted] using found

/-- Without an anchor within the limit, a pass neither finds it nor stores anything. -/
theorem run_without_anchor (walk : Walk) (hanchor : walk.anchor = some anchor)
    (unfound : walk.foundAnchor = false) (writer : Writer) {frames : List Frame}
    (searching : walk.searched < searchLimit)
    (far : ∀ k, frames.findIdx? (fun frame => frame.symbol = anchor) = some k →
      searchLimit ≤ walk.searched + k) :
    (walk.run false writer frames).walk.foundAnchor = false ∧
      (walk.run false writer frames).writer = writer := by
  induction frames generalizing walk with
  | nil => exact ⟨unfound, rfl⟩
  | cons frame rest ih =>
    by_cases isAnchor : frame.symbol = anchor
    · -- The search is not over yet, so the first frame is within its limit.
      have := far 0 (by simp [List.findIdx?_cons, isAnchor])
      omega
    · have visited := visit_of_not_anchor hanchor unfound writer isAnchor
      by_cases last : walk.searched + 1 < searchLimit
      · rw [decide_eq_true last] at visited
        have goes := run_cons_of_go visited rest
        rw [goes.1, goes.2]
        refine ih { walk with searched := walk.searched + 1 } hanchor unfound last ?_
        intro k first
        have := far (k + 1) (by simp [List.findIdx?_cons, isAnchor, first])
        simp only
        omega
      · rw [decide_eq_false last] at visited
        rw [run_cons_of_stop visited]
        exact ⟨unfound, rfl⟩

end Search

/-- A walk without anchor leaves its hidden frames out, if its budget covers them and more. -/
theorem run_hidden (walk : Walk) (noAnchor : walk.anchor = none)
    (hbudget : walk.hidden < walk.budget) (writer : Writer) (frames : List Frame) :
    (walk.run false writer frames).writer =
      ({ walk with hidden := 0, budget := walk.budget - walk.hidden }.run false writer
        (frames.drop walk.hidden)).writer := by
  -- A hidden frame is taken off the budget too, so what is left of it behind them stays the same.
  induction frames generalizing walk with
  | nil => simp [run]
  | cons frame rest ih =>
    cases hhidden : walk.hidden with
    | zero => rw [Nat.sub_zero, List.drop_zero, ← hhidden]
    | succ hidden =>
      have visited : walk.visit writer frame =
          ({ walk with hidden := hidden, budget := walk.budget - 1 }, writer, true) := by
        have : 0 < walk.budget - 1 := by omega
        simp [visit, visitBy, noAnchor, hhidden, this]
      rw [(run_cons_of_go visited rest).2, List.drop_succ_cons,
        ih { walk with hidden := hidden, budget := walk.budget - 1 } noAnchor
          (by simp only; omega)]
      have spent : walk.budget - 1 - hidden = walk.budget - (hidden + 1) := by omega
      simp only [spent]

end Callstack.Walk
