import Callstack.Proofs.Walk
import Mathlib.Data.Nat.Find

/-!
# Walks stop by themselves

A damaged stack may have no end, so a walk must not rely on its walker to stop. Every visit after
which a walk wants another frame takes away some of its patience: while it searches for the anchor
that is the rest of the search together with the budget behind the anchor, and afterwards the budget
that is left. So the walk stops.

When it stops is said in terms of the frames alone: the first frame at which there is a reason to
stop. Frames are counted from zero.

## Main definitions

* `Walk.after`, `Walk.visitAt` — an endless stack up to a frame, and the visit of that frame
* `Walk.StopsAt` — the first visit after which the walk wants no other frame
* `Walk.patience` — how many frames a walk visits at most
* `Walk.Reason` — why a walk stops at a frame

## Main results

* `patience_visit_lt` — a visit costs patience, or the walk stops
* `exists_stopsAt` — every walk stops, before its patience ends
* `anchored_goesOn_eq_false_iff`, `fixed_goesOn_eq_false_iff` — up to its end, a walk goes on
  exactly as long as there is no reason to stop
* `stops_for_first_reason` — all of this for both kinds of walk
-/

namespace Callstack

open Trace (Writer)

namespace Walk

/-! ### Endless stacks -/

/-- A walk over the frames of an endless stack in front of one, whatever it answers. -/
def after (walk : Walk) (writer : Writer) (stack : Nat → Frame) (n : Nat) : Pass :=
  walk.run true writer ((List.range n).map stack)

/-- The visit of a frame of an endless stack, behind those in front of it. -/
def visitAt (walk : Walk) (writer : Writer) (stack : Nat → Frame) (n : Nat) :
    Walk × Writer × Bool :=
  (walk.after writer stack n).walk.visit (walk.after writer stack n).writer (stack n)

/-- Whether a walk wants another frame after one of an endless stack. -/
def goesOn (walk : Walk) (writer : Writer) (stack : Nat → Frame) (n : Nat) : Bool :=
  (walk.visitAt writer stack n).2.2

/-- The first visit after which a walk wants no other frame. -/
def StopsAt (walk : Walk) (writer : Writer) (stack : Nat → Frame) (n : Nat) : Prop :=
  walk.goesOn writer stack n = false ∧ ∀ m < n, walk.goesOn writer stack m = true

/-- A stubborn walker reports the second part of the frames behind the first one. -/
theorem run_append (walk : Walk) (writer : Writer) (front back : List Frame) :
    let pass := walk.run true writer front
    (walk.run true writer (front ++ back)).walk = (pass.walk.run true pass.writer back).walk ∧
      (walk.run true writer (front ++ back)).writer =
        (pass.walk.run true pass.writer back).writer := by
  induction front generalizing walk writer with
  | nil => exact ⟨rfl, rfl⟩
  | cons frame rest ih =>
    simp only [List.cons_append, run, Bool.or_true, if_true]
    exact ih _ _

section After

variable (walk : Walk) (writer : Writer) (stack : Nat → Frame)

theorem after_succ (n : Nat) :
    (walk.after writer stack (n + 1)).walk = (walk.visitAt writer stack n).1 ∧
      (walk.after writer stack (n + 1)).writer = (walk.visitAt writer stack n).2.1 := by
  have split := run_append walk writer ((List.range n).map stack) [stack n]
  rw [← List.map_singleton, ← List.map_append, ← List.range_succ] at split
  simp only [List.map_singleton, run, Bool.or_true, if_true] at split
  exact split

end After

/-! ### One visit -/

section Visit

variable (walk : Walk) (writer : Writer) (ip : Address) (frame : Frame)

/-- A walk that hides frames searches for its anchor or counts them off. -/
theorem hides_of_not_isPastHidden {walk : Walk} (hides : ¬walk.IsPastHidden) :
    (∃ anchor, walk.anchor = some anchor ∧ walk.foundAnchor = false) ∨
      walk.anchor = none ∧ 0 < walk.hidden := by
  unfold IsPastHidden at hides
  cases anchor : walk.anchor with
  | some address =>
    rw [anchor] at hides
    exact .inl ⟨address, rfl, Bool.eq_false_iff.mpr hides⟩
  | none =>
    rw [anchor] at hides
    exact .inr ⟨rfl, Nat.pos_of_ne_zero hides⟩

/-- A frame that is counted off counts for the budget as well. -/
theorem visit_of_hidden {walk : Walk} (noAnchor : walk.anchor = none) (hides : 0 < walk.hidden)
    (writer : Writer) (frame : Frame) :
    walk.visit writer frame =
      ({ walk with hidden := walk.hidden - 1, budget := walk.budget - 1 }, writer,
        decide (1 < walk.budget)) := by
  have more : 0 < walk.budget - 1 ↔ 1 < walk.budget := by omega
  simp [visit, visitBy, noAnchor, hides, more]

/-- A frame behind the hidden ones ends the walk if it is the last one of the budget, or if it is
not skipped and there is no address or no more room. -/
theorem visitShown_stops_iff :
    (walk.visitShown writer ip).2.2 = false ↔
      walk.budget ≤ 1 ∨ walk.skip = 0 ∧
        (ip.isNull = true ∨ (walk.visitShown writer ip).2.1.isFull = true) := by
  have isLast : ¬0 < walk.budget - 1 ↔ walk.budget ≤ 1 := by omega
  rcases visitShown_cases walk writer ip with ⟨spent, visits⟩ | ⟨positive, skips, visits⟩ |
    ⟨positive, noSkip, ends, visits⟩ | ⟨positive, noSkip, notNull, notFull, visits⟩
  · simp [visits, spent]
  · have notStored : walk.skip ≠ 0 := Nat.ne_of_gt skips
    simp only [visits, decide_eq_false_iff_not, isLast, notStored, false_and, or_false]
  · rw [visits]
    simp only [true_iff]
    exact .inr ⟨noSkip, ends⟩
  · simp only [visits, Writer.snd_push, Bool.and_eq_false_iff, Bool.not_eq_false',
      decide_eq_false_iff_not, isLast, noSkip, notNull, true_and, Bool.false_eq_true, false_or]
    exact or_comm

/-- As long as the walk goes on, a frame behind the hidden ones takes one off its counters. -/
theorem visitShown_of_goesOn (goesOn : (walk.visitShown writer ip).2.2 = true) :
    1 < walk.budget ∧
      (walk.visitShown writer ip).1 =
        { walk with budget := walk.budget - 1, skip := walk.skip - 1 } := by
  have more : 1 < walk.budget := by
    by_contra isLast
    have stops := (visitShown_stops_iff walk writer ip).mpr (.inl (Nat.le_of_not_lt isLast))
    exact absurd goesOn (Bool.eq_false_iff.mp stops)
  refine ⟨more, ?_⟩
  rcases visitShown_cases walk writer ip with ⟨spent, -⟩ | ⟨-, -, visits⟩ |
    ⟨-, noSkip, -, visits⟩ | ⟨-, noSkip, -, -, visits⟩
  · omega
  · rw [visits]
  · rw [visits, noSkip]
  · rw [visits, noSkip]

end Visit

/-! ### Patience -/

/-- How many frames a walk visits at most. One is visited in any case. -/
def patience (walk : Walk) : Nat :=
  match walk.anchor with
  | some _ =>
    if walk.foundAnchor then max 1 walk.budget
    else max 1 (searchLimit - walk.searched) + (walk.budget - internalFrames)
  | none => max 1 walk.budget

theorem patience_pos (walk : Walk) : 0 < walk.patience := by
  unfold patience
  split
  · split
    all_goals omega
  · omega

theorem patience_anchored (anchor : Address) (requested skip : Nat) :
    (anchored anchor requested skip).patience = 32 + (requested - 2) := rfl

theorem patience_fixed (requested skip : Nat) :
    (fixed requested skip).patience = max 1 requested := rfl

theorem patience_of_isPastHidden {walk : Walk} (past : walk.IsPastHidden) :
    walk.patience = max 1 walk.budget := by
  unfold IsPastHidden at past
  unfold patience
  cases anchor : walk.anchor with
  | some address =>
    simp only [anchor] at past
    simp only [if_pos past]
  | none => rfl

/-- A visit costs patience, unless the walk wants no other frame after it. -/
theorem patience_visit_lt (walk : Walk) (writer : Writer) (frame : Frame)
    (goesOn : (walk.visit writer frame).2.2 = true) :
    (walk.visit writer frame).1.patience < walk.patience := by
  by_cases past : walk.IsPastHidden
  · rw [visit_of_isPastHidden past] at goesOn ⊢
    obtain ⟨more, next⟩ := visitShown_of_goesOn walk writer frame.ip goesOn
    have stays : { walk with budget := walk.budget - 1, skip := walk.skip - 1 }.IsPastHidden := past
    rw [next, patience_of_isPastHidden past, patience_of_isPastHidden stays]
    simp only
    omega
  · rcases hides_of_not_isPastHidden past with ⟨anchor, hanchor, unfound⟩ | ⟨noAnchor, hides⟩
    · by_cases isAnchor : frame.symbol = anchor
      · -- The search is over, and what is left of the patience is the budget behind the anchor.
        rw [visit_of_anchor hanchor unfound writer isAnchor] at goesOn ⊢
        have more : 0 < walk.budget - internalFrames := of_decide_eq_true goesOn
        simp only [patience, hanchor, unfound, Bool.false_eq_true, if_true, if_false]
        omega
      · rw [visit_of_not_anchor hanchor unfound writer isAnchor] at goesOn ⊢
        have more : walk.searched + 1 < searchLimit := of_decide_eq_true goesOn
        simp only [patience, hanchor, unfound, Bool.false_eq_true, if_false]
        omega
    · rw [visit_of_hidden noAnchor hides] at goesOn ⊢
      have more : 1 < walk.budget := of_decide_eq_true goesOn
      simp only [patience, noAnchor]
      omega

section Stop

variable (walk : Walk) (writer : Writer) (stack : Nat → Frame)

/-- The frames that have been visited are paid for with patience. -/
theorem patience_after_add_le {n : Nat} (goingOn : ∀ m < n, walk.goesOn writer stack m = true) :
    (walk.after writer stack n).walk.patience + n ≤ walk.patience := by
  induction n with
  | zero => exact Nat.le_refl _
  | succ n ih =>
    have earlier := ih fun m before => goingOn m (Nat.lt_succ_of_lt before)
    have costs := patience_visit_lt _ _ _ (goingOn n (Nat.lt_succ_self n))
    rw [(after_succ walk writer stack n).1]
    unfold visitAt
    omega

/-- Every walk stops, and visits no more frames than it has patience for. -/
theorem exists_stopsAt : ∃ last < walk.patience, walk.StopsAt writer stack last := by
  have stops : ∃ n, n < walk.patience ∧ walk.goesOn writer stack n = false := by
    -- Otherwise all patience is paid for visits, but some is left to every walk.
    by_contra never
    have goingOn : ∀ m < walk.patience, walk.goesOn writer stack m = true := by
      intro m near
      rw [← Bool.not_eq_false]
      exact fun answer => never ⟨m, near, answer⟩
    have paid := patience_after_add_le walk writer stack goingOn
    have left := patience_pos (walk.after writer stack walk.patience).walk
    omega
  classical
  obtain ⟨near, isLast⟩ := Nat.find_spec stops
  refine ⟨Nat.find stops, near, isLast, fun m before => ?_⟩
  rw [← Bool.not_eq_false]
  exact fun answer => Nat.find_min stops before ⟨Nat.lt_trans before near, answer⟩

end Stop

/-! ### Reasons -/

/-- The first frame of an endless stack that is in a function. -/
def IsFirst (function : Address) (stack : Nat → Frame) (k : Nat) : Prop :=
  (stack k).symbol = function ∧ ∀ i < k, (stack i).symbol ≠ function

/-- The walk of a pass, which looks for an anchor or hides two frames. -/
def start (anchor : Option Address) (requested skip : Nat) : Walk :=
  match anchor with
  | some anchor => .anchored anchor requested skip
  | none => .fixed requested skip

/-- A frame behind the hidden and the skipped ones. -/
def IsToStore (stack : Nat → Frame) (skip : Nat) (anchor : Option Address) (n : Nat) : Prop :=
  match anchor with
  | some anchor => ∃ k, IsFirst anchor stack k ∧ k + skip < n
  | none => 2 + skip ≤ n

/-- Why a walk stops at a frame of an endless stack. -/
inductive Reason (writer : Writer) (stack : Nat → Frame) (requested skip : Nat) :
    Option Address → Nat → Prop
  /-- Enough frames have been searched, and none of them is the anchor. -/
  | unfound {anchor : Address} {n : Nat} (absent : ∀ i ≤ n, (stack i).symbol ≠ anchor)
      (limit : 32 ≤ n + 1) : Reason writer stack requested skip (some anchor) n
  /-- The budget behind the anchor is used up. -/
  | spentBehind {anchor : Address} {k n : Nat} (isFirst : IsFirst anchor stack k)
      (spent : k + (requested - 2) ≤ n) : Reason writer stack requested skip (some anchor) n
  /-- The budget of a walk without anchor is used up. -/
  | spent {n : Nat} (spent : requested ≤ n + 1) : Reason writer stack requested skip none n
  /-- A frame that is to be stored has no address. -/
  | ended {anchor : Option Address} {n : Nat} (isToStore : IsToStore stack skip anchor n)
      (isNull : (stack n).ip.isNull = true) : Reason writer stack requested skip anchor n
  /-- There is no more room behind a frame that is to be stored. -/
  | full {anchor : Option Address} {n : Nat} (isToStore : IsToStore stack skip anchor n)
      (isFull : ((start anchor requested skip).visitAt writer stack n).2.1.isFull = true) :
      Reason writer stack requested skip anchor n

section Behind

variable {walk : Walk} {writer : Writer} {stack : Nat → Frame} {shown n : Nat}

/-- Behind the hidden frames every visit takes one off the counters. -/
theorem after_of_isPastHidden (past : (walk.after writer stack shown).walk.IsPastHidden)
    (behind : shown ≤ n) (goingOn : ∀ m < n, walk.goesOn writer stack m = true) :
    (walk.after writer stack n).walk =
      { (walk.after writer stack shown).walk with
        budget := (walk.after writer stack shown).walk.budget - (n - shown)
        skip := (walk.after writer stack shown).walk.skip - (n - shown) } := by
  induction n, behind using Nat.le_induction with
  | base => simp
  | succ n behind ih =>
    have earlier := ih fun m before => goingOn m (Nat.lt_succ_of_lt before)
    have stays : (walk.after writer stack n).walk.IsPastHidden := by
      rw [earlier]
      exact past
    have count : n + 1 - shown = n - shown + 1 := by omega
    have wanted := goingOn n (Nat.lt_succ_self n)
    rw [goesOn, visitAt, visit_of_isPastHidden stays] at wanted
    rw [(after_succ walk writer stack n).1, visitAt, visit_of_isPastHidden stays,
      (visitShown_of_goesOn _ _ _ wanted).2, earlier, count, ← Nat.sub_sub, ← Nat.sub_sub]

/-- When a walk stops behind the hidden frames. -/
theorem goesOn_eq_false_iff_of_isPastHidden
    (past : (walk.after writer stack shown).walk.IsPastHidden)
    (behind : shown ≤ n) (goingOn : ∀ m < n, walk.goesOn writer stack m = true) :
    walk.goesOn writer stack n = false ↔
      (walk.after writer stack shown).walk.budget ≤ n - shown + 1 ∨
        (walk.after writer stack shown).walk.skip ≤ n - shown ∧
          ((stack n).ip.isNull = true ∨ (walk.visitAt writer stack n).2.1.isFull = true) := by
  have counters := after_of_isPastHidden past behind goingOn
  have stays : (walk.after writer stack n).walk.IsPastHidden := by
    rw [counters]
    exact past
  unfold goesOn visitAt
  rw [visit_of_isPastHidden stays, visitShown_stops_iff]
  simp only [counters, Nat.sub_le_iff_le_add, Nat.sub_eq_zero_iff_le, Nat.add_comm 1]

end Behind

section Anchored

variable {anchor : Address} {stack : Nat → Frame} {k n : Nat}
variable (requested skip : Nat) (writer : Writer)

theorem IsFirst.eq {j : Nat} (first : IsFirst anchor stack j) (other : IsFirst anchor stack k) :
    j = k := by
  rcases Nat.lt_trichotomy j k with before | same | behind
  · exact absurd first.1 (other.2 j before)
  · exact same
  · exact absurd other.1 (first.2 k behind)

theorem exists_isFirst (isAnchor : (stack n).symbol = anchor) :
    ∃ k ≤ n, IsFirst anchor stack k := by
  have some : ∃ k, (stack k).symbol = anchor := ⟨n, isAnchor⟩
  classical
  exact ⟨Nat.find some, Nat.find_min' some isAnchor, Nat.find_spec some,
    fun i before => Nat.find_min some before⟩

/-- In front of the anchor the walk counts the frames that it searches, and nothing else changes. -/
theorem after_of_absent (absent : ∀ i < n, (stack i).symbol ≠ anchor) :
    ((anchored anchor requested skip).after writer stack n).walk =
        { anchored anchor requested skip with searched := n } ∧
      ((anchored anchor requested skip).after writer stack n).writer = writer := by
  induction n with
  | zero => exact ⟨rfl, rfl⟩
  | succ n ih =>
    obtain ⟨searching, same⟩ := ih fun i before => absent i (Nat.lt_succ_of_lt before)
    rw [(after_succ _ _ _ n).1, (after_succ _ _ _ n).2, visitAt, searching, same,
      visit_of_not_anchor rfl rfl writer (absent n (Nat.lt_succ_self n))]
    exact ⟨rfl, rfl⟩

/-- The search is given up at its limit. -/
theorem goesOn_of_absent (absent : ∀ i ≤ n, (stack i).symbol ≠ anchor) :
    (anchored anchor requested skip).goesOn writer stack n = decide (n + 1 < searchLimit) := by
  obtain ⟨searching, same⟩ :=
    after_of_absent requested skip writer fun i before => absent i (Nat.le_of_lt before)
  rw [goesOn, visitAt, searching, same,
    visit_of_not_anchor rfl rfl writer (absent n (Nat.le_refl n))]

/-- Behind the anchor, wherever it is, the budget is that of the frames to be stored or skipped. -/
theorem visitAt_of_isFirst (first : IsFirst anchor stack k) :
    (anchored anchor requested skip).visitAt writer stack k =
      ({ anchored anchor requested skip with
          foundAnchor := true
          budget := requested - internalFrames
          searched := k + 1 },
        writer, decide (0 < requested - internalFrames)) := by
  obtain ⟨searching, same⟩ := after_of_absent requested skip writer first.2
  rw [visitAt, searching, same, visit_of_anchor rfl rfl writer first.1]
  rfl

/-- When a walk stops behind its anchor. -/
theorem goesOn_eq_false_iff_of_isFirst (first : IsFirst anchor stack k) (upTo : k ≤ n)
    (goingOn : ∀ m < n, (anchored anchor requested skip).goesOn writer stack m = true) :
    (anchored anchor requested skip).goesOn writer stack n = false ↔
      k + (requested - 2) ≤ n ∨ k + skip < n ∧ ((stack n).ip.isNull = true ∨
        ((anchored anchor requested skip).visitAt writer stack n).2.1.isFull = true) := by
  have here := visitAt_of_isFirst requested skip writer first
  rcases Nat.eq_or_lt_of_le upTo with rfl | behind
  · have answer : (anchored anchor requested skip).goesOn writer stack k =
        decide (0 < requested - internalFrames) := congrArg (fun visit => visit.2.2) here
    have notBehind : ¬k + skip < k := by omega
    rw [answer, decide_eq_false_iff_not, internalFrames]
    simp only [notBehind, false_and, or_false]
    omega
  · -- From the frame behind the anchor on, only the counters matter.
    have found := (after_succ (anchored anchor requested skip) writer stack k).1
    rw [here] at found
    have past :
        ((anchored anchor requested skip).after writer stack (k + 1)).walk.IsPastHidden := by
      rw [found]
      rfl
    rw [goesOn_eq_false_iff_of_isPastHidden past behind goingOn, found]
    have spent : requested - internalFrames ≤ n - (k + 1) + 1 ↔ k + (requested - 2) ≤ n := by
      rw [internalFrames]
      omega
    have notSkipped : skip ≤ n - (k + 1) ↔ k + skip < n := by omega
    simp only [anchored, spent, notSkipped]

theorem isToStore_iff_of_isFirst (first : IsFirst anchor stack k) :
    IsToStore stack skip (some anchor) n ↔ k + skip < n := by
  constructor
  · rintro ⟨j, isFirst, behind⟩
    rwa [isFirst.eq first] at behind
  · exact fun behind => ⟨k, first, behind⟩

/-- Up to its end a walk with an anchor goes on exactly as long as there is no reason to stop. -/
theorem anchored_goesOn_eq_false_iff
    (goingOn : ∀ m < n, (anchored anchor requested skip).goesOn writer stack m = true) :
    (anchored anchor requested skip).goesOn writer stack n = false ↔
      Reason writer stack requested skip (some anchor) n := by
  by_cases absent : ∀ i ≤ n, (stack i).symbol ≠ anchor
  · -- All other reasons need the anchor.
    have notBehind : ∀ k ≤ n, ¬IsFirst anchor stack k :=
      fun k upTo first => absent k upTo first.1
    rw [goesOn_of_absent requested skip writer absent, decide_eq_false_iff_not, Nat.not_lt]
    constructor
    · exact .unfound absent
    · intro reason
      cases reason with
      | unfound _ limit => exact limit
      | spentBehind isFirst spent => exact absurd isFirst (notBehind _ (by omega))
      | ended isToStore _ =>
        obtain ⟨k, isFirst, behind⟩ := isToStore
        exact absurd isFirst (notBehind k (by omega))
      | full isToStore _ =>
        obtain ⟨k, isFirst, behind⟩ := isToStore
        exact absurd isFirst (notBehind k (by omega))
  · push Not at absent
    obtain ⟨i, seen, isAnchor⟩ := absent
    obtain ⟨k, notBehind, first⟩ := exists_isFirst isAnchor
    have toStore : IsToStore stack skip (some anchor) n ↔ k + skip < n :=
      isToStore_iff_of_isFirst skip first
    rw [goesOn_eq_false_iff_of_isFirst requested skip writer first (Nat.le_trans notBehind seen)
      goingOn, ← toStore]
    constructor
    · rintro (spent | ⟨isToStore, isNull | isFull⟩)
      · exact .spentBehind first spent
      · exact .ended isToStore isNull
      · exact .full isToStore isFull
    · intro reason
      cases reason with
      | unfound absent limit => exact absurd isAnchor (absent i seen)
      | spentBehind isFirst spent => exact .inl (isFirst.eq first ▸ spent)
      | ended isToStore isNull => exact .inr ⟨isToStore, .inl isNull⟩
      | full isToStore isFull => exact .inr ⟨isToStore, .inr isFull⟩

end Anchored

section Fixed

/-- As long as frames are hidden, both counters go down by one at each of them. -/
theorem after_of_le_hidden {walk : Walk} (noAnchor : walk.anchor = none) (writer : Writer)
    (stack : Nat → Frame) {n : Nat} (upTo : n ≤ walk.hidden) :
    (walk.after writer stack n).walk =
      { walk with hidden := walk.hidden - n, budget := walk.budget - n } := by
  induction n with
  | zero => rfl
  | succ n ih =>
    have earlier := ih (Nat.le_of_succ_le upTo)
    have hides : 0 < (walk.after writer stack n).walk.hidden := by
      rw [earlier]
      exact Nat.sub_pos_of_lt upTo
    have still : (walk.after writer stack n).walk.anchor = none := by
      rw [earlier]
      exact noAnchor
    rw [(after_succ walk writer stack n).1, visitAt, visit_of_hidden still hides, earlier]
    simp only [Nat.sub_sub]

variable {requested skip : Nat} {writer : Writer} {stack : Nat → Frame} {n : Nat}

theorem goesOn_of_lt_two (hides : n < 2) :
    (fixed requested skip).goesOn writer stack n = decide (n + 1 < requested) := by
  have counters : ((fixed requested skip).after writer stack n).walk =
      { fixed requested skip with hidden := 2 - n, budget := requested - n } :=
    after_of_le_hidden rfl writer stack (Nat.le_of_lt hides)
  have more : 1 < requested - n ↔ n + 1 < requested := by omega
  rw [goesOn, visitAt, counters, visit_of_hidden rfl (Nat.sub_pos_of_lt hides)]
  simp only [more]

/-- Up to its end a walk without anchor goes on exactly as long as there is no reason to stop. -/
theorem fixed_goesOn_eq_false_iff
    (goingOn : ∀ m < n, (fixed requested skip).goesOn writer stack m = true) :
    (fixed requested skip).goesOn writer stack n = false ↔
      Reason writer stack requested skip none n := by
  have stops : (fixed requested skip).goesOn writer stack n = false ↔
      requested ≤ n + 1 ∨ 2 + skip ≤ n ∧ ((stack n).ip.isNull = true ∨
        ((fixed requested skip).visitAt writer stack n).2.1.isFull = true) := by
    rcases Nat.lt_or_ge n 2 with hides | behind
    · -- A hidden frame is never to be stored, so only the budget can end the walk.
      have notBehind : ¬2 + skip ≤ n := by omega
      rw [goesOn_of_lt_two hides, decide_eq_false_iff_not, Nat.not_lt]
      simp only [notBehind, false_and, or_false]
    · have counters : ((fixed requested skip).after writer stack 2).walk =
          { fixed requested skip with hidden := 0, budget := requested - 2 } :=
        after_of_le_hidden rfl writer stack (Nat.le_refl 2)
      have past : ((fixed requested skip).after writer stack 2).walk.IsPastHidden := by
        rw [counters]
        rfl
      rw [goesOn_eq_false_iff_of_isPastHidden past behind goingOn, counters]
      have spent : requested - 2 ≤ n - 2 + 1 ↔ requested ≤ n + 1 := by omega
      have notSkipped : skip ≤ n - 2 ↔ 2 + skip ≤ n := by omega
      simp only [fixed, spent, notSkipped]
  rw [stops]
  constructor
  · rintro (spent | ⟨isToStore, isNull | isFull⟩)
    · exact .spent spent
    · exact .ended isToStore isNull
    · exact .full isToStore isFull
  · intro reason
    cases reason with
    | spent spent => exact .inl spent
    | ended isToStore isNull => exact .inr ⟨isToStore, .inl isNull⟩
    | full isToStore isFull => exact .inr ⟨isToStore, .inr isFull⟩

end Fixed

/-- A walk stops at the first frame at which there is a reason, if it has a reason exactly when it
does not go on. -/
theorem StopsAt.reason_iff {walk : Walk} {writer : Writer} {stack : Nat → Frame} {last : Nat}
    {reason : Nat → Prop} (stops : walk.StopsAt writer stack last)
    (reasons : ∀ n, (∀ m < n, walk.goesOn writer stack m = true) →
      (walk.goesOn writer stack n = false ↔ reason n)) :
    ∀ n ≤ last, reason n ↔ n = last := by
  intro n upTo
  rw [← reasons n fun m before => stops.2 m (Nat.lt_of_lt_of_le before upTo)]
  constructor
  · intro answer
    by_contra notLast
    have goesOn := stops.2 n (Nat.lt_of_le_of_ne upTo notLast)
    rw [answer] at goesOn
    exact Bool.noConfusion goesOn
  · rintro rfl
    exact stops.1

/-- Every walk over an endless stack stops, whatever its writer holds: with an anchor at the latest
after the frames that are searched for it and the budget that is left behind it, and without one
after the budget. It does so at the first frame at which there is a reason, and for no other one. A
walk that does not meet its anchor stops at the last frame that it searches, where it would still
have found it. -/
theorem stops_for_first_reason (writer : Writer) (stack : Nat → Frame) (requested skip : Nat) :
    (∀ anchor, ∃ last, (anchored anchor requested skip).StopsAt writer stack last ∧
        last + 1 ≤ 32 + (requested - 2) ∧
        (∀ n ≤ last, Reason writer stack requested skip (some anchor) n ↔ n = last) ∧
        ((∀ i < 32, (stack i).symbol ≠ anchor) → last + 1 = 32) ∧
        ∀ k < 32, IsFirst anchor stack k → k ≤ last ∧
          ((anchored anchor requested skip).after writer stack (k + 1)).walk.foundAnchor = true) ∧
      ∃ last, (fixed requested skip).StopsAt writer stack last ∧
        last + 1 ≤ max 1 requested ∧
        ∀ n ≤ last, Reason writer stack requested skip none n ↔ n = last := by
  constructor
  · intro anchor
    obtain ⟨last, near, stops⟩ := exists_stopsAt (anchored anchor requested skip) writer stack
    rw [patience_anchored] at near
    have reasons := stops.reason_iff fun n => anchored_goesOn_eq_false_iff requested skip writer
    -- Until the anchor is met, nothing but the end of the search stops the walk.
    have searches : (∀ i ≤ last, (stack i).symbol ≠ anchor) → 32 ≤ last + 1 := by
      intro absent
      have answer := stops.1
      rw [goesOn_of_absent requested skip writer absent, decide_eq_false_iff_not] at answer
      exact Nat.le_of_not_lt answer
    refine ⟨last, stops, near, reasons, ?absent, ?found⟩
    case absent =>
      intro absent
      have upTo : 31 ≤ last := by
        by_contra before
        have := searches fun i upTo => absent i (by omega)
        omega
      -- The last frame of the search is a reason, and there is only one frame with a reason.
      have isLast := (reasons 31 upTo).mp
        (.unfound (fun i upTo => absent i (Nat.lt_succ_of_le upTo)) (Nat.le_refl 32))
      omega
    case found =>
      intro k near first
      constructor
      · by_contra before
        have := searches fun i upTo => first.2 i (by omega)
        omega
      · rw [(after_succ _ writer stack k).1, visitAt_of_isFirst requested skip writer first]
  · obtain ⟨last, near, stops⟩ := exists_stopsAt (fixed requested skip) writer stack
    rw [patience_fixed] at near
    exact ⟨last, stops, near, stops.reason_iff fun n => fixed_goesOn_eq_false_iff⟩

/-- A stack that repeats one frame for ever is given up at the last searched frame, and an anchor at
just that frame is found. -/
theorem stops_for_first_reason_at_limit :
    let writer := Writer.withCapacity 4
    let walk := anchored ⟨0x500⟩ 9 1
    let looping : Nat → Frame := fun _ => ⟨⟨0x11⟩, ⟨0x10⟩⟩
    let late : Nat → Frame := fun n => ⟨⟨0x11⟩, if n = 31 then ⟨0x500⟩ else ⟨0x10⟩⟩
    (∀ i < 32, (looping i).symbol ≠ ⟨0x500⟩) ∧ walk.StopsAt writer looping 31 ∧
      IsFirst ⟨0x500⟩ late 31 ∧ (walk.after writer late 32).walk.foundAnchor = true := by
  intro writer walk looping late
  have absent : ∀ i < 32, (looping i).symbol ≠ ⟨0x500⟩ := fun _ _ => by decide
  have first : IsFirst ⟨0x500⟩ late 31 := by
    refine ⟨by decide, fun i before => ?_⟩
    simp only [late, if_neg (Nat.ne_of_lt before)]
    decide
  obtain ⟨last, stops, -, -, givesUp, -⟩ := (stops_for_first_reason writer looping 9 1).1 ⟨0x500⟩
  obtain ⟨_, -, -, -, -, finds⟩ := (stops_for_first_reason writer late 9 1).1 ⟨0x500⟩
  have isLast : last = 31 := Nat.succ_injective (givesUp absent)
  exact ⟨absent, isLast ▸ stops, first, (finds 31 (by decide) first).2⟩

end Walk

end Callstack
