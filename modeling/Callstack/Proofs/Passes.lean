import Callstack.Proofs.Walk
import Mathlib.Data.List.Induction

/-!
# Passes over one writer

A writer may be filled in several passes, each with a walk of its own, and a walker may report
frames that the walk has not asked for. The counters of a walk then say nothing about how full the
writer is. Still a visit does only one of two things to the writer: nothing, or it pushes the
visited address, which is not null and fits.

That a visit never pushes to a full writer does not show in its result, since such a push changes
nothing. So a visit is compared with one for which such a push is a fault.

## Main definitions

* `Trace.Writer.pushChecked`, `Walk.visitChecked` — a push to a full writer is a fault
* `Walk.Round`, `Walk.Round.pass` — a pass to be made, and the pass over a writer
* `Walk.fill` — the writer after several passes
* `Walk.visited` — the addresses that were visited since the last reset

## Main results

* `visit_stores` — a visit pushes the visited address or nothing
* `holds_visit`, `holds_run` — what a writer holds after a visit and after a whole pass
* `visitChecked_eq` — no visit pushes to a full writer
* `run_of_no_anchor` — nothing is stored in front of the anchor
* `holds_fill` — a writer holds some of the visited addresses, in order
* `visit_after_passes` — all of this at any time of any passes
-/

namespace Callstack

open Trace (Writer)

/-- Store a frame, where it is a fault if the writer is full. -/
def Trace.Writer.pushChecked (writer : Writer) (a : Address) : Option (Writer × Bool) :=
  if writer.isFull then none else some (writer.push a)

namespace Walk

/-- Visit one frame, where a push to a full writer is a fault. -/
def visitChecked (walk : Walk) (writer : Writer) (frame : Frame) :
    Option (Walk × Writer × Bool) :=
  walk.visitBy Trace.Writer.pushChecked writer frame

/-! ### One visit -/

section Visit

variable (walk : Walk) (writer : Writer) (ip : Address) (frame : Frame)

/-- A frame behind the hidden ones is pushed, if it fits and is not null, or nothing is done. -/
theorem visitShown_stores :
    (walk.visitShown writer ip).2.1 = writer ∨
      ip.isNull = false ∧ writer.isFull = false ∧
        (walk.visitShown writer ip).2.1 = (writer.push ip).1 := by
  rcases visitShown_cases walk writer ip with ⟨-, visits⟩ | ⟨-, -, visits⟩ | ⟨-, -, -, visits⟩ |
    ⟨-, -, notNull, notFull, visits⟩
  · exact .inl (by rw [visits])
  · exact .inl (by rw [visits])
  · exact .inl (by rw [visits])
  · exact .inr ⟨notNull, notFull, by rw [visits]⟩

/-- As long as frames are hidden nothing is stored, so it does not matter how. -/
theorem exists_visitBy_eq {walk : Walk} (hides : ¬walk.IsPastHidden) (writer : Writer)
    (frame : Frame) :
    ∃ next goesOn, ∀ {m : Type → Type} [Monad m] (push : Writer → Address → m (Writer × Bool)),
      walk.visitBy push writer frame = pure (next, writer, goesOn) := by
  unfold IsPastHidden at hides
  unfold visitBy
  cases anchor : walk.anchor with
  | some address =>
    rw [anchor] at hides
    by_cases isAnchor : frame.symbol = address
    · exact ⟨_, _, fun _ => (if_neg hides).trans (if_pos isAnchor)⟩
    · exact ⟨_, _, fun _ => (if_neg hides).trans (if_neg isAnchor)⟩
  | none =>
    rw [anchor] at hides
    exact ⟨_, _, fun _ => if_pos (Nat.pos_of_ne_zero hides)⟩

theorem visit_of_not_isPastHidden {walk : Walk} (hides : ¬walk.IsPastHidden) (writer : Writer)
    (frame : Frame) : (walk.visit writer frame).2.1 = writer := by
  obtain ⟨next, goesOn, visits⟩ := exists_visitBy_eq hides writer frame
  rw [visit, visits]
  rfl

/-- A visit pushes the visited address, if it fits and is not null, or does nothing to the
writer. -/
theorem visit_stores :
    (walk.visit writer frame).2.1 = writer ∨
      frame.ip.isNull = false ∧ writer.isFull = false ∧
        (walk.visit writer frame).2.1 = (writer.push frame.ip).1 := by
  by_cases past : walk.IsPastHidden
  · rw [visit_of_isPastHidden past]
    exact visitShown_stores walk writer frame.ip
  · exact .inl (visit_of_not_isPastHidden past writer frame)

theorem visitShownBy_pushChecked :
    walk.visitShownBy Writer.pushChecked writer ip = some (walk.visitShown writer ip) := by
  unfold visitShown visitShownBy
  dsimp only
  split_ifs with spent skips ends
  · rfl
  · rfl
  · rfl
  · -- The writer has just been found not to be full.
    rw [Bool.or_eq_true, not_or, Bool.not_eq_true, Bool.not_eq_true] at ends
    rw [Writer.pushChecked, ends.2]
    rfl

/-- No visit pushes to a full writer. -/
theorem visitChecked_eq : walk.visitChecked writer frame = some (walk.visit writer frame) := by
  rw [visitChecked]
  by_cases past : walk.IsPastHidden
  · rw [visitBy_of_isPastHidden _ past, visit_of_isPastHidden past, visitShownBy_pushChecked]
  · obtain ⟨next, goesOn, visits⟩ := exists_visitBy_eq past writer frame
    rw [visit, visits, visits]
    rfl

end Visit

/-! ### One pass -/

/-- The addresses of frames, without the null ones. -/
def nonNull (frames : List Frame) : List Address :=
  (frames.map Frame.ip).filter fun ip => !ip.isNull

section Pass

variable {writer : Writer} {capacity : Nat} {stored : List Address}

/-- A visit stores the visited address behind the others, or nothing. -/
theorem holds_visit (walk : Walk) (holds : writer.Holds capacity stored) (frame : Frame) :
    ∃ added, (walk.visit writer frame).2.1.Holds capacity (stored ++ added) ∧
      (added = [] ∨ frame.ip.isNull = false ∧ added = [frame.ip]) := by
  -- A visit that pushes has found the writer not to be full, so the frame fits behind the others.
  rcases visit_stores walk writer frame with same | ⟨notNull, notFull, pushes⟩
  · refine ⟨[], ?_, .inl rfl⟩
    rwa [same, List.append_nil]
  · refine ⟨[frame.ip], ?_, .inr ⟨notNull, rfl⟩⟩
    rw [pushes]
    exact (holds.push frame.ip (holds.lt_capacity notFull)).1

/-- A pass stores some of the visited addresses, in order, behind what is there. -/
theorem holds_run (stubborn : Bool) (walk : Walk) (holds : writer.Holds capacity stored)
    (frames : List Frame) :
    ∃ added, (walk.run stubborn writer frames).writer.Holds capacity (stored ++ added) ∧
      added.Sublist (nonNull frames) := by
  -- What is stored grows with every visit, so the induction is over any stored addresses.
  induction frames generalizing walk writer stored with
  | nil =>
    refine ⟨[], ?_, List.nil_sublist _⟩
    rwa [List.append_nil]
  | cons frame rest ih =>
    obtain ⟨added, visits, some_or_none⟩ := holds_visit walk holds frame
    have here : added.Sublist (nonNull [frame]) := by
      rcases some_or_none with rfl | ⟨notNull, rfl⟩
      · exact List.nil_sublist _
      · simp [nonNull, notNull]
    have split : nonNull (frame :: rest) = nonNull [frame] ++ nonNull rest := by
      rw [nonNull, nonNull, nonNull, ← List.filter_append, ← List.map_append,
        List.singleton_append]
    rw [run, split]
    dsimp only
    split_ifs with goesOn
    · obtain ⟨later, runs, isSublist⟩ := ih (walk.visit writer frame).1 visits
      refine ⟨added ++ later, ?_, here.append isSublist⟩
      rwa [← List.append_assoc]
    · exact ⟨added, visits, here.trans (List.sublist_append_left _ _)⟩

end Pass

section Search

variable {walk : Walk} {anchor : Address}

/-- As long as the anchor has not been found, a visit stores nothing, not even the anchor. -/
theorem visit_of_unfound (hanchor : walk.anchor = some anchor) (unfound : walk.foundAnchor = false)
    (writer : Writer) (frame : Frame) : (walk.visit writer frame).2.1 = writer := by
  apply visit_of_not_isPastHidden
  rw [IsPastHidden, hanchor]
  exact Bool.eq_false_iff.mp unfound

/-- A pass that does not come to the anchor stores nothing and goes on searching. -/
theorem run_of_no_anchor (stubborn : Bool) (hanchor : walk.anchor = some anchor)
    (unfound : walk.foundAnchor = false) (writer : Writer) {frames : List Frame}
    (absent : ∀ frame ∈ frames, frame.symbol ≠ anchor) :
    (walk.run stubborn writer frames).walk.anchor = some anchor ∧
      (walk.run stubborn writer frames).walk.foundAnchor = false ∧
      (walk.run stubborn writer frames).writer = writer := by
  induction frames generalizing walk with
  | nil => exact ⟨hanchor, unfound, rfl⟩
  | cons frame rest ih =>
    rw [List.forall_mem_cons] at absent
    rw [run, visit_of_not_anchor hanchor unfound writer absent.1]
    dsimp only
    split_ifs with goesOn
    · exact ih hanchor unfound absent.2
    · exact ⟨hanchor, unfound, rfl⟩

end Search

/-! ### Several passes -/

/-- A pass to be made over a writer. -/
structure Round where
  /-- The function that ends the hidden frames, or `none` when a fixed number is hidden. -/
  anchor : Option Address
  /-- How many frames may be looked at. -/
  requested : Nat
  /-- How many frames are skipped. -/
  skip : Nat
  /-- Whether the writer is reset before the pass. -/
  resets : Bool
  /-- The frames that are reported, whatever the walk answers. -/
  frames : List Frame

namespace Round

variable (round : Round)

/-- The walk that begins a pass. -/
def walk : Walk :=
  match round.anchor with
  | some anchor => .anchored anchor round.requested round.skip
  | none => .fixed round.requested round.skip

/-- The writer with which a pass begins. -/
def opening (writer : Writer) : Writer := if round.resets then writer.reset else writer

/-- The pass over a writer. -/
def pass (writer : Writer) : Pass := round.walk.run true (round.opening writer) round.frames

/-- The addresses visited since the last reset, after those of earlier passes. -/
def visited (earlier : List Address) : List Address :=
  (if round.resets then [] else earlier) ++ nonNull round.frames

/-- A pass stores some of the addresses that were visited since the last reset. -/
theorem holds_pass {writer : Writer} {capacity : Nat} {stored earlier : List Address}
    (holds : writer.Holds capacity stored) (isSublist : stored.Sublist earlier) :
    ∃ after, (round.pass writer).writer.Holds capacity after ∧
      after.Sublist (round.visited earlier) := by
  unfold pass opening visited
  split_ifs with resets
  · obtain ⟨added, runs, later⟩ := holds_run true round.walk holds.reset round.frames
    exact ⟨added, runs, later⟩
  · obtain ⟨added, runs, later⟩ := holds_run true round.walk holds round.frames
    exact ⟨stored ++ added, runs, isSublist.append later⟩

end Round

/-- A new writer after several passes. -/
def fill (capacity : Nat) (rounds : List Round) : Writer :=
  rounds.foldl (fun writer round => (round.pass writer).writer) (.withCapacity capacity)

/-- The addresses that were visited since the last reset. -/
def visited (rounds : List Round) : List Address :=
  rounds.foldl (fun earlier round => round.visited earlier) []

theorem fill_concat (capacity : Nat) (rounds : List Round) (round : Round) :
    fill capacity (rounds ++ [round]) = (round.pass (fill capacity rounds)).writer := by
  rw [fill, List.foldl_append]
  rfl

theorem visited_concat (rounds : List Round) (round : Round) :
    visited (rounds ++ [round]) = round.visited (visited rounds) := by
  rw [visited, List.foldl_append]
  rfl

/-- After any passes a writer holds some of the addresses that were visited since the last
reset. -/
theorem holds_fill (capacity : Nat) (rounds : List Round) :
    ∃ stored, (fill capacity rounds).Holds (max capacity 1) stored ∧
      stored.Sublist (visited rounds) := by
  -- The writer passes from the first round to the last, so the last one is taken off.
  induction rounds using List.reverseRecOn with
  | nil => exact ⟨[], Trace.Writer.holds_withCapacity capacity, List.nil_sublist _⟩
  | append_singleton rounds round ih =>
    obtain ⟨stored, holds, isSublist⟩ := ih
    rw [fill_concat, visited_concat]
    exact round.holds_pass holds isSublist

/-- Whatever passes have been made over a writer, and whatever frames have been reported in the
current one, the next visit does not push to a full writer. It stores nothing or the visited
address, which is not null. The writer has its capacity, uses no more than that, and has some of the
addresses visited since the last reset, in order. Up to the anchor, a walk that looks for one stores
nothing. -/
theorem visit_after_passes (capacity : Nat) (earlier : List Round) (round : Round) (frame : Frame) :
    let opening := round.opening (fill capacity earlier)
    let pass := round.pass (fill capacity earlier)
    let stored := pass.writer.finish
    let visit := pass.walk.visit pass.writer frame
    pass.walk.visitChecked pass.writer frame = some visit ∧
      stored.capacity = max capacity 1 ∧ visit.2.1.finish.capacity = max capacity 1 ∧
      (visit.2.1.finish.frames = stored.frames ∨
        frame.ip.isNull = false ∧ visit.2.1.finish.frames = stored.frames ++ [frame.ip]) ∧
      stored.frames.Sublist (visited (earlier ++ [round])) ∧
      stored.frames.length ≤ max capacity 1 ∧ stored.len ≤ max capacity 1 ∧
      visit.2.1.finish.len ≤ max capacity 1 ∧
      ∀ anchor, round.anchor = some anchor → (∀ seen ∈ round.frames, seen.symbol ≠ anchor) →
        pass.writer = opening ∧ visit.2.1 = opening := by
  intro opening pass stored visit
  -- The current pass is one more pass over the writer, with the frames reported so far.
  obtain ⟨frames, holds, isSublist⟩ := holds_fill capacity (earlier ++ [round])
  rw [fill_concat] at holds
  obtain ⟨added, holdsNext, some_or_none⟩ := holds_visit pass.walk holds frame
  have frames_eq : stored.frames = frames := holds.frames_finish
  refine ⟨visitChecked_eq _ _ _, holds.capacity_finish, holdsNext.capacity_finish, ?adds,
    frames_eq ▸ isSublist, frames_eq ▸ holds.length_le, holds.len_finish ▸ holds.length_le,
    holdsNext.len_finish ▸ holdsNext.length_le, ?search⟩
  case adds =>
    rw [holdsNext.frames_finish, frames_eq]
    rcases some_or_none with rfl | ⟨notNull, rfl⟩
    · exact .inl (List.append_nil _)
    · exact .inr ⟨notNull, rfl⟩
  case search =>
    intro anchor isAnchored absent
    have walk_eq : round.walk = .anchored anchor round.requested round.skip := by
      rw [Round.walk, isAnchored]
    have hanchor : round.walk.anchor = some anchor := by rw [walk_eq, anchored]
    have unfound : round.walk.foundAnchor = false := by rw [walk_eq, anchored]
    obtain ⟨searches, stillUnfound, same⟩ :=
      run_of_no_anchor true hanchor unfound opening absent
    exact ⟨same, (visit_of_unfound searches stillUnfound pass.writer frame).trans same⟩

/-- A writer that was filled by a first pass, whose walker went on, stays as it is while a second
pass without reset searches for its anchor and comes to it. -/
theorem visit_after_passes_at_anchor :
    let first : Round :=
      ⟨some ⟨0x500⟩, 9, 0, false, [⟨⟨0x501⟩, ⟨0x500⟩⟩, ⟨⟨0x31⟩, ⟨0x30⟩⟩, ⟨⟨0x41⟩, ⟨0x40⟩⟩]⟩
    let second : Round := ⟨some ⟨0x700⟩, 9, 0, false, [⟨⟨0x501⟩, ⟨0x500⟩⟩, ⟨⟨0x31⟩, ⟨0x30⟩⟩]⟩
    let pass := second.pass (fill 1 [first])
    (fill 1 [first]).finish.frames = [⟨0x31⟩] ∧ pass.writer.finish.len ≤ 1 ∧
      (∀ seen ∈ second.frames, seen.symbol ≠ ⟨0x700⟩) ∧
      (pass.walk.visit pass.writer ⟨⟨0x701⟩, ⟨0x700⟩⟩).2.1 = fill 1 [first] := by
  intro first second pass
  have absent : ∀ seen ∈ second.frames, seen.symbol ≠ ⟨0x700⟩ := by decide
  obtain ⟨-, -, -, -, -, -, uses, -, searches⟩ :=
    visit_after_passes 1 [first] second ⟨⟨0x701⟩, ⟨0x700⟩⟩
  exact ⟨by decide, uses, absent, (searches ⟨0x700⟩ rfl absent).2⟩

end Walk

end Callstack
