import Callstack.Proofs.Dump
import Callstack.Proofs.Selection
import Mathlib.Logic.Relation
import Mathlib.Tactic.SplitIfs

/-!
# Clients that share a symbolizer

Several clients dump traces through one symbolizer, at the same time, or one dump within another one
of the same client, as when a fault interrupts it. A dump tries once to take the lock on the debug
information and keeps it until it is finished; if the lock is refused it makes do with the symbol
table. So no dump waits for another one, and its names come from one source only.

Nothing is assumed of the lock but that it is granted only when nobody has it. It may be refused at
any time.

## Main definitions

* `Sharing.Job`, `Sharing.Job.text` — a dump that has begun, and its text
* `Sharing.Step`, `Sharing.Reachable` — what may happen, in any order
* `Sharing.answers` — the names of a dump with or without the lock

## Main results

* `Reachable.invariant` — the lock is held exactly if an unfinished dump has it
* `exists_finish` — a dump is finished by steps of its own client
* `dumps_of_reachable` — all of this for any number of clients
-/

namespace Callstack.Sharing

/-- A dump that a client has begun. -/
structure Job (Client : Type) where
  /-- Whose dump it is. -/
  client : Client
  /-- What is dumped. -/
  trace : Trace
  /-- The indent of its lines. -/
  indent : String
  /-- How the lock was when this dump took it, or `none` if it was refused or not needed. -/
  taken : Option Lock

/-- Whether a dump has the lock. -/
def Job.hasLock {Client : Type} (job : Job Client) : Bool := job.taken.isSome

/-- The text of a dump. Its addresses are named as one batch, under the lock if the dump has it. -/
def Job.text {Client : Type} (symbolizer : Symbolizer) (job : Job Client) : String :=
  Dump.text (symbolizer.backend (job.taken.getD .held)) job.trace job.indent

/-- A finished dump. -/
structure Finished (Client : Type) where
  /-- The dump. -/
  job : Job Client
  /-- What was written. -/
  text : String

/-- What the clients share, and how far they are. -/
structure State (Client : Type) where
  /-- The lock on the debug information. -/
  lock : Lock
  /-- The dumps that have begun, the latest first. -/
  unfinished : List (Job Client)
  /-- The finished dumps, the latest first. -/
  finished : List (Finished Client)

/-- What a client may do. -/
inductive Action (Client : Type) where
  | start (client : Client)
  | finish (client : Client)

/-- What may happen next. -/
inductive Step {Client : Type} (symbolizer : Symbolizer) :
    Action Client → State Client → State Client → Prop
  /-- A client begins a dump, also while others of its own are unfinished. The lock may be granted
  if nobody has it and there is something to be named. -/
  | start {state : State Client} (job : Job Client)
      (granted : ∀ lock ∈ job.taken,
        lock = state.lock ∧ lock.isOpen = true ∧ job.trace.isEmpty = false) :
      Step symbolizer (.start job.client) state
        { state with
          lock := if job.hasLock then .held else state.lock
          unfinished := job :: state.unfinished }
  /-- A client finishes the latest of its dumps. The lock is as it was before if the dump has it. -/
  | finish {state : State Client} {before after : List (Job Client)} (job : Job Client)
      (unfinished : state.unfinished = before ++ job :: after)
      (latest : ∀ other ∈ before, other.client ≠ job.client) :
      Step symbolizer (.finish job.client) state
        { lock := job.taken.getD state.lock
          unfinished := before ++ after
          finished := ⟨job, job.text symbolizer⟩ :: state.finished }

/-- The states that are reached from one without dumps, in which nobody has the lock. -/
inductive Reachable {Client : Type} (symbolizer : Symbolizer) : State Client → Prop
  | initial {lock : Lock} (isOpen : lock.isOpen = true) : Reachable symbolizer ⟨lock, [], []⟩
  | step {action : Action Client} {state next : State Client}
      (earlier : Reachable symbolizer state) (step : Step symbolizer action state next) :
      Reachable symbolizer next

/-- The names of a dump: those of the symbolizer when nobody has the lock, or those of the symbol
table. -/
def answers (symbolizer : Symbolizer) (hasLock : Bool) : Address → String :=
  if hasLock then Dump.shownName (symbolizer.backend .free).lookup
  else Dump.shownName symbolizer.tableEntry?

variable {Client : Type} {symbolizer : Symbolizer} {state next : State Client}
  {action : Action Client} {job : Job Client}

/-- What is true of the lock and the dumps at any time. -/
structure Invariant (symbolizer : Symbolizer) (state : State Client) : Prop where
  /-- If the lock is held one unfinished dump has it, else none. -/
  count_holders : state.unfinished.countP Job.hasLock = if state.lock = .held then 1 else 0
  /-- The lock was open when it was taken. -/
  taken_isOpen : ∀ job ∈ state.unfinished, ∀ lock ∈ job.taken, lock.isOpen = true
  /-- What was written is the text of the dump. -/
  text_eq : ∀ dump ∈ state.finished, dump.text = dump.job.text symbolizer
  /-- The lock was open when finished dumps took it. -/
  finished_isOpen : ∀ dump ∈ state.finished, ∀ lock ∈ dump.job.taken, lock.isOpen = true

/-- No step breaks the invariant. -/
theorem Step.invariant (step : Step symbolizer action state next)
    (invariant : Invariant symbolizer state) : Invariant symbolizer next := by
  obtain ⟨count_holders, taken_isOpen, text_eq, finished_isOpen⟩ := invariant
  cases step with
  | start job granted =>
    refine ⟨?count, ?taken, text_eq, finished_isOpen⟩
    case count =>
      cases taken : job.taken with
      | none => simpa [Job.hasLock, taken] using count_holders
      | some lock =>
        obtain ⟨rfl, isOpen, -⟩ := granted lock taken
        rw [if_neg (Lock.isOpen_iff.mp isOpen)] at count_holders
        simp [Job.hasLock, taken, count_holders]
    case taken =>
      rw [List.forall_mem_cons]
      exact ⟨fun lock member => (granted lock member).2.1, taken_isOpen⟩
  | @finish _ before after job unfinished latest =>
    rw [unfinished] at count_holders taken_isOpen
    have here := taken_isOpen job (by simp)
    refine ⟨?count, ?taken, ?text, ?finished⟩
    case count =>
      cases taken : job.taken with
      | none => simpa [Job.hasLock, taken] using count_holders
      | some lock =>
        -- The dump has the lock, so it is the only one, and nobody has the lock that it gives back.
        have isOpen := Lock.isOpen_iff.mp (here lock taken)
        simp only [List.countP_append, List.countP_cons, Job.hasLock, taken, Option.isSome_some,
          if_true] at count_holders
        simp only [List.countP_append, Option.getD_some, if_neg isOpen]
        split_ifs at count_holders
        all_goals omega
    case taken =>
      intro other member
      refine taken_isOpen other ?_
      rw [List.mem_append] at member ⊢
      exact member.imp_right (List.mem_cons_of_mem job)
    case text =>
      rw [List.forall_mem_cons]
      exact ⟨rfl, text_eq⟩
    case finished =>
      rw [List.forall_mem_cons]
      exact ⟨here, finished_isOpen⟩

theorem Reachable.invariant (reachable : Reachable symbolizer state) :
    Invariant symbolizer state := by
  induction reachable with
  | @initial lock isOpen =>
    have nobody : (if lock = .held then 1 else 0) = 0 := if_neg (Lock.isOpen_iff.mp isOpen)
    exact ⟨nobody.symm, by simp, by simp, by simp⟩
  | step _ step ih => exact step.invariant ih

/-- At most one unfinished dump has the lock. -/
theorem Reachable.count_holders_le_one (reachable : Reachable symbolizer state) :
    state.unfinished.countP Job.hasLock ≤ 1 := by
  rw [reachable.invariant.count_holders]
  split_ifs <;> decide

/-- A client can finish any of its dumps by itself, after those that it has begun later. Dumps of
other clients are passed over. -/
theorem exists_finish [DecidableEq Client] (state : State Client) (job : Job Client)
    (passed before : List (Job Client)) {after : List (Job Client)}
    (others : ∀ other ∈ passed, other.client ≠ job.client)
    (unfinished : state.unfinished = passed ++ (before ++ job :: after)) :
    ∃ next, Relation.ReflTransGen (Step symbolizer (.finish job.client)) state next ∧
      next.unfinished =
        passed ++ (before.filter (fun other => other.client ≠ job.client) ++ after) ∧
      next.finished.head? = some ⟨job, job.text symbolizer⟩ := by
  -- The dumps in front of the one in question are gone through from the latest on. Those of the
  -- same client are finished, and those of others stay in front.
  induction before generalizing passed state with
  | nil => exact ⟨_, .single (Step.finish job unfinished others), rfl, rfl⟩
  | cons first before ih =>
    by_cases own : first.client = job.client
    · let rest : State Client :=
        { lock := first.taken.getD state.lock
          unfinished := passed ++ (before ++ job :: after)
          finished := ⟨first, first.text symbolizer⟩ :: state.finished }
      have step : Step symbolizer (.finish first.client) state rest :=
        .finish first unfinished (own ▸ others)
      rw [own] at step
      obtain ⟨next, steps, left, text⟩ := ih rest passed others rfl
      refine ⟨next, .head step steps, ?_, text⟩
      rw [left, List.filter_cons_of_neg (by simpa using own)]
    · have passing : ∀ other ∈ passed ++ [first], other.client ≠ job.client := by
        rw [List.forall_mem_append, List.forall_mem_singleton]
        exact ⟨others, own⟩
      have behind : state.unfinished = passed ++ [first] ++ (before ++ job :: after) := by
        rw [unfinished, List.append_assoc]
        rfl
      obtain ⟨next, steps, left, text⟩ := ih state (passed ++ [first]) passing behind
      refine ⟨next, steps, ?_, text⟩
      rw [left, List.filter_cons_of_pos (by simpa using own), List.append_assoc]
      rfl

/-- A finished dump has one line for each frame, with names from the source that its lock gives
it. -/
theorem Reachable.text_eq_join_lines (reachable : Reachable symbolizer state)
    {dump : Finished Client} (member : dump ∈ state.finished) :
    dump.text = String.join (Dump.lines dump.job.trace dump.job.indent
      (answers symbolizer dump.job.hasLock)) := by
  have isOpen := reachable.invariant.finished_isOpen dump member
  rw [reachable.invariant.text_eq dump member, Job.text,
    Dump.text_eq_join_lines _ _ (symbolizer.namesAgree _)]
  cases taken : dump.job.taken with
  | none => simp [answers, Job.hasLock, taken, Symbolizer.lookup_held]
  | some lock =>
    -- A poisoned lock was open as well, and it makes no difference for the names.
    simp [answers, Job.hasLock, taken, Symbolizer.backend_of_isOpen symbolizer (isOpen lock taken)]

/-- Whatever any number of clients have done, at most one unfinished dump has the lock, and every
dump can be finished by its own client. Two finished dumps of one trace with one indent have a line
for each frame, with the same label, indent, number and address. The names on the lines of a dump
are all those of the free symbolizer or all those of the symbol table, and only its lock decides. -/
theorem dumps_of_reachable [DecidableEq Client] (reachable : Reachable symbolizer state) :
    state.unfinished.countP Job.hasLock ≤ 1 ∧
      (∀ before job after, state.unfinished = before ++ job :: after →
        ∃ next, Relation.ReflTransGen (Step symbolizer (.finish job.client)) state next ∧
          next.unfinished = before.filter (fun other => other.client ≠ job.client) ++ after ∧
          next.finished.head? = some ⟨job, job.text symbolizer⟩) ∧
      ∀ a ∈ state.finished, ∀ b ∈ state.finished,
        a.job.trace = b.job.trace → a.job.indent = b.job.indent →
          ∃ linesA linesB, a.text = String.join linesA ∧ b.text = String.join linesB ∧
            linesA.length = a.job.trace.frames.length ∧
            linesB.length = a.job.trace.frames.length ∧
            ∀ i address, a.job.trace.frames[i]? = some address →
              linesA[i]? = some (Dump.line a.job.trace.label a.job.indent (i + 1) address
                (answers symbolizer a.job.hasLock address)) ∧
              linesB[i]? = some (Dump.line a.job.trace.label a.job.indent (i + 1) address
                (answers symbolizer b.job.hasLock address)) := by
  refine ⟨reachable.count_holders_le_one, ?finish, ?texts⟩
  case finish =>
    intro before job after unfinished
    exact exists_finish state job [] before (fun _ none => absurd none List.not_mem_nil) unfinished
  case texts =>
    intro a aMember b bMember sameTrace sameIndent
    refine ⟨_, _, reachable.text_eq_join_lines aMember, reachable.text_eq_join_lines bMember,
      Dump.length_lines _ _ _, ?_, ?_⟩
    · rw [Dump.length_lines, sameTrace]
    · intro i address atIndex
      rw [← sameTrace, ← sameIndent]
      exact ⟨Dump.getElem?_lines _ _ _ atIndex, Dump.getElem?_lines _ _ _ atIndex⟩

/-- A symbolizer whose debug information and symbol table have different names. -/
def twoNames : Symbolizer where
  image := ⟨⟨0x1000, 0x2000⟩, 0x1000⟩
  bias := 0x1000
  debugInfo _ := .frames [none, some [0x66, 0x6e]] true
  table _ := some "code"

/-- A dump of one frame. -/
def oneFrame (client : Nat) (taken : Option Lock) : Job Nat :=
  ⟨client, ⟨#[⟨0x1010⟩, Address.null], 1, some "> "⟩, "", taken⟩

/-- A client has begun a dump within another one and finished both, and a second client has taken
the lock that was given back. -/
def afterNesting : State Nat where
  lock := .held
  unfinished := [oneFrame 2 (some .poisoned), oneFrame 2 none]
  finished := [⟨oneFrame 1 (some .poisoned), (oneFrame 1 (some .poisoned)).text twoNames⟩,
    ⟨oneFrame 1 none, (oneFrame 1 none).text twoNames⟩]

theorem reachable_afterNesting : Reachable twoNames afterNesting := by
  have granted : ∀ client, ∀ lock ∈ (oneFrame client (some .poisoned)).taken,
      lock = .poisoned ∧ lock.isOpen = true ∧
        (oneFrame client (some .poisoned)).trace.isEmpty = false := by
    intro client lock taken
    cases taken
    exact ⟨rfl, rfl, rfl⟩
  have refused : ∀ client lock, lock ∉ (oneFrame client none).taken := by
    intro client lock taken
    cases taken
  have begun : Reachable twoNames (⟨.poisoned, [], []⟩ : State Nat) := .initial rfl
  have outer := begun.step (.start (oneFrame 1 (some .poisoned)) (granted 1))
  have second := outer.step
    (.start (oneFrame 2 none) fun lock taken => absurd taken (refused 2 lock))
  have inner := second.step
    (.start (oneFrame 1 none) fun lock taken => absurd taken (refused 1 lock))
  have latest : ∀ other ∈ [oneFrame 2 none],
      other.client ≠ (oneFrame 1 (some .poisoned)).client := by decide
  have innerDone := inner.step
    (.finish (oneFrame 1 none) (List.nil_append _).symm fun _ none => absurd none List.not_mem_nil)
  have outerDone := innerDone.step (.finish (oneFrame 1 (some .poisoned)) rfl latest)
  exact outerDone.step (.start (oneFrame 2 (some .poisoned)) (granted 2))

/-- The outer dump of the first client has the names of the debug information, and the inner one
those of the symbol table. -/
theorem dumps_of_reachable_afterNesting :
    Reachable twoNames afterNesting ∧ afterNesting.unfinished.countP Job.hasLock ≤ 1 ∧
      ∃ linesA linesB,
        (oneFrame 1 (some .poisoned)).text twoNames = String.join linesA ∧
          (oneFrame 1 none).text twoNames = String.join linesB ∧
          linesA[0]? = some "> 1   0x0000000000001010 fn\n" ∧
          linesB[0]? = some "> 1   0x0000000000001010 code\n" := by
  obtain ⟨atMostOne, -, texts⟩ := dumps_of_reachable reachable_afterNesting
  obtain ⟨linesA, linesB, textA, textB, -, -, sameLines⟩ :=
    texts _ (.head _) _ (.tail _ (.head _)) rfl rfl
  obtain ⟨lineA, lineB⟩ := sameLines 0 ⟨0x1010⟩ rfl
  refine ⟨reachable_afterNesting, atMostOne, linesA, linesB, textA, textB, ?_, ?_⟩
  · rw [lineA]
    decide +kernel
  · rw [lineB]
    decide +kernel

end Callstack.Sharing
