import Callstack.Proofs.Cutting
import Callstack.Proofs.Dump

/-!
# Dumps into a bounded sink

A sink with a limit takes the characters of a dump one after the other until one does not fit. A
dump comes in many pieces, and the sink may be full in the middle of any of them; since it then
refuses the piece, and nothing is written after a refusal, what it holds does not depend on how the
text is cut into pieces.

## Main results

* `Sink.writeAll_bounded` — pieces are taken like the text that they make up
* `Dump.into_bounded_longest_prefix` — all of this for a dump
-/

namespace Callstack

/-- A piece is taken as far as it fits behind what is there. -/
theorem Sink.write_bounded (limit : Nat) (held piece : String) :
    (Sink.bounded limit).write held piece =
      let room := limit - Utf8.size held.toList
      (held ++ String.ofList (Utf8.fit room piece.toList),
        decide (Utf8.size piece.toList ≤ room)) := by
  have answer : (Utf8.fit (limit - Utf8.size held.toList) piece.toList == piece.toList) =
      decide (Utf8.size piece.toList ≤ limit - Utf8.size held.toList) := by
    rw [Bool.eq_iff_iff, beq_iff_eq, decide_eq_true_iff, Utf8.fit_eq_self_iff]
  simp only [Sink.bounded, answer]

/-- Pieces are taken like the text that they make up. -/
theorem Sink.writeAll_bounded (limit : Nat) (held : String) (pieces : List String) :
    (Sink.bounded limit).writeAll held pieces =
      let room := limit - Utf8.size held.toList
      let text := (String.join pieces).toList
      (held ++ String.ofList (Utf8.fit room text), decide (Utf8.size text ≤ room)) := by
  induction pieces generalizing held with
  | nil => simp [Sink.writeAll, Utf8.fit]
  | cons piece rest ih =>
    have text : (String.join (piece :: rest)).toList =
        piece.toList ++ (String.join rest).toList := by
      rw [String.join_cons, String.toList_append]
    simp only [Sink.writeAll, Sink.write_bounded, text, Utf8.size_append, Utf8.fit_append]
    by_cases fits : Utf8.size piece.toList ≤ limit - Utf8.size held.toList
    · -- The other pieces have the room that this one leaves.
      have whole := Utf8.fit_eq_self_iff.mpr fits
      have left : limit - Utf8.size (held ++ piece).toList =
          limit - Utf8.size held.toList - Utf8.size piece.toList := by
        rw [String.toList_append, Utf8.size_append, Nat.sub_sub]
      have all : Utf8.size piece.toList + Utf8.size (String.join rest).toList ≤
          limit - Utf8.size held.toList ↔ Utf8.size (String.join rest).toList ≤
            limit - Utf8.size held.toList - Utf8.size piece.toList := by omega
      rw [decide_eq_true fits, if_pos rfl, whole, String.ofList_toList, ih, left, if_pos fits]
      simp only [all, String.ofList_append, String.ofList_toList, String.append_assoc]
    · -- The piece is cut where the whole text is, and nothing follows it.
      have tooLong : ¬Utf8.size piece.toList + Utf8.size (String.join rest).toList ≤
          limit - Utf8.size held.toList := by omega
      rw [decide_eq_false fits, decide_eq_false tooLong, if_neg fits]
      rfl

namespace Dump

/-- A dump into a sink with a limit fails exactly if its text is longer than the limit. In either
case the sink then holds the longest beginning of the text that fits, and nothing else. -/
theorem into_bounded_longest_prefix (limit : Nat) (backend : Backend) (trace : Trace)
    (indent : String) :
    let whole := text backend trace indent
    let written := into (Sink.bounded limit) "" backend trace indent
    (written.2 = true ↔ Utf8.size whole.toList ≤ limit) ∧
      written.1.toList <+: whole.toList ∧ Utf8.size written.1.toList ≤ limit ∧
      (∀ beginning, beginning <+: whole.toList → Utf8.size beginning ≤ limit →
        beginning <+: written.1.toList) ∧
      (trace.isEmpty = true → written = ("", true)) := by
  intro whole written
  -- How the text is cut into pieces does not matter for what fits.
  have result : written =
      (String.ofList (Utf8.fit limit whole.toList), decide (Utf8.size whole.toList ≤ limit)) := by
    have taken := Sink.writeAll_bounded limit "" (pieces backend trace indent)
    simp only [← text_eq_join_pieces, String.empty_append] at taken
    exact taken
  rw [result, String.toList_ofList]
  refine ⟨decide_eq_true_iff, Utf8.fit_isPrefix limit _, Utf8.size_fit_le limit _,
    fun beginning => Utf8.prefix_fit, fun isEmpty => ?_⟩
  have nothing : whole = "" := by
    refine (text_eq_join_pieces backend trace indent).trans ?_
    rw [pieces, if_pos isEmpty]
    rfl
  rw [nothing]
  simp [Utf8.fit]

/-- A backend whose only name is a character of two bytes. -/
def accented : Backend where
  name := "accented"
  lookup _ := some (.plain "é")

/-- The name is the first character that does not fit. The line feed behind it would fit, but does
not follow. -/
theorem into_bounded_longest_prefix_accented :
    let trace : Trace := ⟨#[⟨0x10⟩], 1, none⟩
    let written := into (Sink.bounded 24) "" accented trace ""
    text accented trace "" = "1   0x0000000000000010 é\n" ∧ written.2 = false ∧
      "1   0x0000000000000010 ".toList <+: written.1.toList ∧
      Utf8.size written.1.toList ≤ 24 ∧
      into (Sink.bounded 0) "" accented ⟨#[], 0, none⟩ "" = ("", true) := by
  intro trace written
  have whole : text accented trace "" = "1   0x0000000000000010 é\n" := by decide +kernel
  obtain ⟨answer, -, fits, longest, -⟩ := into_bounded_longest_prefix 24 accented trace ""
  obtain ⟨-, -, -, -, empty⟩ := into_bounded_longest_prefix 0 accented ⟨#[], 0, none⟩ ""
  rw [whole] at answer longest
  have refused : written.2 = false := by
    rw [Bool.eq_false_iff, Ne, answer]
    decide +kernel
  exact ⟨whole, refused, longest _ ⟨['é', '\n'], by decide +kernel⟩ (by decide +kernel), fits,
    empty rfl⟩

end Dump

end Callstack
