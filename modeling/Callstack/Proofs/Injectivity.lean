import Callstack.Proofs.Dump

/-!
# No frame gets lost in a dump

Names are free text. A name may contain line feeds, and behind them text that looks like further
lines, so the line feeds of a dump do not show where its lines end. The dump determines the frames
nevertheless, for whoever knows the names: in front of the first name is a text of known length with
the first address, the address determines the name, and the name ends where the next line begins.

## Main results

* `Address.eq_of_display_append` — a text that begins with an address determines it
* `Dump.eq_of_line_append` — a text that begins with a line determines the address of the line
* `Dump.text_eq_iff_frames_eq` — traces have the same dump exactly if they have the same frames
-/

namespace Callstack

/-- All addresses are shown with the same number of characters, so what follows them cannot make up
for a difference. -/
theorem Address.eq_of_display_append {a b : Address} {s t : String}
    (same : a.display ++ s = b.display ++ t) : a = b ∧ s = t := by
  have characters := congrArg String.toList same
  simp only [display, String.toList_append, String.toList_ofList, List.cons_append,
    List.cons.injEq, true_and] at characters
  obtain ⟨digits, rest⟩ := List.append_inj characters (by rw [length_digits, length_digits])
  exact ⟨digits_injective digits, String.toList_inj.mp rest⟩

namespace Dump

section Lines

variable {label : Option String} {indent : String} {n : Nat}

/-- The part of a line up to its address depends on its number only. -/
theorem line_eq_append_display (label : Option String) (indent : String) (n : Nat)
    (address : Address) (name : String) :
    line label indent n address name =
      label.getD "" ++ indent ++
        (toString n ++ String.ofList (List.replicate (3 - (toString n).length) ' ')) ++ " " ++
        (address.display ++ (" " ++ name ++ "\n")) := by
  rw [line, Address.display_eq]
  simp only [String.append_assoc]

/-- A missing label and an empty one make no difference. -/
theorem line_congr {label' : Option String} (sameLabel : label.getD "" = label'.getD "") :
    line label = line label' := by
  funext indent n address name
  rw [line, line, sameLabel]

theorem line_ne_empty {address : Address} {name : String} :
    line label indent n address name ≠ "" := by
  intro isEmpty
  have lineFeed := (String.append_eq_empty_iff.mp isEmpty).2
  exact absurd lineFeed (by decide)

/-- If two texts that begin with a line of the same number are equal, so are the addresses of these
lines and the texts behind them. -/
theorem eq_of_line_append (name : Address → String) {a b : Address} {s t : String}
    (same : line label indent n a (name a) ++ s = line label indent n b (name b) ++ t) :
    a = b ∧ s = t := by
  simp only [line_eq_append_display, String.append_assoc, String.append_right_inj] at same
  -- Only now are the names known to be the same.
  obtain ⟨rfl, rest⟩ := Address.eq_of_display_append same
  exact ⟨rfl, by simpa only [String.append_right_inj] using rest⟩

end Lines

/-- Members of a list are written one after the other, each by its position. If a text determines
the member that it begins with, then it determines all of them. -/
theorem eq_of_join_zipIdx_eq {α : Type} {write : α × Nat → String}
    (nonempty : ∀ member, write member ≠ "")
    (first : ∀ a b n s t, write (a, n) ++ s = write (b, n) ++ t → a = b ∧ s = t)
    {list list' : List α} (n : Nat)
    (same : String.join ((list.zipIdx n).map write) = String.join ((list'.zipIdx n).map write)) :
    list = list' := by
  -- The positions of both lists stay the same, since members are taken off both at once.
  induction list generalizing list' n with
  | nil =>
    cases list' with
    | nil => rfl
    | cons b rest' =>
      rw [List.zipIdx_cons, List.map_cons, String.join_cons] at same
      exact absurd (String.append_eq_empty_iff.mp same.symm).1 (nonempty _)
  | cons a rest ih =>
    cases list' with
    | nil =>
      rw [List.zipIdx_cons, List.map_cons, String.join_cons] at same
      exact absurd (String.append_eq_empty_iff.mp same).1 (nonempty _)
    | cons b rest' =>
      simp only [List.zipIdx_cons, List.map_cons, String.join_cons] at same
      obtain ⟨rfl, others⟩ := first a b n _ _ same
      rw [ih (n + 1) others]

variable {a b : Trace} (indent : String)

/-- The frames of a trace can be read off its lines, if it is known what each address is called. -/
theorem join_lines_eq_iff_frames_eq (name : Address → String)
    (sameLabel : a.label.getD "" = b.label.getD "") :
    String.join (lines a indent name) = String.join (lines b indent name) ↔
      a.frames = b.frames := by
  rw [lines, lines, line_congr sameLabel]
  constructor
  · intro same
    refine eq_of_join_zipIdx_eq (fun _ => line_ne_empty) ?_ 1 same
    intro _ _ _ _ _ texts
    exact eq_of_line_append name texts
  · intro sameFrames
    rw [sameFrames]

/-- Traces with the same label have the same dump exactly if they have the same frames, whatever the
names look like. A backend that has only a lookup can have any function for it. A backend that has
its own way to name a batch must give the names of its lookup. -/
theorem text_eq_iff_frames_eq (sameLabel : a.label.getD "" = b.label.getD "") :
    (∀ called lookup,
      let backend : Backend := { name := called, lookup := lookup }
      text backend a indent = text backend b indent ↔ a.frames = b.frames) ∧
    ∀ backend : Backend, backend.NamesAgree →
      (text backend a indent = text backend b indent ↔ a.frames = b.frames) := by
  have agreeing (backend : Backend) (agree : backend.NamesAgree) :
      text backend a indent = text backend b indent ↔ a.frames = b.frames := by
    rw [text_eq_join_lines _ _ agree, text_eq_join_lines _ _ agree]
    exact join_lines_eq_iff_frames_eq _ _ sameLabel
  exact ⟨fun called lookup => agreeing _ (Backend.default_namesAgree called lookup), agreeing⟩

/-- A backend whose name for one address looks like the end of a line and the beginning of the
next one. -/
def imitating : Backend where
  name := "imitating"
  lookup address :=
    if address = ⟨0x10⟩ then some (.plain "f\n2   0x0000000000000020 g")
    else some (.plain "g")

/-- The dump of one frame can look like that of two, but it is not the dump of these two. Unused
slots and an empty label make no difference. -/
theorem text_eq_iff_frames_eq_imitating :
    let one : Trace := ⟨#[⟨0x10⟩], 1, none⟩
    let two : Trace := ⟨#[⟨0x10⟩, ⟨0x20⟩], 2, none⟩
    let wide : Trace := ⟨#[⟨0x10⟩, Address.null], 1, some ""⟩
    text imitating one "" = "1   0x0000000000000010 f\n2   0x0000000000000020 g\n" ∧
      text imitating one "" ≠ text imitating two "" ∧
      text imitating one "" = text imitating wide "" := by
  intro one two wide
  have agree : imitating.NamesAgree := Backend.default_namesAgree _ _
  have same := (text_eq_iff_frames_eq (a := one) (b := wide) "" rfl).2
  have other := (text_eq_iff_frames_eq (a := one) (b := two) "" rfl).2
  refine ⟨by decide +kernel, ?_, (same imitating agree).mpr rfl⟩
  rw [Ne, other imitating agree]
  decide

end Dump

end Callstack
