import Callstack.Proofs.Listing
import Mathlib.Tactic.SplitIfs

/-!
# The image that mappings make up

An image is made up from the mappings of a file with three searches, for the lowest start, for the
highest stop and for the lowest start of the file's beginning. What they find is described by the
mappings alone, in whatever order they stand.

A listing is read for one file. Of its rows those count that have the file's path, and an image is
found exactly if there are any.

## Main definitions

* `Image.Describes` — the extent and the base of an image are those of some mappings
* `Listing.rowsOf` — the rows of a listing that have the path of a file

## Main results

* `describes_of_ofMappings?`, `ofMappings?_eq_none_iff` — the image that mappings make up
* `ofMappings?_eq_some_iff` — no other image is described by the mappings
* `ofListing?_of_shows` — the mappings that count are those of the rows of one file
* `ofListing?_eq_iff_describes` — the image that is read from a listing, whatever way it is written
-/

namespace Callstack

/-- The extent of an image goes from the lowest start to the highest stop of some mappings, and its
base is the lowest start among those at offset zero, or the lowest of all if there are none. -/
structure Image.Describes (image : Image) (mappings : List Mapping) : Prop where
  start_mem : ∃ mapping ∈ mappings, mapping.range.start = image.range.start
  start_le : ∀ mapping ∈ mappings, image.range.start ≤ mapping.range.start
  stop_mem : ∃ mapping ∈ mappings, mapping.range.stop = image.range.stop
  le_stop : ∀ mapping ∈ mappings, mapping.range.stop ≤ image.range.stop
  base_mem : (∃ mapping ∈ mappings, mapping.offset = 0) →
    ∃ mapping ∈ mappings, mapping.offset = 0 ∧ mapping.range.start = image.base
  base_le : ∀ mapping ∈ mappings, mapping.offset = 0 → image.base ≤ mapping.range.start
  base_eq : (∀ mapping ∈ mappings, mapping.offset ≠ 0) → image.base = image.range.start

namespace Image

variable {mappings : List Mapping} {image : Image}

theorem ofMappings?_eq_none_iff : ofMappings? mappings = none ↔ mappings = [] := by
  constructor
  · intro missing
    cases mappings with
    | nil => rfl
    | cons mapping rest => simp [ofMappings?] at missing
  · rintro rfl
    rfl

/-- What a search for the lowest value finds. -/
theorem min?_map_eq_some_iff {f : Mapping → Nat} {n : Nat} :
    (mappings.map f).min? = some n ↔
      (∃ mapping ∈ mappings, f mapping = n) ∧ ∀ mapping ∈ mappings, n ≤ f mapping := by
  rw [List.min?_eq_some_iff, List.mem_map, List.forall_mem_map]

/-- What a search for the highest value finds. -/
theorem max?_map_eq_some_iff {f : Mapping → Nat} {n : Nat} :
    (mappings.map f).max? = some n ↔
      (∃ mapping ∈ mappings, f mapping = n) ∧ ∀ mapping ∈ mappings, f mapping ≤ n := by
  rw [List.max?_eq_some_iff, List.mem_map, List.forall_mem_map]

/-- The image that mappings make up is described by them. -/
theorem describes_of_ofMappings? (found : ofMappings? mappings = some image) :
    image.Describes mappings := by
  simp only [ofMappings?, Option.bind_eq_bind, Option.bind_eq_some_iff, Option.pure_def,
    Option.some.injEq] at found
  obtain ⟨start, foundStart, stop, foundStop, rfl⟩ := found
  obtain ⟨start_mem, start_le⟩ := min?_map_eq_some_iff.mp foundStart
  obtain ⟨stop_mem, le_stop⟩ := max?_map_eq_some_iff.mp foundStop
  cases foundFirst : ((mappings.filter fun mapping => mapping.offset == 0).map
      fun mapping => mapping.range.start).min? with
  | none =>
    -- The beginning of the file is not mapped, so the base is the lowest start.
    rw [List.min?_eq_none_iff, List.map_eq_nil_iff, List.filter_eq_nil_iff] at foundFirst
    have noFirst : ∀ mapping ∈ mappings, mapping.offset ≠ 0 := by
      intro mapping member isZero
      exact foundFirst mapping member (beq_iff_eq.mpr isZero)
    refine ⟨start_mem, start_le, stop_mem, le_stop, ?base_mem, ?base_le, ?base_eq⟩
    case base_mem =>
      rintro ⟨mapping, member, isZero⟩
      exact absurd isZero (noFirst mapping member)
    case base_le =>
      intro mapping member isZero
      exact absurd isZero (noFirst mapping member)
    case base_eq =>
      intro _
      rfl
  | some first =>
    obtain ⟨⟨lowest, lowest_mem, lowest_start⟩, first_le⟩ := min?_map_eq_some_iff.mp foundFirst
    rw [List.mem_filter, beq_iff_eq] at lowest_mem
    refine ⟨start_mem, start_le, stop_mem, le_stop, ?base_mem, ?base_le, ?base_eq⟩
    case base_mem =>
      intro _
      exact ⟨lowest, lowest_mem.1, lowest_mem.2, lowest_start⟩
    case base_le =>
      intro mapping member isZero
      apply first_le mapping
      rw [List.mem_filter, beq_iff_eq]
      exact ⟨member, isZero⟩
    case base_eq =>
      intro noFirst
      exact absurd lowest_mem.2 (noFirst lowest lowest_mem.1)

/-- Two images that are described by the same mappings are the same. -/
theorem Describes.unique {other : Image} (describes : image.Describes mappings)
    (others : other.Describes mappings) : image = other := by
  -- Each bound is reached by a mapping, so neither image can go beyond the other.
  have start_eq : image.range.start = other.range.start := by
    apply Nat.le_antisymm
    · obtain ⟨mapping, member, isStart⟩ := others.start_mem
      exact isStart ▸ describes.start_le mapping member
    · obtain ⟨mapping, member, isStart⟩ := describes.start_mem
      exact isStart ▸ others.start_le mapping member
  have stop_eq : image.range.stop = other.range.stop := by
    apply Nat.le_antisymm
    · obtain ⟨mapping, member, isStop⟩ := describes.stop_mem
      exact isStop ▸ others.le_stop mapping member
    · obtain ⟨mapping, member, isStop⟩ := others.stop_mem
      exact isStop ▸ describes.le_stop mapping member
  have base_eq : image.base = other.base := by
    by_cases isMapped : ∃ mapping ∈ mappings, mapping.offset = 0
    · apply Nat.le_antisymm
      · obtain ⟨mapping, member, isZero, isBase⟩ := others.base_mem isMapped
        exact isBase ▸ describes.base_le mapping member isZero
      · obtain ⟨mapping, member, isZero, isBase⟩ := describes.base_mem isMapped
        exact isBase ▸ others.base_le mapping member isZero
    · have noFirst : ∀ mapping ∈ mappings, mapping.offset ≠ 0 := by
        intro mapping member isZero
        exact isMapped ⟨mapping, member, isZero⟩
      rw [describes.base_eq noFirst, others.base_eq noFirst, start_eq]
  obtain ⟨⟨start, stop⟩, base⟩ := image
  obtain ⟨⟨otherStart, otherStop⟩, otherBase⟩ := other
  simp only at start_eq stop_eq base_eq
  rw [start_eq, stop_eq, base_eq]

/-- Neither the order of mappings nor how often they stand there matters. -/
theorem Describes.of_same_members {others : List Mapping} (describes : image.Describes mappings)
    (same : ∀ mapping, mapping ∈ others ↔ mapping ∈ mappings) : image.Describes others := by
  constructor
  case start_mem => simpa only [same] using describes.start_mem
  case start_le => simpa only [same] using describes.start_le
  case stop_mem => simpa only [same] using describes.stop_mem
  case le_stop => simpa only [same] using describes.le_stop
  case base_mem => simpa only [same] using describes.base_mem
  case base_le => simpa only [same] using describes.base_le
  case base_eq => simpa only [same] using describes.base_eq

/-- Mappings make up the one image that they describe. -/
theorem ofMappings?_eq_some_iff : ofMappings? mappings = some image ↔ image.Describes mappings := by
  constructor
  · exact describes_of_ofMappings?
  · intro describes
    cases found : ofMappings? mappings with
    | none =>
      obtain ⟨mapping, member, -⟩ := describes.start_mem
      rw [ofMappings?_eq_none_iff.mp found] at member
      cases member
    | some other =>
      rw [(describes_of_ofMappings? found).unique describes]

/-- The image of a file is made up from the rows that the lines of a listing show and that have its
path. -/
theorem ofListing?_of_shows {listing path : String} {rows : List Listing.Row}
    (shows : Listing.Shows (Text.lines listing.toList) rows) :
    ofListing? listing path = ofMappings? (Listing.mappingsOf path.toList rows) := by
  have same : ((fun mapping => mapping.path == Mapping.withoutMark path.toList) ∘
      Listing.Row.mapping) = fun row => decide (row.IsOf path.toList) := by
    funext row
    rw [Bool.eq_iff_iff, decide_eq_true_iff]
    exact beq_iff_eq
  rw [ofListing?, Listing.ofListing_of_shows shows, List.filter_map, same]
  rfl

/-- The image of a file is made up from the rows of the listing that have its path. -/
theorem ofListing?_of_lists {listing path : String} {rows : List Listing.Row}
    (lists : Listing.Lists listing.toList rows) :
    ofListing? listing path = ofMappings? (Listing.mappingsOf path.toList rows) :=
  ofListing?_of_shows (Listing.shows_of_lists lists)

end Image

namespace Listing

/-- The rows that have a path, and the one of the given file. The mark of replaced files does not
count on either side. -/
def rowsOf (path : List Char) (rows : List Row) : List Row :=
  rows.filter fun row => row.path ≠ [] ∧ row.IsOf path

theorem mem_rowsOf {path : List Char} {rows : List Row} {row : Row} :
    row ∈ rowsOf path rows ↔ row ∈ rows ∧ row.path ≠ [] ∧ row.IsOf path := by
  rw [rowsOf, List.mem_filter, decide_eq_true_iff]

/-- Nothing is left of a path without the mark only if it is the mark. -/
theorem withoutMark_ne_nil {path : List Char} (hasPath : path ≠ [])
    (isNotMark : path ≠ Mapping.replacedMark) : Mapping.withoutMark path ≠ [] := by
  unfold Mapping.withoutMark
  split_ifs with isMarked
  · obtain ⟨front, rfl⟩ := List.isSuffixOf_iff_suffix.mp isMarked
    rw [List.length_append, Nat.add_sub_cancel_right, List.take_left]
    rintro rfl
    exact isNotMark rfl
  · exact hasPath

/-- A row without a path is not about a file. -/
theorem map_rowsOf {path : List Char} (hasPath : path ≠ [])
    (isNotMark : path ≠ Mapping.replacedMark) (rows : List Row) :
    (rowsOf path rows).map Row.mapping = mappingsOf path rows := by
  have same (row : Row) : (row.path ≠ [] ∧ row.IsOf path) ↔ row.IsOf path := by
    refine and_iff_right_of_imp fun isOf noPath => ?_
    rw [Row.IsOf, noPath] at isOf
    exact withoutMark_ne_nil hasPath isNotMark isOf.symm
  rw [rowsOf, mappingsOf]
  simp only [same]

end Listing

namespace Image

/-- The image of a file is read back from every listing of rows, in whatever way it is written.
There is none exactly if no row has the file's path, else it is the one that the rows with that
path describe, and so it depends neither on the order of the rows nor on how they are written. -/
theorem ofListing?_eq_iff_describes {listing path : String} {rows : List Listing.Row}
    (lists : Listing.Lists listing.toList rows) (hasPath : path ≠ "")
    (isNotMark : path ≠ " (deleted)") :
    (ofListing? listing path = none ↔ Listing.rowsOf path.toList rows = []) ∧
      (∀ image, ofListing? listing path = some image ↔
        image.Describes ((Listing.rowsOf path.toList rows).map Listing.Row.mapping)) ∧
      ∀ (other : String) (others : List Listing.Row), Listing.Lists other.toList others →
        (∀ row, row ∈ others ↔ row ∈ rows) → ofListing? other path = ofListing? listing path := by
  have nonempty : path.toList ≠ [] := by simpa using hasPath
  have isNotMark : path.toList ≠ Mapping.replacedMark := fun same =>
    isNotMark (String.toList_inj.mp same)
  have isImage (image : Image) : ofListing? listing path = some image ↔
      image.Describes ((Listing.rowsOf path.toList rows).map Listing.Row.mapping) := by
    rw [ofListing?_of_lists lists, Listing.map_rowsOf nonempty isNotMark]
    exact ofMappings?_eq_some_iff
  refine ⟨?missing, isImage, ?same⟩
  case missing =>
    rw [ofListing?_of_lists lists, ofMappings?_eq_none_iff,
      ← Listing.map_rowsOf nonempty isNotMark, List.map_eq_nil_iff]
  case same =>
    intro other others listsOthers same
    -- Both listings are compared by the images that they are read as, so only members matter.
    ext image
    rw [isImage, ofListing?_of_lists listsOthers, ofMappings?_eq_some_iff,
      ← Listing.map_rowsOf nonempty isNotMark]
    have members (mapping : Mapping) :
        mapping ∈ (Listing.rowsOf path.toList others).map Listing.Row.mapping ↔
          mapping ∈ (Listing.rowsOf path.toList rows).map Listing.Row.mapping := by
      simp only [List.mem_map, Listing.mem_rowsOf, same]
    constructor
    · intro describes
      exact describes.of_same_members fun mapping => (members mapping).symm
    · intro describes
      exact describes.of_same_members members

/-- A row of a replaced file with blanks in its path. -/
def replacedRow : Listing.Row where
  start := 0x400000
  stop := 0x402000
  offset := 0x3000
  permissions := "r-xs".toList
  device := "08:02".toList
  inode := "77".toList
  path := "/opt/my  app (deleted)".toList

/-- A row of memory without a file. -/
def anonymousRow : Listing.Row where
  start := 0x402000
  stop := 0x40a000
  offset := 0
  permissions := "rw-p".toList
  device := "00:00".toList
  inode := "0".toList
  path := []
  offset_lt := Listing.Row.zero_lt_wordLimit

/-- A row of the last possible page of the same file. -/
def lastRow : Listing.Row where
  start := 0xfffffffffffff000
  stop := 0xffffffffffffffff
  offset := 0
  permissions := "---s".toList
  device := "08:02".toList
  inode := "77".toList
  path := "/opt/my  app".toList
  offset_lt := Listing.Row.zero_lt_wordLimit

/-- A listing with numbers written in several ways, and lines with too few fields between them. -/
def mixedListing : String :=
  "400000-00402000 r-xs 3000 08:02 77    /opt/my  app (deleted)" ++ "\n" ++
    ("Size: 8 kB" ++ "\n" ++ ("402000-40A000 rw-p 00000000 00:00 0 " ++ "\n" ++
      ("FFFFFFFFfffff000-ffffffffffffffff ---s 0 08:02 77 /opt/my  app" ++ "\n" ++ "")))

/-- Zeros in front, letters of either case, blanks inside a path and before it, and the greatest
words are all read, and the mark of a replaced file is ignored on both sides. -/
theorem ofListing?_mixedListing :
    Listing.Lists mixedListing.toList [replacedRow, anonymousRow, lastRow] ∧
      "/opt/my  app (deleted)" ≠ "" ∧ "/opt/my  app (deleted)" ≠ " (deleted)" ∧
      ofListing? mixedListing "/opt/my  app (deleted)" =
        some ⟨⟨0x400000, 0xffffffffffffffff⟩, 0xfffffffffffff000⟩ ∧
      ∀ (other : String) (others : List Listing.Row), Listing.Lists other.toList others →
        (∀ row, row ∈ others ↔ row ∈ [replacedRow, anonymousRow, lastRow]) →
        ofListing? other "/opt/my  app (deleted)" =
          ofListing? mixedListing "/opt/my  app (deleted)" := by
  have replaced :
      replacedRow.Written "400000-00402000 r-xs 3000 08:02 77    /opt/my  app (deleted)".toList :=
    ⟨"400000".toList, "00402000".toList, "3000".toList, 3,
      ⟨0, rfl⟩, ⟨2, rfl⟩, ⟨0, rfl⟩, by decide +kernel⟩
  have anonymous : anonymousRow.Written "402000-40A000 rw-p 00000000 00:00 0 ".toList :=
    ⟨"402000".toList, "40A000".toList, "00000000".toList, 0,
      ⟨0, rfl⟩, ⟨0, rfl⟩, ⟨7, rfl⟩, by decide +kernel⟩
  have last : lastRow.Written
      "FFFFFFFFfffff000-ffffffffffffffff ---s 0 08:02 77 /opt/my  app".toList :=
    ⟨"FFFFFFFFfffff000".toList, "ffffffffffffffff".toList, "0".toList, 0,
      ⟨0, rfl⟩, ⟨0, rfl⟩, ⟨0, rfl⟩, by decide +kernel⟩
  have lists : Listing.Lists mixedListing.toList [replacedRow, anonymousRow, lastRow] :=
    Listing.Lists.append (.row replaced) (.append (.other (by decide) (by decide))
      (.append (.row anonymous) (.append (.row last) (.last (.other (by decide) (by decide))))))
  have hasPath : "/opt/my  app (deleted)" ≠ "" := by decide
  have isNotMark : "/opt/my  app (deleted)" ≠ " (deleted)" := by decide
  obtain ⟨-, isImage, same⟩ := ofListing?_eq_iff_describes lists hasPath isNotMark
  refine ⟨lists, hasPath, isNotMark, (isImage _).mpr ?_, same⟩
  constructor <;> decide +kernel

end Image

end Callstack
