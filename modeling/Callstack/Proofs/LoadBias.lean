import Callstack.Proofs.Image
import Callstack.Symbolizer

/-!
# Addresses of a loaded file

A file is loaded by mapping the pages of each segment at its address plus a bias. The bias is found
from the listing of the mappings and from the segments, which takes two separate searches for where
the file begins. They find the same place, so that addresses of the process are translated to those
of the file.

Blanks around a path in a listing do not count. A mapping of a file whose path has a blank more is
taken for one of the program, and if it is below the program the bias comes out wrong.

## Main definitions

* `IsLaidOut` — segments as they stand in a file
* `Maps` — a mapping is where a segment is
* `IsLoaded` — the rows of a file are those of its segments

## Main results

* `IsLaidOut.linkedBase_eq` — the beginning of the file is linked to the lowest address
* `IsLoaded.base_eq` — the beginning of the file is mapped at that address plus the bias
* `fileAddress?_of_loaded` — addresses of the process are translated to those of the file
* `loadBias_of_blankEnd` — but not with another file of the same name but for a blank
-/

namespace Callstack

/-- A number rounded down to a multiple of the page size. -/
def roundDown (n : Nat) : Nat := n / 4096 * 4096

/-- A number rounded up to a multiple of the page size. -/
def roundUp (n : Nat) : Nat := (n + 4095) / 4096 * 4096

theorem pageStart_eq_roundDown (address : Nat) : pageStart address = roundDown address := by
  rw [pageStart, roundDown, pageSize]
  omega

theorem roundDown_le {m n : Nat} (le : m ≤ n) : roundDown m ≤ roundDown n := by
  rw [roundDown, roundDown]
  omega

/-- Segments in the order of their addresses, where the first one begins with the file or none has
anything of the file's first page. -/
structure IsLaidOut (segments : List Elf.Segment) : Prop where
  nonempty : segments ≠ []
  ascending : segments.Pairwise fun a b => a.address ≤ b.address
  begins : (segments.head nonempty).offset = 0 ∨ ∀ segment ∈ segments, 4096 ≤ segment.offset

/-- A mapping is where the pages of a segment are when the file is loaded with a bias. -/
structure Maps (bias : Nat) (segment : Elf.Segment) (mapping : Mapping) : Prop where
  start_eq : mapping.range.start = bias + roundDown segment.address
  stop_eq : mapping.range.stop = bias + roundUp (segment.address + segment.size)
  offset_eq : mapping.offset = roundDown segment.offset

/-- The rows of a file are those of its segments, loaded with a bias. -/
structure IsLoaded (bias : Nat) (segments : List Elf.Segment) (path : List Char)
    (rows : List Listing.Row) : Prop where
  /-- Every segment has a row. -/
  covered : ∀ segment ∈ segments, ∃ row ∈ rows, row.IsOf path ∧ Maps bias segment row.mapping
  /-- Every row of the file belongs to a segment. -/
  only : ∀ row ∈ rows, row.IsOf path → ∃ segment ∈ segments, Maps bias segment row.mapping

instance (bias : Nat) (segment : Elf.Segment) (mapping : Mapping) :
    Decidable (Maps bias segment mapping) :=
  decidable_of_iff
    (mapping.range.start = bias + roundDown segment.address ∧
      mapping.range.stop = bias + roundUp (segment.address + segment.size) ∧
      mapping.offset = roundDown segment.offset)
    ⟨fun ⟨start_eq, stop_eq, offset_eq⟩ => ⟨start_eq, stop_eq, offset_eq⟩,
      fun maps => ⟨maps.start_eq, maps.stop_eq, maps.offset_eq⟩⟩

namespace IsLaidOut

variable {segment : Elf.Segment} {segments : List Elf.Segment} (laidOut : IsLaidOut segments)

include laidOut

theorem head_address_le (member : segment ∈ segments) :
    (segments.head laidOut.nonempty).address ≤ segment.address := by
  obtain ⟨nonempty, ascending, -⟩ := laidOut
  cases segments with
  | nil => exact absurd rfl nonempty
  | cons first rest =>
    rw [List.pairwise_cons] at ascending
    rcases List.mem_cons.mp member with rfl | member
    · exact Nat.le_refl _
    · exact ascending.1 segment member

/-- Whether or not the beginning of the file belongs to a segment, the address that it is linked to
is the lowest one. -/
theorem linkedBase_eq : linkedBase segments = (segments.head laidOut.nonempty).address := by
  rw [linkedBase]
  rcases laidOut.begins with isFirst | isLater
  · have found : segments.find? (fun segment => segment.offset == 0) =
        some (segments.head laidOut.nonempty) := by
      cases segments with
      | nil => exact absurd rfl laidOut.nonempty
      | cons first rest => exact List.find?_cons_of_pos (beq_iff_eq.mpr isFirst)
    rw [found]
  · -- No segment begins the file, so it is linked to the lowest address, which comes first.
    have noFirst : segments.find? (fun segment => segment.offset == 0) = none := by
      rw [List.find?_eq_none]
      intro segment member isZero
      have later := isLater segment member
      rw [beq_iff_eq.mp isZero] at later
      omega
    have lowest : (segments.map Elf.Segment.address).min? =
        some (segments.head laidOut.nonempty).address := by
      rw [List.min?_eq_some_iff, List.forall_mem_map]
      refine ⟨List.mem_map_of_mem (List.head_mem laidOut.nonempty), ?_⟩
      intro segment member
      exact laidOut.head_address_le member
    rw [noFirst, lowest]
    rfl

end IsLaidOut

namespace IsLoaded

variable {segment : Elf.Segment} {segments : List Elf.Segment} {bias : Nat} {path : List Char}
  {rows : List Listing.Row} {image : Image} (loaded : IsLoaded bias segments path rows)

include loaded

theorem exists_mapping (member : segment ∈ segments) :
    ∃ mapping ∈ Listing.mappingsOf path rows, Maps bias segment mapping ∧
      mapping.range.stop < Numeral.wordLimit := by
  obtain ⟨row, row_mem, isOf, maps⟩ := loaded.covered segment member
  exact ⟨row.mapping, Listing.mem_mappingsOf.mpr ⟨row, row_mem, isOf, rfl⟩, maps, row.stop_lt⟩

theorem exists_segment {mapping : Mapping} (member : mapping ∈ Listing.mappingsOf path rows) :
    ∃ segment ∈ segments, Maps bias segment mapping := by
  obtain ⟨row, row_mem, isOf, rfl⟩ := Listing.mem_mappingsOf.mp member
  exact loaded.only row row_mem isOf

/-- No mapping is below the one of the first segment. -/
theorem start_eq_of_le (laidOut : IsLaidOut segments) {mapping : Mapping}
    (member : mapping ∈ Listing.mappingsOf path rows)
    (le : mapping.range.start ≤ bias + roundDown (segments.head laidOut.nonempty).address) :
    mapping.range.start = bias + roundDown (segments.head laidOut.nonempty).address := by
  obtain ⟨segment, segment_mem, maps⟩ := loaded.exists_segment member
  have above := roundDown_le (laidOut.head_address_le segment_mem)
  have start_eq := maps.start_eq
  omega

/-- The beginning of the file is mapped where the first segment is. -/
theorem base_eq (laidOut : IsLaidOut segments)
    (describes : image.Describes (Listing.mappingsOf path rows)) :
    image.base = bias + roundDown (segments.head laidOut.nonempty).address := by
  obtain ⟨first, first_mem, maps, -⟩ := loaded.exists_mapping (List.head_mem laidOut.nonempty)
  rcases laidOut.begins with isFirst | isLater
  · -- Small segments behind the first one may have rows at offset zero too, which lie above.
    have isZero : first.offset = 0 := by
      rw [maps.offset_eq, isFirst]
      rfl
    obtain ⟨lowest, lowest_mem, -, isBase⟩ := describes.base_mem ⟨first, first_mem, isZero⟩
    rw [← isBase]
    apply loaded.start_eq_of_le laidOut lowest_mem
    rw [isBase, ← maps.start_eq]
    exact describes.base_le first first_mem isZero
  · -- No row is at offset zero, so the base is the start of the image.
    have noFirst : ∀ mapping ∈ Listing.mappingsOf path rows, mapping.offset ≠ 0 := by
      intro mapping member
      obtain ⟨segment, segment_mem, maps⟩ := loaded.exists_segment member
      have later : roundDown 4096 ≤ roundDown segment.offset :=
        roundDown_le (isLater segment segment_mem)
      rw [maps.offset_eq]
      exact Nat.ne_of_gt (Nat.lt_of_lt_of_le (by decide) later)
    obtain ⟨lowest, lowest_mem, isStart⟩ := describes.start_mem
    rw [describes.base_eq noFirst, ← isStart]
    apply loaded.start_eq_of_le laidOut lowest_mem
    rw [isStart, ← maps.start_eq]
    exact describes.start_le first first_mem

/-- The addresses of a segment are in the image, and they are addresses of the process. -/
theorem contains_of_mem (describes : image.Describes (Listing.mappingsOf path rows))
    (member : segment ∈ segments) {x : Nat} (le : roundDown segment.address ≤ x)
    (lt : x < roundUp (segment.address + segment.size)) :
    image.range.contains (bias + x) = true ∧ bias + x < Numeral.wordLimit := by
  obtain ⟨mapping, mapping_mem, maps, stop_lt⟩ := loaded.exists_mapping member
  have start_le := describes.start_le mapping mapping_mem
  have le_stop := describes.le_stop mapping mapping_mem
  rw [maps.start_eq] at start_le
  rw [maps.stop_eq] at le_stop stop_lt
  constructor
  · rw [Extent.contains, Bool.and_eq_true, decide_eq_true_iff, decide_eq_true_iff]
    omega
  · omega

end IsLoaded

/-- Translating addresses undoes loading. The beginning of the file is found at the bias plus its
linked address, so that the bias comes out exactly, and every address of a segment's pages is
translated back to what it is in the file. The listing may have other rows, whose paths differ also
without the blanks around them. -/
theorem fileAddress?_of_loaded {segments : List Elf.Segment} {bias : Nat} {listing path : String}
    {rows : List Listing.Row} (laidOut : IsLaidOut segments)
    (shows : Listing.Shows (Text.lines listing.toList) rows)
    (loaded : IsLoaded bias segments path.toList rows) :
    ∃ image, Image.ofListing? listing path = some image ∧
      image.base = bias + pageStart (linkedBase segments) ∧
      loadBias segments image.base = bias ∧
      ∀ symbolizer : Symbolizer, symbolizer.image = image →
        symbolizer.bias = loadBias segments image.base →
        ∀ segment ∈ segments, ∀ x, roundDown segment.address ≤ x →
          x < roundUp (segment.address + segment.size) →
          symbolizer.fileAddress? (Address.ofNat (bias + x)) = some x := by
  rw [Image.ofListing?_of_shows shows]
  obtain ⟨first, first_mem, -⟩ := loaded.exists_mapping (List.head_mem laidOut.nonempty)
  cases found : Image.ofMappings? (Listing.mappingsOf path.toList rows) with
  | none =>
    rw [Image.ofMappings?_eq_none_iff.mp found] at first_mem
    cases first_mem
  | some image =>
    have describes := Image.describes_of_ofMappings? found
    have base_eq : image.base = bias + pageStart (linkedBase segments) := by
      rw [laidOut.linkedBase_eq, pageStart_eq_roundDown]
      exact loaded.base_eq laidOut describes
    have bias_eq : loadBias segments image.base = bias := by
      rw [loadBias, base_eq, Nat.add_sub_cancel_right]
    refine ⟨image, rfl, base_eq, bias_eq, ?_⟩
    intro symbolizer isImage isBias segment member x le lt
    obtain ⟨contains, small⟩ := loaded.contains_of_mem describes member le lt
    -- The sum is an address of the process, so it does not wrap around.
    have toNat_eq : (Address.ofNat (bias + x)).toNat = bias + x := by
      rw [Address.toNat, Address.ofNat, UInt64.toNat_ofNat']
      exact Nat.mod_eq_of_lt small
    rw [Symbolizer.fileAddress?, isImage, isBias, bias_eq, toNat_eq, if_pos contains,
      if_pos (Nat.le_add_right bias x), Nat.add_sub_cancel_left]

/-- A row of a program that was replaced. -/
def codeRow : Listing.Row where
  start := 0x7000
  stop := 0x9000
  offset := 0x2000
  permissions := "r-xp".toList
  device := "fd:01".toList
  inode := "1311".toList
  path := "/bin/app (deleted)".toList

/-- A row of a library. -/
def libraryRow : Listing.Row where
  start := 0x1a000
  stop := 0x1b000
  offset := 0
  permissions := "r--p".toList
  device := "fd:01".toList
  inode := "2244".toList
  path := "/lib/libc.so".toList

/-- A row of the program's beginning. -/
def headerRow : Listing.Row where
  start := 0x5000
  stop := 0x7000
  offset := 0
  permissions := "r--p".toList
  device := "fd:01".toList
  inode := "1311".toList
  path := "/bin/app".toList

/-- The segments of the program. -/
def programSegments : List Elf.Segment :=
  [⟨0, 0, 0x1f00⟩, ⟨0x2d50, 0x2d50, 0x1000⟩]

/-- A listing with the program's rows out of order and the library between them, with blanks around
its path. -/
def programListing : String :=
  "7000-9000 r-xp 00002000 fd:01 1311 /bin/app (deleted)" ++ "\n" ++
    ("1A000-1b000 r--p 00000000 fd:01 2244     /lib/libc.so " ++ "\n" ++
      ("5000-7000 r--p 00000000 fd:01 1311 /bin/app" ++ "\n" ++ ""))

theorem headerRow_written :
    headerRow.Written "5000-7000 r--p 00000000 fd:01 1311 /bin/app".toList :=
  ⟨"5000".toList, "7000".toList, "00000000".toList, 0,
    ⟨0, rfl⟩, ⟨0, rfl⟩, ⟨7, rfl⟩, by decide +kernel⟩

theorem fileAddress?_of_programListing :
    ∃ image, Image.ofListing? programListing "/bin/app" = some image ∧
      image.base = 0x5000 + pageStart (linkedBase programSegments) ∧
      loadBias programSegments image.base = 0x5000 ∧
      ∀ symbolizer : Symbolizer, symbolizer.image = image →
        symbolizer.bias = loadBias programSegments image.base →
        ∀ segment ∈ programSegments, ∀ x, roundDown segment.address ≤ x →
          x < roundUp (segment.address + segment.size) →
          symbolizer.fileAddress? (Address.ofNat (0x5000 + x)) = some x := by
  have code : codeRow.Written "7000-9000 r-xp 00002000 fd:01 1311 /bin/app (deleted)".toList :=
    ⟨"7000".toList, "9000".toList, "00002000".toList, 0,
      ⟨0, rfl⟩, ⟨0, rfl⟩, ⟨4, rfl⟩, by decide +kernel⟩
  have library :
      libraryRow.Shown "1A000-1b000 r--p 00000000 fd:01 2244     /lib/libc.so ".toList :=
    ⟨"1A000".toList, "1b000".toList, "00000000".toList, "    /lib/libc.so ".toList,
      ⟨0, rfl⟩, ⟨0, rfl⟩, ⟨7, rfl⟩, by decide +kernel, by decide +kernel⟩
  have nothing : Listing.Shows (Text.lines "".toList) [] := .nil
  have shows : Listing.Shows (Text.lines programListing.toList) [codeRow, libraryRow, headerRow] :=
    Listing.Shows.append (by decide) (by decide) (Listing.Row.shown_of_written code) <|
    Listing.Shows.append (by decide) (by decide) library <|
    Listing.Shows.append (by decide) (by decide) (Listing.Row.shown_of_written headerRow_written)
      nothing
  have loaded : IsLoaded 0x5000 programSegments "/bin/app".toList
      [codeRow, libraryRow, headerRow] :=
    ⟨by decide, by decide⟩
  have laidOut : IsLaidOut programSegments := ⟨List.cons_ne_nil _ _, by decide, Or.inl rfl⟩
  exact fileAddress?_of_loaded laidOut shows loaded

/-- A listing with a program in one piece, and below it a file whose path is that of the program
with a blank at its end. -/
def blankEndListing : String :=
  "1000-2000 r--p 00000000 fd:01 1312 /bin/app " ++ "\n" ++
    ("5000-7000 r--p 00000000 fd:01 1311 /bin/app" ++ "\n" ++ "")

/-- The file below the program is taken for the program's beginning. So the bias is that file's, and
an address of the program is translated to one that its file does not have. -/
theorem loadBias_of_blankEnd :
    let segment : Elf.Segment := ⟨0, 0, 0x2000⟩
    let own := "5000-7000 r--p 00000000 fd:01 1311 /bin/app".toList
    let other := [' '].intercalate ["1000-2000".toList, "r--p".toList, "00000000".toList,
      "fd:01".toList, "1312".toList, "/bin/app ".toList]
    let image : Image := ⟨⟨0x1000, 0x7000⟩, 0x1000⟩
    let symbolizer : Symbolizer :=
      ⟨image, loadBias [segment] image.base, fun _ => .failed, fun _ => none⟩
    IsLaidOut [segment] ∧ Text.lines blankEndListing.toList = [other, own] ∧
      headerRow.Written own ∧ headerRow.IsOf "/bin/app".toList ∧
      Maps 0x5000 segment headerRow.mapping ∧
      Mapping.withoutMark "/bin/app ".toList ≠ Mapping.withoutMark "/bin/app".toList ∧
      Image.ofListing? blankEndListing "/bin/app" = some image ∧
      loadBias [segment] image.base = 0x1000 ∧ loadBias [segment] image.base ≠ 0x5000 ∧
      roundDown segment.address ≤ 0x123 ∧ 0x123 < roundUp (segment.address + segment.size) ∧
      symbolizer.fileAddress? (Address.ofNat (0x5000 + 0x123)) = some 0x4123 := by
  intro segment own other image symbolizer
  have laidOut : IsLaidOut [segment] :=
    ⟨List.cons_ne_nil _ _, List.pairwise_singleton _ _, .inl rfl⟩
  exact ⟨laidOut, by decide +kernel, headerRow_written, by decide, by decide, by decide,
    by decide +kernel, by decide, by decide, by decide, by decide, by decide⟩

end Callstack
