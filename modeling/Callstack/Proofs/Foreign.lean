import Callstack.Proofs.Image
import Callstack.Proofs.Selection
import Mathlib.Data.List.Pairwise

/-!
# Addresses of other files

An image is one extent, from the lowest mapping of a file to the highest one. Mappings do not
overlap, so an address of another file can only be in the extent if the file is mapped on both sides
of it. A file that is mapped in one piece therefore gives its names to no other file's addresses.
But a file may be mapped again somewhere else, and then the extent has in it whatever lies between.

Which file a row is about is known from its path, without the blank characters around it. Two files
whose paths differ by blanks at the end are taken for the same file.

## Main definitions

* `Listing.Row.Apart`, `Listing.Encloses` — rows that do not overlap, and a file that is mapped on
  both sides of a row

## Main results

* `Image.Describes.contains_iff_encloses` — when an image has addresses of another file in it
* `Symbolizer.unresolved_of_fileAddress?` — addresses outside of the file have no names
* `Symbolizer.foreign_unresolved` — addresses of other files have no names unless they are enclosed
* `Symbolizer.enclosed_resolved_twiceMapped` — enclosed addresses can get the names of the file
-/

namespace Callstack

namespace Listing

/-- Rows that do not overlap. -/
def Row.Apart (a b : Row) : Prop := a.stop ≤ b.start ∨ b.stop ≤ a.start

instance (a b : Row) : Decidable (a.Apart b) := inferInstanceAs (Decidable (_ ∨ _))

instance : Std.Symm Row.Apart where
  symm _ _ := Or.symm

/-- A file is mapped below a row and above it. -/
def Encloses (path : List Char) (rows : List Row) (row : Row) : Prop :=
  (∃ below ∈ rows, below.IsOf path ∧ below.stop ≤ row.start) ∧
    ∃ above ∈ rows, above.IsOf path ∧ row.stop ≤ above.start

instance (path : List Char) (rows : List Row) (row : Row) : Decidable (Encloses path rows row) :=
  inferInstanceAs (Decidable (_ ∧ _))

end Listing

open Listing (Row Shows Encloses)

section Foreign

variable {path : List Char} {rows : List Row} {image : Image} {row foreign : Row} {address : Nat}

/-- A row of another file is either above or below a row of the file. -/
theorem Listing.Row.apart_of_isOf (apart : rows.Pairwise Row.Apart) (member : foreign ∈ rows)
    (isForeign : ¬foreign.IsOf path) (row_mem : row ∈ rows) (isOf : row.IsOf path) :
    row.Apart foreign := by
  refine apart.forall row_mem member ?_
  rintro rfl
  exact isForeign isOf

/-- The rows of a file with the lowest start and the highest stop. -/
theorem Image.Describes.exists_rows
    (describes : image.Describes (Listing.mappingsOf path rows)) :
    (∃ row ∈ rows, row.IsOf path ∧ row.start = image.range.start) ∧
      ∃ row ∈ rows, row.IsOf path ∧ row.stop = image.range.stop := by
  obtain ⟨lowest, lowest_mem, isStart⟩ := describes.start_mem
  obtain ⟨highest, highest_mem, isStop⟩ := describes.stop_mem
  obtain ⟨low, low_mem, lowIsOf, rfl⟩ := Listing.mem_mappingsOf.mp lowest_mem
  obtain ⟨high, high_mem, highIsOf, rfl⟩ := Listing.mem_mappingsOf.mp highest_mem
  exact ⟨⟨low, low_mem, lowIsOf, isStart⟩, high, high_mem, highIsOf, isStop⟩

/-- An image has the addresses of another file in it exactly if its file is mapped on both sides of
them. -/
theorem Image.Describes.contains_iff_encloses
    (describes : image.Describes (Listing.mappingsOf path rows))
    (ordered : ∀ row ∈ rows, row.start < row.stop) (apart : rows.Pairwise Row.Apart)
    (member : foreign ∈ rows) (isForeign : ¬foreign.IsOf path)
    (start_le : foreign.start ≤ address) (lt_stop : address < foreign.stop) :
    image.range.contains address = true ↔ Encloses path rows foreign := by
  rw [Extent.contains, Bool.and_eq_true, decide_eq_true_iff, decide_eq_true_iff]
  constructor
  · rintro ⟨image_start_le, lt_image_stop⟩
    obtain ⟨⟨low, low_mem, lowIsOf, isStart⟩, high, high_mem, highIsOf, isStop⟩ :=
      describes.exists_rows
    -- The lowest row begins in front of the address, so it cannot be above the other file.
    constructor
    · refine ⟨low, low_mem, lowIsOf, ?_⟩
      rcases Listing.Row.apart_of_isOf apart member isForeign low_mem lowIsOf with below | above
      · exact below
      · omega
    · refine ⟨high, high_mem, highIsOf, ?_⟩
      rcases Listing.Row.apart_of_isOf apart member isForeign high_mem highIsOf with below | above
      · omega
      · exact above
  · -- The image reaches from the row below to the row above, with all that lies between.
    rintro ⟨⟨below, below_mem, belowIsOf, stop_le⟩, above, above_mem, aboveIsOf, le_start⟩
    have lower : image.range.start ≤ below.start :=
      describes.start_le _ (Listing.mem_mappingsOf.mpr ⟨below, below_mem, belowIsOf, rfl⟩)
    have upper : above.stop ≤ image.range.stop :=
      describes.le_stop _ (Listing.mem_mappingsOf.mpr ⟨above, above_mem, aboveIsOf, rfl⟩)
    have below_lt := ordered below below_mem
    have above_lt := ordered above above_mem
    constructor
    · omega
    · omega

end Foreign

namespace Symbolizer

variable {symbolizer : Symbolizer} {address : Address}

/-- An address that is not one of the file has no name, whatever way is taken to ask for it. -/
theorem unresolved_of_fileAddress? (outside : symbolizer.fileAddress? address = none)
    (lock : Lock) :
    (symbolizer.backend lock).lookup address = none ∧
      (symbolizer.backend lock).resolve address = none ∧
      ∀ addresses i, addresses[i]? = some address →
        ((symbolizer.backend lock).resolveAll addresses).get? i = none := by
  have agree := symbolizer.namesAgree lock
  have lookup : (symbolizer.backend lock).lookup address = none := by
    change (symbolizer.rawName? lock address).map Entry.ofLinkerName = none
    rw [rawName?_eq_bind, outside]
    rfl
  have resolve : (symbolizer.backend lock).resolve address = none := by
    rw [agree.resolve_eq, lookup]
    rfl
  refine ⟨lookup, resolve, ?_⟩
  intro addresses i atIndex
  rw [agree.get?_resolveAll, atIndex, Option.bind_some, resolve]
  rfl

/-- An address in a mapping of another file is in the image exactly if the file of the image is
mapped on both sides of that mapping. If it is not, then the address is not one of the file and has
no name. Files are told apart by their paths, without blanks around them and without the mark of
replaced files. -/
theorem foreign_unresolved {listing path : String} {rows : List Row} {image : Image}
    (shows : Shows (Text.lines listing.toList) rows)
    (ordered : ∀ row ∈ rows, row.start < row.stop) (apart : rows.Pairwise Row.Apart)
    (found : Image.ofListing? listing path = some image) {foreign : Row} (member : foreign ∈ rows)
    (isForeign : ¬foreign.IsOf path.toList) {address : Address}
    (start_le : foreign.start ≤ address.toNat) (lt_stop : address.toNat < foreign.stop) :
    (image.range.contains address.toNat = true ↔ Encloses path.toList rows foreign) ∧
      (¬Encloses path.toList rows foreign →
        ∀ symbolizer : Symbolizer, symbolizer.image = image →
          symbolizer.fileAddress? address = none ∧
            ∀ lock, (symbolizer.backend lock).lookup address = none ∧
              (symbolizer.backend lock).resolve address = none ∧
              ∀ addresses i, addresses[i]? = some address →
                ((symbolizer.backend lock).resolveAll addresses).get? i = none) := by
  rw [Image.ofListing?_of_shows shows] at found
  -- The image is one piece, so it covers the mapping if the file has rows on both sides of it.
  have contains_iff := (Image.describes_of_ofMappings? found).contains_iff_encloses ordered apart
    member isForeign start_le lt_stop
  refine ⟨contains_iff, ?_⟩
  intro notEnclosed symbolizer isImage
  have outside : symbolizer.fileAddress? address = none := by
    rw [fileAddress?, isImage, if_neg (notEnclosed ∘ contains_iff.mp)]
  exact ⟨outside, unresolved_of_fileAddress? outside⟩

end Symbolizer

/-! ### A program that is mapped twice -/

namespace Listing

theorem noBlank_code : Text.NoBlank "r-xp".toList := by decide

theorem noBlank_device : Text.NoBlank "fd:01".toList := by decide

/-- A row of one page of code, which is given by its number. -/
def page (number : Fin 16) (path : List Char) (noLineFeed : '\n' ∉ path)
    (trimmed : Text.IsTrimmed path) : Row where
  start := number * pageSize
  stop := (number + 1) * pageSize
  offset := 0
  permissions := "r-xp".toList
  device := "fd:01".toList
  inode := "11".toList
  path := path
  start_lt := Nat.lt_trans ((Nat.mul_lt_mul_right (by decide)).mpr number.isLt) (by decide)
  stop_lt := Nat.lt_of_le_of_lt (Nat.mul_le_mul_right pageSize number.isLt) (by decide)
  offset_lt := Row.zero_lt_wordLimit
  permissions_noBlank := noBlank_code
  device_noBlank := noBlank_device
  path_noLineFeed := noLineFeed
  path_trimmed := trimmed

theorem lineFeed_not_mem_program : '\n' ∉ "/bin/app".toList := by decide

theorem isTrimmed_program : Text.IsTrimmed "/bin/app".toList := by decide

/-- A page of a program. -/
def programPage (number : Fin 16) : Row :=
  page number "/bin/app".toList lineFeed_not_mem_program isTrimmed_program

theorem lineFeed_not_mem_library : '\n' ∉ "/lib/libc.so".toList := by decide

theorem isTrimmed_library : Text.IsTrimmed "/lib/libc.so".toList := by decide

/-- A page of a library. -/
def libraryPage (number : Fin 16) : Row :=
  page number "/lib/libc.so".toList lineFeed_not_mem_library isTrimmed_library

/-- The rows of a program that is mapped twice, of a library between and behind its mappings, and of
a file whose path has a blank at its end, which is not part of the row. -/
def twiceMappedRows : List Row :=
  [programPage 1, libraryPage 3, programPage 5, programPage 7, libraryPage 9]

/-- The listing of these rows. -/
def twiceMapped : String :=
  "1000-2000 r-xp 00000000 fd:01 11 /bin/app" ++ "\n" ++
    ("3000-4000 r-xp 00000000 fd:01 11 /lib/libc.so" ++ "\n" ++
      ("5000-6000 r-xp 00000000 fd:01 11 /bin/app" ++ "\n" ++
        ("7000-8000 r-xp 00000000 fd:01 11 /bin/app " ++ "\n" ++
          ("9000-a000 r-xp 00000000 fd:01 11 /lib/libc.so" ++ "\n" ++ ""))))

theorem ordered_twiceMapped : ∀ row ∈ twiceMappedRows, row.start < row.stop := by decide

theorem apart_twiceMapped : twiceMappedRows.Pairwise Row.Apart := by decide

/-- The path of a file may end with a blank, but the row that is read does not tell. -/
theorem shown_blankEnd : (programPage 7).Shown
    "7000-8000 r-xp 00000000 fd:01 11 /bin/app ".toList :=
  ⟨"7000".toList, "8000".toList, "00000000".toList, "/bin/app ".toList,
    ⟨0, rfl⟩, ⟨0, rfl⟩, ⟨7, rfl⟩, by decide +kernel, by decide +kernel⟩

theorem shows_twiceMapped : Shows (Text.lines twiceMapped.toList) twiceMappedRows := by
  have first : (programPage 1).Shown
      "1000-2000 r-xp 00000000 fd:01 11 /bin/app".toList :=
    ⟨"1000".toList, "2000".toList, "00000000".toList, "/bin/app".toList,
      ⟨0, rfl⟩, ⟨0, rfl⟩, ⟨7, rfl⟩, by decide +kernel, by decide +kernel⟩
  have between : (libraryPage 3).Shown
      "3000-4000 r-xp 00000000 fd:01 11 /lib/libc.so".toList :=
    ⟨"3000".toList, "4000".toList, "00000000".toList, "/lib/libc.so".toList,
      ⟨0, rfl⟩, ⟨0, rfl⟩, ⟨7, rfl⟩, by decide +kernel, by decide +kernel⟩
  have second : (programPage 5).Shown
      "5000-6000 r-xp 00000000 fd:01 11 /bin/app".toList :=
    ⟨"5000".toList, "6000".toList, "00000000".toList, "/bin/app".toList,
      ⟨0, rfl⟩, ⟨0, rfl⟩, ⟨7, rfl⟩, by decide +kernel, by decide +kernel⟩
  have behind : (libraryPage 9).Shown
      "9000-a000 r-xp 00000000 fd:01 11 /lib/libc.so".toList :=
    ⟨"9000".toList, "a000".toList, "00000000".toList, "/lib/libc.so".toList,
      ⟨0, rfl⟩, ⟨0, rfl⟩, ⟨7, rfl⟩, by decide +kernel, by decide +kernel⟩
  have nothing : Shows (Text.lines "".toList) [] := .nil
  exact Shows.append (by decide) (by decide) first <|
    Shows.append (by decide) (by decide) between <|
    Shows.append (by decide) (by decide) second <|
    Shows.append (by decide) (by decide) shown_blankEnd <|
    Shows.append (by decide) (by decide) behind nothing

end Listing

namespace Symbolizer

open Listing (twiceMapped twiceMappedRows libraryPage programPage shows_twiceMapped
  ordered_twiceMapped apart_twiceMapped shown_blankEnd)

/-- A symbolizer for the program that has a name for every address of the file. -/
def twiceMappedProgram : Symbolizer where
  image := ⟨⟨0x1000, 0x8000⟩, 0x1000⟩
  bias := 0x1000
  debugInfo _ := .failed
  table _ := some "f"

/-- The image of the program is that of its three rows. -/
theorem ofListing?_twiceMapped :
    Image.ofListing? twiceMapped "/bin/app" = some twiceMappedProgram.image := by
  rw [Image.ofListing?_of_shows shows_twiceMapped,
    Image.ofMappings?_eq_some_iff]
  constructor <;> decide

/-- The page of the library behind the program is not in the image, and its addresses have no
name. -/
theorem foreign_unresolved_twiceMapped :
    Image.ofListing? twiceMapped "/bin/app" = some twiceMappedProgram.image ∧
      twiceMappedProgram.fileAddress? ⟨0x9800⟩ = none ∧
      (twiceMappedProgram.backend .free).lookup ⟨0x9800⟩ = none := by
  have member : libraryPage 9 ∈ twiceMappedRows := by simp [twiceMappedRows]
  have start_le : (libraryPage 9).start ≤ (⟨0x9800⟩ : Address).toNat := by decide
  have lt_stop : (⟨0x9800⟩ : Address).toNat < (libraryPage 9).stop := by decide
  obtain ⟨-, behind⟩ := foreign_unresolved shows_twiceMapped ordered_twiceMapped
    apart_twiceMapped ofListing?_twiceMapped member (by decide) start_le lt_stop
  obtain ⟨outside, unresolved⟩ := behind (by decide) twiceMappedProgram rfl
  exact ⟨ofListing?_twiceMapped, outside, (unresolved .free).1⟩

/-- The page of the library between the mappings of the program is in the image, and its addresses
have the names of the program. So have the addresses of the file whose path has a blank at its
end. -/
theorem enclosed_resolved_twiceMapped :
    Shows (Text.lines twiceMapped.toList) twiceMappedRows ∧
      (∀ row ∈ twiceMappedRows, row.start < row.stop) ∧ twiceMappedRows.Pairwise Row.Apart ∧
      Image.ofListing? twiceMapped "/bin/app" = some twiceMappedProgram.image ∧
      (∃ foreign ∈ twiceMappedRows, ¬foreign.IsOf "/bin/app".toList ∧
        foreign.start ≤ (⟨0x3800⟩ : Address).toNat ∧ (⟨0x3800⟩ : Address).toNat < foreign.stop) ∧
      twiceMappedProgram.image.range.contains 0x3800 = true ∧
      twiceMappedProgram.fileAddress? ⟨0x3800⟩ = some 0x2800 ∧
      (twiceMappedProgram.backend .free).lookup ⟨0x3800⟩ = some (.ofLinkerName "f") ∧
      (twiceMappedProgram.backend .free).resolve ⟨0x3800⟩ = some "f" ∧
      ((twiceMappedProgram.backend .free).resolveAll [⟨0x3800⟩]).get? 0 = some "f" ∧
      (∃ row ∈ twiceMappedRows, row.Shown "7000-8000 r-xp 00000000 fd:01 11 /bin/app ".toList ∧
        row.start ≤ (⟨0x7800⟩ : Address).toNat ∧ (⟨0x7800⟩ : Address).toNat < row.stop) ∧
      Mapping.withoutMark "/bin/app ".toList ≠ Mapping.withoutMark "/bin/app".toList ∧
      twiceMappedProgram.image.range.contains 0x7800 = true ∧
      (twiceMappedProgram.backend .free).resolve ⟨0x7800⟩ = some "f" := by
  refine ⟨shows_twiceMapped, ordered_twiceMapped, apart_twiceMapped, ofListing?_twiceMapped,
    ⟨libraryPage 3, by simp [twiceMappedRows], by decide, by decide, by decide⟩,
    by decide, by decide, rfl, by decide +kernel, by decide +kernel,
    ⟨programPage 7, by simp [twiceMappedRows], shown_blankEnd, by decide,
      by decide⟩, by decide, by decide, by decide +kernel⟩

end Symbolizer

end Callstack
