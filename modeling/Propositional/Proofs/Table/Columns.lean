import Mathlib.Data.List.Forall2
import Propositional.Proofs.Results
import Propositional.Proofs.Text.Separated
import Propositional.Proofs.Text.Trim
import Propositional.Proofs.Token.Scans
import Propositional.Table.Layout

/-! The columns of a record that is written as a line. The fields but the last are filled up to the width of their
    column, and a separator follows; trimming takes away only what stands behind the text of the last field. So the
    columns begin where the widths say, whatever the fields are. A name has neither white space nor a part of a
    separator in it, and so a line of names can be split again. -/

namespace Propositional
open Text

/-! ### Names as fields -/

namespace IsName
variable {v : String}

theorem notMem_of_isBlank (h : IsName v) {c : Char} (hc : isBlank c = true) : c ∉ v.toList := by
  intro hmem
  have hletter := h.2 c hmem
  rw [isAlphabetic_eq_false_of_isBlank hc] at hletter
  cases hletter

theorem notMem_symbol (h : IsName v) {c : Char} (hc : c ∈ symbolChars) : c ∉ v.toList := by
  intro hmem
  have hletter := h.2 c hmem
  rw [isAlphabetic_symbol hc] at hletter
  cases hletter

theorem isTrimmed (h : IsName v) : IsTrimmed v.toList :=
  isTrimmed_of_forall fun _ hc => Bool.eq_false_iff.mpr fun hblank => h.notMem_of_isBlank hblank hc

theorem exists_not_blank (h : IsName v) : ∃ c ∈ v.toList, isBlank c = false := by
  obtain ⟨c, hc⟩ := List.exists_mem_of_ne_nil v.toList fun hnil => h.1 (String.toList_eq_nil_iff.mp hnil)
  exact ⟨c, hc, Bool.eq_false_iff.mpr fun hblank => h.notMem_of_isBlank hblank hc⟩

end IsName

/-- A printed truth value is a name, too. -/
theorem isName_render (compact x : Bool) : IsName ((Cell.value x).render compact) := by
  cases compact <;> cases x <;> decide +kernel

namespace Table
namespace Layout

/-! ### The fields in front of the last -/

/-- The place where column `j` begins, behind the columns in front of it and their separators. -/
def columnStart : List Nat → Nat → Nat
  | width :: widths, j + 1 => width + 3 + columnStart widths j
  | _, _ => 0

/-- The field is not longer than its column is wide. -/
def Fits (width : Nat) (field : List Char) : Prop := field.length ≤ width

/-- The field, filled up to the width of its column, and the separator behind it. -/
def filled (width : Nat) (field : List Char) : List Char := field ++ spaces (width - field.length) ++ " | ".toList

/-- The fields, each filled up to the width of its column and with a separator behind it. -/
def leading (widths : List Nat) (fields : Csv.Record) : List Char :=
  (List.zipWith (fun width => Field.fill { width }) widths fields).flatMap (· ++ " | ".toList)

theorem isBlank_of_mem_spaces {n : Nat} : ∀ c ∈ spaces n, isBlank c = true := by
  intro c hc
  rw [List.eq_of_mem_replicate hc]
  decide +kernel

theorem fill_left (width : Nat) (field : List Char) :
    Field.fill { width } field = field ++ spaces (width - field.length) := rfl

section
variable {widths : List Nat} {fields : Csv.Record}

theorem leading_cons (width : Nat) (field : List Char) :
    leading (width :: widths) (field :: fields) = filled width field ++ leading widths fields := rfl

theorem length_filled {width : Nat} {field : List Char} (h : Fits width field) :
    (filled width field).length = width + 3 := by
  have hlength := Field.length_fill .left width field
  rw [fill_left, Nat.max_eq_left h] at hlength
  rw [filled, List.length_append, hlength]
  rfl

theorem drop_leading (h : List.Forall₂ Fits widths fields) (last : List Char) :
    (leading widths fields ++ last).drop (columnStart widths widths.length) = last := by
  induction h with
  | nil => rfl
  | cons hfit h ih =>
    rw [List.length_cons, columnStart, ← List.drop_drop, leading_cons, List.append_assoc,
      List.drop_left' (length_filled hfit), ih]

theorem filled_prefix_drop_leading (h : List.Forall₂ Fits widths fields) (last : List Char) {j width : Nat}
    {field : List Char} (hwidth : widths[j]? = some width) (hfield : fields[j]? = some field) :
    filled width field <+: (leading widths fields ++ last).drop (columnStart widths j) := by
  induction h generalizing j with
  | nil => cases hwidth
  | cons hfit h ih =>
    cases j with
    | zero =>
      cases hwidth
      cases hfield
      rw [leading_cons, List.append_assoc]
      exact List.prefix_append _ _
    | succ j =>
      -- the first column is dropped whole, because its field is not longer than it is wide
      rw [columnStart, ← List.drop_drop, leading_cons, List.append_assoc,
        List.drop_left' (length_filled hfit)]
      exact ih hwidth hfield

theorem exists_of_mem_zipWith_fill {part : List Char}
    (h : part ∈ List.zipWith (fun width => Field.fill { width }) widths fields) :
    ∃ field ∈ fields, ∃ n, part = field ++ spaces n := by
  rw [← List.map_uncurry_zip_eq_zipWith] at h
  obtain ⟨⟨width, field⟩, hzip, rfl⟩ := List.mem_map.mp h
  exact ⟨field, (List.of_mem_zip hzip).2, _, fill_left width field⟩

theorem notMem_append_spaces {c : Char} {field : List Char} (hfield : c ∉ field) (hc : c ≠ ' ') (n : Nat) :
    c ∉ field ++ spaces n := by
  simp [hfield, hc, spaces]

theorem notMem_leading {c : Char} (hfields : ∀ field ∈ fields, c ∉ field) (hc : c ∉ " | ".toList) :
    c ∉ leading widths fields := by
  intro hmem
  obtain ⟨part, hpart, hmem⟩ := List.mem_flatMap.mp hmem
  obtain ⟨field, hfield, n, rfl⟩ := exists_of_mem_zipWith_fill hpart
  have hspace : c ≠ ' ' := by
    rintro rfl
    exact hc (by decide)
  exact (List.mem_append.mp hmem).elim (notMem_append_spaces (hfields field hfield) hspace n) hc

end

/-! ### Records -/

/-- The line of a record, without its line feed. -/
def written (widths : List Nat) (record : Csv.Record) : List Char :=
  trimEnd (" | ".toList.intercalate (List.zipWith (fun width => Field.fill { width }) widths record))

section
variable {widths : List Nat} {width : Nat} {fields : Csv.Record} {last : List Char}

theorem written_concat (hlength : widths.length = fields.length) (hlast : ∃ c ∈ last, isBlank c = false) :
    written (widths ++ [width]) (fields ++ [last]) = leading widths fields ++ trimEnd last := by
  have hfilled : ∃ c ∈ Field.fill { width } last, isBlank c = false := by
    obtain ⟨c, hc, hblank⟩ := hlast
    exact ⟨c, List.mem_append_left _ hc, hblank⟩
  rw [written, List.zipWith_append hlength, List.zipWith_cons_cons, List.zipWith_nil_left, intercalate_concat,
    trimEnd_append_of_exists hfilled, fill_left, trimEnd_append isBlank_of_mem_spaces, leading]

/-- Whatever there are columns for is written, if they are not too wide. -/
theorem line_eq_ok (h : ∀ width ∈ widths, width ≤ Field.largest) (record : Csv.Record) :
    line widths record = .ok (written widths record ++ ['\n']) := by
  have hfields : (widths.zip record).mapM (fun column => Field.set { width := column.1 } column.2) =
      .ok ((widths.zip record).map fun column => Field.fill { width := column.1 } column.2) :=
    mapM_eq_ok fun column hcolumn => Field.set_eq_ok (h _ (List.of_mem_zip hcolumn).1) _
  rw [line, hfields, written, ← List.map_uncurry_zip_eq_zipWith]
  rfl

/-- A record with a field for every column cannot be written when a column is too wide. -/
theorem line_eq_error (h : ∃ width ∈ widths, Field.largest < width) {record : Csv.Record}
    (hlength : record.length = widths.length) : line widths record = .error {} := by
  have hfields : (widths.zip record).mapM (fun column => Field.set { width := column.1 } column.2) = .error {} := by
    refine mapM_eq_error ?_ fun _ _ _ _ => rfl
    obtain ⟨width, hwidth, hlarge⟩ := h
    rw [← List.map_fst_zip (Nat.le_of_eq hlength.symm)] at hwidth
    obtain ⟨column, hcolumn, rfl⟩ := List.mem_map.mp hwidth
    exact ⟨column, hcolumn, Field.set_eq_error hlarge _⟩
  rw [line, hfields]
  rfl

/-- The line holds the record in columns: each field but the last begins where its column begins, is filled up with
    spaces to the width of the column, and a separator follows. The text of the last field, without the white space at
    its end, stands behind the separators. -/
structure Aligned (widths : List Nat) (record : Csv.Record) (line : List Char) : Prop where
  length_record : record.length = widths.length + 1
  column : ∀ j width field, widths[j]? = some width → record[j]? = some field →
    Fits width field ∧ filled width field <+: line.drop (columnStart widths j)
  last : ∀ field, record[widths.length]? = some field →
    trimEnd field ≠ [] ∧ line.drop (columnStart widths widths.length) = trimEnd field

theorem aligned_written (h : List.Forall₂ Fits widths fields) (hlast : ∃ c ∈ last, isBlank c = false) :
    Aligned widths (fields ++ [last]) (written (widths ++ [width]) (fields ++ [last])) := by
  have hlength := h.length_eq
  rw [written_concat hlength hlast]
  refine ⟨by simp [hlength], fun j width field hwidth hfield => ?_, fun field hfield => ?_⟩
  · have hj : j < fields.length := by
      rw [← hlength]
      exact (List.getElem?_eq_some_iff.mp hwidth).1
    rw [List.getElem?_append_left hj] at hfield
    have hzip : (width, field) ∈ widths.zip fields :=
      List.mem_of_getElem? (List.getElem?_zip_eq_some.mpr ⟨hwidth, hfield⟩)
    exact ⟨(List.forall₂_iff_zip.mp h).2 hzip, filled_prefix_drop_leading h _ hwidth hfield⟩
  · rw [hlength, List.getElem?_concat_length] at hfield
    cases hfield
    exact ⟨trimEnd_ne_nil hlast, drop_leading h _⟩

theorem map_trim_zipWith_fill (hlength : widths.length = fields.length) (hfields : ∀ field ∈ fields, IsTrimmed field) :
    (List.zipWith (fun width => Field.fill { width }) widths fields).map trim = fields := by
  induction fields generalizing widths with
  | nil => simp
  | cons field fields ih =>
    cases widths with
    | nil => cases hlength
    | cons width widths =>
      obtain ⟨hfield, hfields⟩ := List.forall_mem_cons.mp hfields
      rw [List.zipWith_cons_cons, List.map_cons, ih (Nat.succ_inj.mp hlength) hfields, fill_left,
        hfield.trim_append isBlank_of_mem_spaces]

/-- A line of names can be split at the separators: its parts, without the spaces, are the names. -/
theorem map_trim_splitOnText_written {names : List String} {v : String} (hlength : widths.length = names.length)
    (hnames : ∀ v ∈ names, IsName v) (hv : IsName v) :
    (splitOnText " | ".toList (written (widths ++ [width]) (names.map String.toList ++ [v.toList]))).map trim =
      names.map String.toList ++ [v.toList] := by
  have hbar : ∀ {v : String}, IsName v → '|' ∉ v.toList := fun hv => hv.notMem_symbol (by decide)
  have hlength' : widths.length = (names.map String.toList).length := by rw [List.length_map, hlength]
  -- a separator begins in no part, since none has a bar
  have hparts : ∀ part ∈ List.zipWith (fun width => Field.fill { width }) widths (names.map String.toList) ++ [v.toList],
      '|' ∉ part := by
    intro part hpart
    rcases List.mem_append.mp hpart with hpart | hpart
    · obtain ⟨field, hfield, n, rfl⟩ := exists_of_mem_zipWith_fill hpart
      obtain ⟨v, hv, rfl⟩ := List.mem_map.mp hfield
      exact notMem_append_spaces (hbar (hnames v hv)) (by decide) n
    · rw [List.mem_singleton.mp hpart]
      exact hbar hv
  rw [written_concat hlength' hv.exists_not_blank, hv.isTrimmed.trimEnd_eq, leading, ← intercalate_concat,
    show " | ".toList = [' ', '|', ' '] from rfl, splitOnText_intercalate (by decide) (by simp) hparts, List.map_append,
    map_trim_zipWith_fill hlength' (List.forall_mem_map.mpr fun v hv => (hnames v hv).isTrimmed), List.map_singleton,
    hv.isTrimmed.trim_eq]

end
end Layout
end Table
end Propositional
