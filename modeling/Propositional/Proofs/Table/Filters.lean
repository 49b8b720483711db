import Propositional.Proofs.Table.Lines

/-! The prints of one table under different filters. Whether it can be printed and the widths of the columns do not
    depend on the filter, so a row is written in the same way in all of them, and the lines of the two filters make up the
    lines of the whole table. Only a row without values has no result and is left out by both. -/

namespace Propositional
open Text

/-! ### Lists that are merged -/

/-- The third list has the entries of the first two, those of each in their order. -/
inductive Interleaves {α : Type} : List α → List α → List α → Prop where
  | nil : Interleaves [] [] []
  | left (x : α) {xs ys zs : List α} : Interleaves xs ys zs → Interleaves (x :: xs) ys (x :: zs)
  | right (y : α) {xs ys zs : List α} : Interleaves xs ys zs → Interleaves xs (y :: ys) (y :: zs)

section
variable {α β : Type}

theorem Interleaves.map {xs ys zs : List α} (f : α → β) (h : Interleaves xs ys zs) :
    Interleaves (xs.map f) (ys.map f) (zs.map f) := by
  induction h with
  | nil => exact .nil
  | left x _ ih => exact .left (f x) ih
  | right y _ ih => exact .right (f y) ih

/-- What satisfies one of two predicates is merged from what satisfies the first one and what satisfies the second one, if
    nothing satisfies both. -/
theorem interleaves_filter {p q : α → Bool} (h : ∀ x, p x = true → q x = false) (l : List α) :
    Interleaves (l.filter p) (l.filter q) (l.filter fun x => p x || q x) := by
  induction l with
  | nil => exact .nil
  | cons x l ih =>
    cases hp : p x with
    | true => simpa [List.filter_cons, hp, h x hp] using ih.left x
    | false =>
      cases hq : q x with
      | true => simpa [List.filter_cons, hp, hq] using ih.right x
      | false => simpa [List.filter_cons, hp, hq] using ih

end

namespace Table

/-- Every row that has a result is in the models of one of the two results. -/
theorem interleaves_models (table : Table) :
    Interleaves (table.models true) (table.models false) (table.rows.filter (· ≠ [])) := by
  have hsplit : (fun row : List Bool => decide (row ≠ [])) =
      fun row => row.getLast? == some true || row.getLast? == some false := by
    funext row
    obtain rfl | ⟨values, result, rfl⟩ := List.eq_nil_or_concat' row
    · rfl
    · cases result <;> simp
  rw [hsplit]
  exact interleaves_filter (fun row hrow => by rw [beq_iff_eq.mp hrow]; rfl) table.rows

namespace Layout

/-- The lines of a printed table: the cells of each row, set into the columns. -/
def lines (layout : Layout) (table : Table) : List (List Char) :=
  (layout.cells table).map fun row =>
    written (layout.widths table) (row.map fun cell => (cell.render layout.compact).toList)

theorem lines_eq (layout : Layout) (table : Table) :
    layout.lines table =
      written (layout.widths table) (headingRecord table) ::
        (table.rows.filter layout.selects).map fun row => written (layout.widths table) (layout.rowRecord row) := by
  rw [← map_written_records, records, List.map_map]
  rfl

/-- Whatever the filter, a table is printed if there is a field for each of its labels, and otherwise not begun. What is
    printed has the same heading and the same line for each row that is selected. The lines of a filter are those of its
    models in their order, and the lines of the two filters, merged in the order of the rows, are those of all rows but the
    empty ones, with which neither filter has a line. -/
theorem interleaves_lines (table : Table) (compact : Bool) :
    (HeadingFits table → ∃ (heading : List Char) (line : List Bool → List Char),
      (∀ filter, ∃ printed, (⟨filter, compact⟩ : Layout).text table = .ok printed ∧
        printed.toList = ((⟨filter, compact⟩ : Layout).lines table).flatMap (· ++ ['\n'])) ∧
      (⟨none, compact⟩ : Layout).lines table = heading :: table.rows.map line ∧
      (∀ result, (⟨some result, compact⟩ : Layout).lines table = heading :: (table.models result).map line) ∧
      Interleaves ((table.models true).map line) ((table.models false).map line)
        ((table.rows.filter (· ≠ [])).map line)) ∧
    (¬HeadingFits table → ∀ filter, (⟨filter, compact⟩ : Layout).text table = .error {}) := by
  have hall : table.rows.filter (⟨none, compact⟩ : Layout).selects = table.rows :=
    List.filter_eq_self.mpr fun row _ => selects_iff.mpr (.inl rfl)
  have hmodels : ∀ result, table.rows.filter (⟨some result, compact⟩ : Layout).selects = table.models result :=
    fun result => rfl
  refine ⟨fun hfits => ?_, fun hwide filter => text_eq_error hwide _⟩
  refine ⟨written ((⟨none, compact⟩ : Layout).widths table) (headingRecord table),
    fun row => written ((⟨none, compact⟩ : Layout).widths table) ((⟨none, compact⟩ : Layout).rowRecord row),
    fun filter => ?_, ?_, fun result => ?_, table.interleaves_models.map _⟩
  · obtain ⟨printed, hok, hprinted⟩ := exists_text_eq_ok hfits ⟨filter, compact⟩
    rw [records, List.map_map] at hprinted
    exact ⟨printed, hok, hprinted⟩
  · rw [lines_eq, hall]
  · rw [lines_eq, hmodels]
    rfl

/-- Rows of all lengths, of which the empty one has a line without a filter only. -/
theorem interleaves_lines_ragged :
    HeadingFits ⟨["a"], "!a", [[true, false], [], [false, true, true], [false]]⟩ ∧
      ∃ (heading : List Char) (line : List Bool → List Char),
        (⟨none, true⟩ : Layout).lines ⟨["a"], "!a", [[true, false], [], [false, true, true], [false]]⟩ =
            heading :: [[true, false], [], [false, true, true], [false]].map line ∧
          Interleaves ([[false, true, true]].map line) ([[true, false], [false]].map line)
            ([[true, false], [false, true, true], [false]].map line) := by
  have hfits : HeadingFits ⟨["a"], "!a", [[true, false], [], [false, true, true], [false]]⟩ := by decide +kernel
  obtain ⟨heading, line, -, hall, -, hmerged⟩ := (interleaves_lines _ true).1 hfits
  exact ⟨hfits, heading, line, hall, hmerged⟩

-- The last value of the longest row has no column.
example :
    [none, some true, some false].map (fun filter =>
        (⟨filter, true⟩ : Layout).text ⟨["a"], "!a", [[true, false], [], [false, true, true], [false]]⟩) =
      [.ok "a | !a\nT | F\n\nF | T\nF\n", .ok "a | !a\nF | T\n", .ok "a | !a\nT | F\nF\n"] := by
  decide +kernel

/-- There is no heading for a label that has a code point more than a field can have. -/
theorem not_forall_exists_heading :
    ¬∀ (table : Table) (compact : Bool), ∃ heading : List Char, ∀ filter,
      ∃ printed, (⟨filter, compact⟩ : Layout).text table = .ok printed ∧ heading <+: printed.toList := by
  intro hall
  obtain ⟨heading, hprints⟩ := hall ⟨[], String.ofList (spaces (Field.largest + 1)), []⟩ false
  obtain ⟨printed, hok, -⟩ := hprints none
  have hwide : ¬HeadingFits ⟨[], String.ofList (spaces (Field.largest + 1)), []⟩ := by
    intro hfits
    have hlabel := hfits (.label (String.ofList (spaces (Field.largest + 1)))) List.mem_cons_self
    rw [Cell.short, String.length_ofList, spaces, List.length_replicate] at hlabel
    exact Nat.not_succ_le_self _ hlabel
  rw [text_eq_error hwide] at hok
  cases hok

end Layout
end Table
end Propositional
