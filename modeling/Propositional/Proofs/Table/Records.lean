import Propositional.Proofs.Results
import Propositional.Proofs.Text.Csv
import Propositional.Table.Layout

/-! The records of a table. It can be written as comma-separated values when the rows that are printed are as long as
    the heading, and then its cells can be read again. A table that is built has a value for each column in every
    row. -/

namespace Propositional
open Text

namespace Table

/-! ### Rows that are built -/

section
variable {vars : List String} {formula : Formula}

theorem length_of_row {index : Nat} {values : List Bool} (h : row vars formula index = .ok values) :
    values.length = vars.length + 1 := by
  obtain ⟨result, -, hvalues⟩ := bind_eq_ok_iff.mp h
  cases hvalues
  simp

theorem length_of_mem_rowsOf {parallel : Bool} {rows : List (List Bool)} (h : rowsOf parallel vars formula = .ok rows) :
    ∀ values ∈ rows, values.length = vars.length + 1 := by
  have hmapM : (List.range (valuationCount vars.length)).mapM (row vars formula) = .ok rows := by
    rw [← h, rowsOf]
    cases parallel with
    | false => rfl
    | true =>
      rw [if_pos rfl, List.mapM_map]
      rfl
  intro values hvalues
  obtain ⟨index, -, hindex⟩ := exists_of_mem_mapM hmapM values hvalues
  exact length_of_row hindex

end

theorem length_of_mem_rows {s : Statement} {options : Options} {table : Table} (h : ofStatement s options = .ok table) :
    ∀ values ∈ table.rows, values.length = table.vars.length + 1 := by
  unfold ofStatement at h
  dsimp only at h
  split at h
  · cases h
  · obtain ⟨rows, hrows, htable⟩ := bind_eq_ok_iff.mp h
    cases htable
    exact length_of_mem_rowsOf hrows

/-! ### Comma-separated values -/

namespace Layout

theorem csv_eq_ok_iff {layout : Layout} {table : Table} {text : String} :
    layout.csv table = .ok text ↔
      (∀ row ∈ table.rows, layout.selects row = true → row.length = table.vars.length + 1) ∧
        text = String.ofList ((layout.records table).flatMap Csv.writeRecord) := by
  have hlengths : (∀ record ∈ ((table.rows.filter layout.selects).map fun row => row.map Cell.value).map
        fun row => row.map fun cell => (cell.render layout.compact).toList,
      record.length = (table.header.map fun cell => (cell.render layout.compact).toList).length) ↔
      ∀ row ∈ table.rows, layout.selects row = true → row.length = table.vars.length + 1 := by
    simp only [List.forall_mem_map, List.mem_filter, and_imp, List.length_map, header, List.length_append,
      List.length_singleton]
  have hwrite : layout.csv table = .ok text ↔
      ∃ chars, Csv.write (layout.records table) = .ok chars ∧ String.ofList chars = text := by
    rw [csv]
    cases Csv.write (layout.records table) with
    | error e => simp [Except.map]
    | ok chars => simp [Except.map]
  rw [hwrite, ← hlengths, records, cells, List.map_cons]
  constructor
  · rintro ⟨chars, hchars, rfl⟩
    obtain ⟨hall, rfl⟩ := Csv.write_cons_eq_ok_iff.mp hchars
    exact ⟨hall, rfl⟩
  · rintro ⟨hall, rfl⟩
    exact ⟨_, Csv.write_cons_eq_ok_iff.mpr ⟨hall, rfl⟩, rfl⟩

theorem exists_csv_eq_ok_iff {layout : Layout} {table : Table} :
    (∃ text, layout.csv table = .ok text) ↔
      ∀ row ∈ table.rows, layout.selects row = true → row.length = table.vars.length + 1 := by
  simp only [csv_eq_ok_iff, exists_and_left, exists_eq, and_true]

theorem exists_csv_eq_ok (layout : Layout) {table : Table}
    (h : ∀ values ∈ table.rows, values.length = table.vars.length + 1) : ∃ text, layout.csv table = .ok text :=
  exists_csv_eq_ok_iff.mpr fun row hrow _ => h row hrow

theorem selects_iff {layout : Layout} {row : List Bool} :
    layout.selects row = true ↔ layout.filter = none ∨ row.getLast? = layout.filter := by
  simp [selects]

/-- A record has a field for the expression at least. -/
theorem ne_nil_of_mem_records {layout : Layout} {table : Table}
    (h : ∀ row ∈ table.rows, layout.selects row = true → row.length = table.vars.length + 1) {record : Csv.Record}
    (hrecord : record ∈ layout.records table) : record ≠ [] := by
  rw [records, cells, List.map_cons] at hrecord
  rintro rfl
  rcases List.mem_cons.mp hrecord with hheader | hrow
  · simp [header] at hheader
  · rw [List.map_map] at hrow
    obtain ⟨row, hmem, hnil⟩ := List.mem_map.mp hrow
    obtain ⟨hrow, hselects⟩ := List.mem_filter.mp hmem
    have hlength := h row hrow hselects
    rw [List.map_eq_nil_iff.mp (List.map_eq_nil_iff.mp hnil)] at hlength
    cases hlength

/-- A table can be written as comma-separated values when the rows that are selected have a value for each of its
    columns, and the text then holds its cells, as they are printed. So can every table that is built. -/
theorem exists_csv_iff_and_read_csv (layout : Layout) :
    (∀ table : Table, (∃ text, layout.csv table = .ok text) ↔
      ∀ row ∈ table.rows, layout.filter = none ∨ row.getLast? = layout.filter → row.length = table.vars.length + 1) ∧
    (∀ (table : Table) (text : String), layout.csv table = .ok text →
      Csv.read text.toList =
        some ((layout.cells table).map fun row => row.map fun cell => (cell.render layout.compact).toList)) ∧
    ∀ (s : Statement) (options : Table.Options) (table : Table), ofStatement s options = .ok table →
      ∃ text, layout.csv table = .ok text := by
  refine ⟨fun table => ?_, fun table text h => ?_, fun s options table h => ?_⟩
  · simp only [exists_csv_eq_ok_iff, selects_iff]
  · obtain ⟨hlength, rfl⟩ := csv_eq_ok_iff.mp h
    rw [String.toList_ofList]
    exact Csv.read_flatMap_writeRecord fun record hrecord => ne_nil_of_mem_records hlength hrecord
  · exact layout.exists_csv_eq_ok (length_of_mem_rows h)

end Layout

end Table
end Propositional
