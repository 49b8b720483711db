import Propositional.Proofs.Formula.RoundTrip
import Propositional.Proofs.Table.Building
import Propositional.Proofs.Table.Columns
import Propositional.Proofs.Table.Records
import Propositional.Proofs.Token.Spacing

/-! The lines of a printed table. It is printed when there is a field for each label of its heading, and for the table of
    a text when there is one for the text. The labels over the columns of the variables and the values are names, and the
    expression is not blank, so that the records stand in columns and the values can be read off their lines. The only
    line feeds within a record are those of the expression. -/

namespace Propositional
open Text

/-- A statement has a token at least. -/
theorem Statement.exists_not_blank_of_parse {text : String} {s : Statement} (h : parse text = .ok s) :
    ∃ c ∈ text.toList, isBlank c = false := by
  obtain ⟨⟨tokens, ht, hd⟩, -, -⟩ := parse_eq_ok_iff.mp h
  by_contra hnone
  have hblank : ∀ c ∈ text.toList, isBlank c = true := by
    intro c hc
    by_contra hc'
    exact hnone ⟨c, hc, Bool.eq_false_iff.mpr hc'⟩
  have hscan := Scans.blanks hblank .nil
  rw [List.append_nil] at hscan
  obtain ⟨tokens', ht', hnil⟩ := scans_iff.mp hscan
  cases ht.symm.trans ht'
  rw [hnil] at hd
  exact Formula.tokens_ne_nil s.formula (derives_disjunction_iff.mp hd).1.symm

namespace Table

/-! ### Tables that are built -/

/-- The table has a name over each column but the last, an expression that is not blank over the last one, and a value
    for each column in every row. -/
structure Printable (table : Table) : Prop where
  names : ∀ v ∈ table.vars, IsName v
  expression : ∃ c ∈ table.expression.toList, isBlank c = false
  length_row : ∀ row ∈ table.rows, row.length = table.vars.length + 1

theorem printable_of_ofText {text : String} {options : Options} {table : Table} (h : ofText text options = .ok table) :
    Printable table := by
  obtain ⟨s, hs, htable⟩ := exists_tabulates_of_ofText h
  refine ⟨fun v hv => (Statement.wellFormed_of_parse hs).names v ((htable.vars.mem_iff v).mp hv), ?_, htable.length_row⟩
  rw [htable.expression]
  exact Statement.exists_not_blank_of_parse hs

namespace Layout
variable {text : String} {options : Options} {table : Table} {row : List Bool}

/-! ### The records of a table -/

/-- The widths of the columns of the variables. -/
def varWidths (layout : Layout) (table : Table) : List Nat :=
  table.vars.map fun v => max v.length (if layout.compact then 1 else 5)

def headingRecord (table : Table) : Csv.Record := table.vars.map String.toList ++ [table.expression.toList]

def rowRecord (layout : Layout) (row : List Bool) : Csv.Record :=
  row.map fun x => ((Cell.value x).render layout.compact).toList

theorem widths_eq (layout : Layout) (table : Table) :
    layout.widths table = layout.varWidths table ++ [max table.expression.length layout.valueWidth] := by
  simp [widths, header, Cell.short, varWidths, valueWidth]

theorem records_eq (layout : Layout) (table : Table) :
    layout.records table = headingRecord table :: (table.rows.filter layout.selects).map layout.rowRecord := by
  simp [records, cells, header, headingRecord, rowRecord, Cell.render, Cell.short, Cell.long]

theorem map_written_records (layout : Layout) (table : Table) :
    (layout.records table).map (written (layout.widths table)) =
      written (layout.widths table) (headingRecord table) ::
        (table.rows.filter layout.selects).map fun row => written (layout.widths table) (layout.rowRecord row) := by
  rw [records_eq, List.map_cons, List.map_map]
  rfl

/-! ### Tables that are printed -/

/-- There is a field for each label of the heading. -/
def HeadingFits (table : Table) : Prop := ∀ cell ∈ table.header, cell.short.length ≤ Field.largest

instance (table : Table) : Decidable (HeadingFits table) :=
  inferInstanceAs (Decidable (∀ cell ∈ table.header, cell.short.length ≤ Field.largest))

theorem headingFits_iff {layout : Layout} :
    HeadingFits table ↔ ∀ width ∈ layout.widths table, width ≤ Field.largest := by
  have hvalue : layout.valueWidth ≤ Field.largest := by
    rw [valueWidth]
    split <;> decide
  rw [HeadingFits, widths, List.forall_mem_map]
  exact forall₂_congr fun cell _ => ⟨fun hcell => Nat.max_le.mpr ⟨hcell, hvalue⟩, fun hwidth => (Nat.max_le.mp hwidth).1⟩

/-- The lines of the printed table, one for each record. -/
theorem exists_text_eq_ok (h : HeadingFits table) (layout : Layout) :
    ∃ printed, layout.text table = .ok printed ∧
      printed.toList = ((layout.records table).map (written (layout.widths table))).flatMap (· ++ ['\n']) := by
  have hlines : (layout.records table).mapM (line (layout.widths table)) =
      .ok ((layout.records table).map fun record => written (layout.widths table) record ++ ['\n']) :=
    mapM_eq_ok fun record _ => line_eq_ok (headingFits_iff.mp h) record
  refine ⟨_, by rw [text, hlines]; rfl, ?_⟩
  rw [String.toList_ofList, ← List.flatMap_def, List.flatMap_map]

/-- The heading comes first and has no line, so nothing is printed. -/
theorem text_eq_error (h : ¬HeadingFits table) (layout : Layout) : layout.text table = .error {} := by
  have hwide : ∃ width ∈ layout.widths table, Field.largest < width := by
    simpa [@headingFits_iff table layout] using h
  have hheading : line (layout.widths table) (headingRecord table) = .error {} :=
    line_eq_error hwide (by simp [headingRecord, widths, header])
  rw [text, records_eq, List.mapM_cons, hheading]
  rfl

/-- Of the labels of a table that is built the expression is the longest. -/
theorem headingFits_iff_of_ofText (h : ofText text options = .ok table) :
    HeadingFits table ↔ text.length ≤ Field.largest := by
  obtain ⟨s, hs, htable⟩ := exists_tabulates_of_ofText h
  have hname : ∀ v ∈ table.vars, v.length ≤ text.length := by
    intro v hv
    have hmem := Token.mem_filterMap_name?.mp ((htable.vars.mem_iff v).mp hv)
    rw [← @String.length_toList text]
    exact (Statement.scans_of_parse hs).length_name_le hmem
  constructor
  · intro hfits
    have hlast := hfits (.label table.expression) (by simp [header])
    rwa [htable.expression] at hlast
  · intro hlength cell hcell
    rw [header, htable.expression] at hcell
    obtain ⟨label, hlabel, rfl⟩ := List.mem_map.mp hcell
    rcases List.mem_append.mp hlabel with hv | hv
    · exact (hname label hv).trans hlength
    · rw [List.mem_singleton.mp hv]
      exact hlength

/-! ### Columns -/

theorem fits_vars (layout : Layout) (table : Table) :
    List.Forall₂ Fits (layout.varWidths table) (table.vars.map String.toList) := by
  rw [varWidths, List.forall₂_map_left_iff, List.forall₂_map_right_iff, List.forall₂_same]
  intro v _
  rw [Fits, String.length_toList]
  exact Nat.le_max_left _ _

theorem fits_values (layout : Layout) {values : List Bool} (h : values.length = table.vars.length) :
    List.Forall₂ Fits (layout.varWidths table) (layout.rowRecord values) := by
  have hvalue : ∀ x, ((Cell.value x).render layout.compact).toList.length ≤ if layout.compact then 1 else 5 := by
    intro x
    cases layout.compact <;> cases x <;> decide
  refine List.forall₂_iff_zip.mpr ⟨by simp [varWidths, rowRecord, h], fun {width field} hzip => ?_⟩
  obtain ⟨hwidth, hfield⟩ := List.of_mem_zip hzip
  obtain ⟨v, -, rfl⟩ := List.mem_map.mp hwidth
  obtain ⟨x, -, rfl⟩ := List.mem_map.mp hfield
  exact (hvalue x).trans (Nat.le_max_right _ _)

/-- A row of a printable table is its values and then its result. -/
theorem exists_eq_concat (h : Printable table) (hrow : row ∈ table.rows) :
    ∃ values result, row = values ++ [result] ∧ values.length = table.vars.length := by
  have hlength := h.length_row row hrow
  obtain rfl | ⟨values, result, rfl⟩ := List.eq_nil_or_concat' row
  · cases hlength
  · exact ⟨values, result, rfl, by simpa using hlength⟩

theorem rowRecord_concat (layout : Layout) (values : List Bool) (result : Bool) :
    layout.rowRecord (values ++ [result]) =
      layout.rowRecord values ++ [((Cell.value result).render layout.compact).toList] :=
  List.map_append

theorem aligned_heading (h : Printable table) (layout : Layout) :
    Aligned (layout.varWidths table) (headingRecord table) (written (layout.widths table) (headingRecord table)) := by
  rw [widths_eq]
  exact aligned_written (layout.fits_vars table) h.expression

theorem aligned_row (h : Printable table) (layout : Layout) (hrow : row ∈ table.rows) :
    Aligned (layout.varWidths table) (layout.rowRecord row) (written (layout.widths table) (layout.rowRecord row)) := by
  obtain ⟨values, result, rfl, hlength⟩ := exists_eq_concat h hrow
  rw [widths_eq, rowRecord_concat]
  exact aligned_written (layout.fits_values hlength) (isName_render _ result).exists_not_blank

/-- The fields of a row are the parts of its line. -/
theorem split_row (h : Printable table) (layout : Layout) (hrow : row ∈ table.rows) :
    (splitOnText " | ".toList (written (layout.widths table) (layout.rowRecord row))).map trim =
      layout.rowRecord row := by
  obtain ⟨values, result, rfl, hlength⟩ := exists_eq_concat h hrow
  have hwidths : (layout.varWidths table).length = (values.map fun x => (Cell.value x).render layout.compact).length := by
    simp [varWidths, hlength]
  have hnames : ∀ v ∈ values.map fun x => (Cell.value x).render layout.compact, IsName v :=
    List.forall_mem_map.mpr fun x _ => isName_render _ x
  have hsplit := @map_trim_splitOnText_written _ (max table.expression.length layout.valueWidth) _ _ hwidths hnames
    (isName_render layout.compact result)
  rw [List.map_map] at hsplit
  rw [widths_eq, rowRecord_concat]
  exact hsplit

/-- The values of a row can be read off its line. -/
theorem read_row (h : Printable table) (layout : Layout) (hrow : row ∈ table.rows) :
    (splitOnText " | ".toList (written (layout.widths table) (layout.rowRecord row))).map
        (fun part => Cell.read? (String.ofList (trim part))) =
      row.map fun x => some (.value x) := by
  have hread : ∀ x, Cell.read? (String.ofList ((Cell.value x).render layout.compact).toList) = some (.value x) := by
    intro x
    rw [String.ofList_toList, Cell.read?, readTruth?_render]
    rfl
  calc (splitOnText " | ".toList (written (layout.widths table) (layout.rowRecord row))).map
        (fun part => Cell.read? (String.ofList (trim part)))
      = ((splitOnText " | ".toList (written (layout.widths table) (layout.rowRecord row))).map trim).map
          fun field => Cell.read? (String.ofList field) := by
        rw [List.map_map]
        rfl
    _ = (layout.rowRecord row).map fun field => Cell.read? (String.ofList field) := by rw [split_row h layout hrow]
    _ = row.map fun x => some (.value x) := by
        rw [rowRecord, List.map_map]
        exact List.map_congr_left fun x _ => hread x

theorem selects_eq (layout : Layout) :
    layout.selects = fun row => decide (layout.filter = none ∨ row.getLast? = layout.filter) := by
  funext row
  rw [Bool.eq_iff_iff, decide_eq_true_iff]
  exact selects_iff

/-- A table that was built is printed if there is a field for its text, and otherwise not begun. What is printed has a
    line for the heading and one for each selected row, in their order. In all of them the fields are aligned to columns as
    wide as the names of the variables and the values, and the trimming at the end leaves what stands in front of the last
    field's text. The lines of the rows can be split at the separators, and their parts without white space are read as
    the values of the row. -/
theorem exists_aligned_lines (h : ofText text options = .ok table) (layout : Layout) :
    (text.length ≤ Field.largest → ∃ printed heading data,
      layout.text table = .ok printed ∧
      printed.toList = (heading :: data).flatMap (· ++ ['\n']) ∧
      List.Forall₂ (Aligned (table.vars.map fun v => max v.length (if layout.compact then 1 else 5)))
        (layout.records table) (heading :: data) ∧
      data.map (fun line => (splitOnText " | ".toList line).map fun part => Cell.read? (String.ofList (trim part))) =
        (table.rows.filter fun row => layout.filter = none ∨ row.getLast? = layout.filter).map fun row =>
          row.map fun x => some (.value x)) ∧
    (Field.largest < text.length → layout.text table = .error {}) := by
  have hprint := printable_of_ofText h
  have hfits := headingFits_iff_of_ofText h
  refine ⟨fun hlength => ?_, fun hlength => text_eq_error (fun hheading => Nat.not_le_of_lt hlength (hfits.mp hheading)) _⟩
  obtain ⟨printed, hok, hprinted⟩ := exists_text_eq_ok (hfits.mpr hlength) layout
  rw [map_written_records] at hprinted
  refine ⟨printed, _, _, hok, hprinted, ?_, ?_⟩
  · rw [records_eq]
    refine .cons (aligned_heading hprint layout) ?_
    rw [List.forall₂_map_left_iff, List.forall₂_map_right_iff, List.forall₂_same]
    exact fun row hrow => aligned_row hprint layout (List.mem_of_mem_filter hrow)
  · rw [List.map_map, ← selects_eq]
    exact List.map_congr_left fun row hrow => read_row hprint layout (List.mem_of_mem_filter hrow)

/-- The rows with the result true; the columns of `a` and `b` are as wide as the values, and the heading's line has the
    spaces for that. -/
theorem exists_aligned_lines_or :
    ∃ table printed heading data, ofText "a || b" {} = .ok table ∧ "a || b".length ≤ Field.largest ∧
      ({ filter := some true } : Layout).text table = .ok printed ∧
      printed.toList = (heading :: data).flatMap (· ++ ['\n']) ∧
      List.Forall₂ (Aligned [5, 5]) (({ filter := some true } : Layout).records table) (heading :: data) ∧
      data.map (fun line => (splitOnText " | ".toList line).map fun part => Cell.read? (String.ofList (trim part))) =
        [[some (.value true), some (.value false), some (.value true)],
         [some (.value false), some (.value true), some (.value true)],
         [some (.value true), some (.value true), some (.value true)]] := by
  have h : ofText "a || b" {} = .ok ⟨["a", "b"], "a || b",
      [[false, false, false], [true, false, true], [false, true, true], [true, true, true]]⟩ := by decide +kernel
  have hlength : "a || b".length ≤ Field.largest := by decide +kernel
  obtain ⟨printed, heading, data, hok, hprinted, haligned, hread⟩ :=
    (exists_aligned_lines h { filter := some true }).1 hlength
  have hwidths : (["a", "b"].map fun v => max v.length (if false then 1 else 5)) = [5, 5] := by decide +kernel
  rw [← hwidths]
  exact ⟨_, printed, heading, data, h, hlength, hok, hprinted, haligned, hread.trans (by decide +kernel)⟩

/-- White space behind a name makes the text as long as one likes. -/
theorem exists_ofText_blanks (n : Nat) : ∃ table, ofText (String.ofList ('a' :: spaces n)) {} = .ok table := by
  have hblanks : Scans (spaces n) [] := by
    have hscans := Scans.blanks (@isBlank_of_mem_spaces n) .nil
    rwa [List.append_nil] at hscans
  have hscans : Scans ("a".toList ++ spaces n) (Formula.var "a").tokens :=
    .name (by decide +kernel) (endsName_blanks isBlank_of_mem_spaces) hblanks
  have hparse : Statement.parse (String.ofList ('a' :: spaces n)) = .ok ⟨_, _, .var "a"⟩ :=
    Statement.parse_of_scans (by rwa [String.toList_ofList]) (by decide +kernel) (by decide +kernel)
  have hfew : ¬({} : Options).limit < (Formula.var "a").vars.length := by decide +kernel
  exact ⟨_, (ofText_eq hparse {}).trans (if_neg hfew)⟩

/-- There is no field for an expression that has a code point more than a field can have. -/
theorem not_forall_exists_text_eq_ok :
    ¬∀ (text : String) (options : Options) (table : Table) (layout : Layout), ofText text options = .ok table →
      ∃ printed, layout.text table = .ok printed := by
  intro hall
  obtain ⟨table, htable⟩ := exists_ofText_blanks Field.largest
  have hlong : Field.largest < (String.ofList ('a' :: spaces Field.largest)).length := by
    rw [String.length_ofList, List.length_cons, spaces, List.length_replicate]
    exact Nat.lt_succ_self _
  obtain ⟨printed, hprinted⟩ := hall _ _ _ {} htable
  rw [text_eq_error (fun hfits => Nat.not_le_of_lt hlong ((headingFits_iff_of_ofText htable).mp hfits))] at hprinted
  cases hprinted

/-! ### Line feeds -/

theorem lineFeed_notMem_of_isName {v : String} (h : IsName v) : '\n' ∉ v.toList :=
  h.notMem_of_isBlank (by decide +kernel)

theorem lineFeed_notMem_row (h : Printable table) (layout : Layout) (hrow : row ∈ table.rows) :
    '\n' ∉ written (layout.widths table) (layout.rowRecord row) := by
  obtain ⟨values, result, rfl, hlength⟩ := exists_eq_concat h hrow
  have hresult := isName_render layout.compact result
  have hvalues : ∀ field ∈ layout.rowRecord values, '\n' ∉ field :=
    List.forall_mem_map.mpr fun x _ => lineFeed_notMem_of_isName (isName_render layout.compact x)
  rw [widths_eq, rowRecord_concat, written_concat (layout.fits_values hlength).length_eq hresult.exists_not_blank,
    hresult.isTrimmed.trimEnd_eq, List.mem_append]
  exact not_or.mpr ⟨notMem_leading hvalues (by decide), lineFeed_notMem_of_isName hresult⟩

theorem count_lineFeed_heading (h : Printable table) (layout : Layout) :
    (written (layout.widths table) (headingRecord table)).count '\n' = (trimEnd table.expression.toList).count '\n' := by
  have hvars : ∀ field ∈ table.vars.map String.toList, '\n' ∉ field :=
    List.forall_mem_map.mpr fun v hv => lineFeed_notMem_of_isName (h.names v hv)
  rw [widths_eq, headingRecord, written_concat (layout.fits_vars table).length_eq h.expression, List.count_append,
    List.count_eq_zero_of_not_mem (notMem_leading hvars (by decide)), Nat.zero_add]

theorem count_lineFeed_lines {lines : List (List Char)} (h : ∀ line ∈ lines, '\n' ∉ line) :
    (lines.flatMap (· ++ ['\n'])).count '\n' = lines.length := by
  induction lines with
  | nil => rfl
  | cons line lines ih =>
    obtain ⟨hline, hlines⟩ := List.forall_mem_cons.mp h
    rw [List.flatMap_cons, List.count_append, ih hlines, List.count_append, List.count_eq_zero_of_not_mem hline,
      List.length_cons]
    exact Nat.add_comm _ _

theorem getLast?_lines {lines : List (List Char)} (h : lines ≠ []) :
    (lines.flatMap (· ++ ['\n'])).getLast? = some '\n' := by
  obtain rfl | ⟨front, line, rfl⟩ := List.eq_nil_or_concat' lines
  · exact absurd rfl h
  · rw [List.flatMap_append, List.flatMap_singleton, ← List.append_assoc, List.getLast?_concat]

/-- The print of a table that was built has a line feed behind each record, with which it ends, if there is a field for
    the text of the table. Besides these it has only the line feeds of the expression, which the heading shows as it was
    written, but for the white space at its end. -/
theorem count_lineFeed_text (h : ofText text options = .ok table) (hlength : text.length ≤ Field.largest)
    (layout : Layout) :
    ∃ printed heading data,
      layout.text table = .ok printed ∧
      printed.toList = (heading :: data).flatMap (· ++ ['\n']) ∧
      heading :: data = (layout.cells table).map (fun cells =>
        written (layout.widths table) (cells.map fun cell => (cell.render layout.compact).toList)) ∧
      data.length = (table.rows.filter fun row => layout.filter = none ∨ row.getLast? = layout.filter).length ∧
      (∀ line ∈ data, '\n' ∉ line) ∧ heading.count '\n' = (trimEnd text.toList).count '\n' ∧
      printed.toList.count '\n' = 1 + data.length + (trimEnd text.toList).count '\n' ∧
      printed.toList.getLast? = some '\n' := by
  have hprint := printable_of_ofText h
  obtain ⟨s, -, htable⟩ := exists_tabulates_of_ofText h
  have hheading := count_lineFeed_heading hprint layout
  rw [htable.expression] at hheading
  have hdata : ∀ line ∈ (table.rows.filter layout.selects).map fun row =>
      written (layout.widths table) (layout.rowRecord row), '\n' ∉ line :=
    List.forall_mem_map.mpr fun row hrow => lineFeed_notMem_row hprint layout (List.mem_of_mem_filter hrow)
  have hlines := map_written_records layout table
  obtain ⟨printed, hok, hprinted⟩ := exists_text_eq_ok ((headingFits_iff_of_ofText h).mpr hlength) layout
  rw [hlines] at hprinted
  refine ⟨printed, _, _, hok, hprinted, ?_, by rw [List.length_map, selects_eq], hdata, hheading, ?_, ?_⟩
  · rw [← hlines, records, List.map_map]
    rfl
  · rw [hprinted, List.flatMap_cons, List.count_append, List.count_append, hheading, count_lineFeed_lines hdata]
    simp only [List.count_singleton_self]
    omega
  · rw [hprinted]
    exact getLast?_lines (List.cons_ne_nil _ _)

theorem ofText_spread : ofText "a\n|| b" {} = .ok ⟨["a", "b"], "a\n|| b",
    [[false, false, false], [true, false, true], [false, true, true], [true, true, true]]⟩ := by decide +kernel

theorem count_lineFeed_text_spread :
    ∃ table printed heading data, ofText "a\n|| b" {} = .ok table ∧ "a\n|| b".length ≤ Field.largest ∧
      ({} : Layout).text table = .ok printed ∧ printed.toList = (heading :: data).flatMap (· ++ ['\n']) ∧
      data.length = 4 ∧ heading.count '\n' = 1 ∧ printed.toList.count '\n' = 6 := by
  have hcount : (trimEnd "a\n|| b".toList).count '\n' = 1 := by decide +kernel
  have hlength : "a\n|| b".length ≤ Field.largest := by decide +kernel
  obtain ⟨printed, heading, data, hok, hprinted, -, hrows, -, hheading, hall, -⟩ :=
    count_lineFeed_text ofText_spread hlength {}
  rw [hcount] at hheading hall
  have hdata : data.length = 4 := hrows.trans (by decide +kernel)
  rw [hdata] at hall
  exact ⟨_, printed, heading, data, ofText_spread, hlength, hok, hprinted, hdata, hheading, hall⟩

/-- An expression on two lines is shown on two lines. -/
theorem not_forall_count_lineFeed :
    ¬∀ (text : String) (options : Options) (table : Table) (layout : Layout), ofText text options = .ok table →
      ∃ printed, layout.text table = .ok printed ∧
        printed.toList.count '\n' =
            1 + (table.rows.filter fun row => layout.filter = none ∨ row.getLast? = layout.filter).length ∧
          printed.toList.getLast? = some '\n' := by
  intro hall
  obtain ⟨printed, hok, hcount, -⟩ := hall _ _ _ {} ofText_spread
  have hprinted : ({} : Layout).text ⟨["a", "b"], "a\n|| b",
      [[false, false, false], [true, false, true], [false, true, true], [true, true, true]]⟩ =
        .ok ("a     | b     | a\n|| b\nFalse | False | False\n" ++
          "True  | False | True\nFalse | True  | True\nTrue  | True  | True\n") := by decide +kernel
  rw [hprinted] at hok
  cases hok
  exact absurd hcount (by decide +kernel)

end Layout
end Table
end Propositional
