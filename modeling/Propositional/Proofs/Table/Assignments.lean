import Propositional.Command.Run
import Propositional.Proofs.Formula.RoundTrip
import Propositional.Proofs.Table.Building
import Propositional.Proofs.Valuation.Pieces

/-! The rows of a table as assignments. A name of a formula is a name of an assignment, and a value is read again as it
    is printed, so that the assignments of a row, in any order, give the row's values to the table's variables, and the
    formula its result. -/

namespace Propositional
open Text

namespace Table
variable {text : String} {options : Options} {table : Table} {row : List Bool}

/-! ### Rows -/

theorem zip_take_length (names : List String) (values : List Bool) :
    names.zip (values.take names.length) = names.zip values := by
  rw [@List.zip_eq_zip_take_min _ _ names values, @List.zip_eq_zip_take_min _ _ names (values.take names.length)]
  simp [List.take_take, Nat.min_comm]

theorem map_fst_zip_row {f : Formula} (htable : Tabulates text f table) (hrow : row ∈ table.rows) :
    (table.vars.zip row).map Prod.fst = table.vars := by
  have hlength := htable.length_row row hrow
  exact List.map_fst_zip (by omega)

/-- The pairs of a row bind the table's variables to the values in the row. -/
theorem binds_ofList_zip_row {f : Formula} (htable : Tabulates text f table) (hrow : row ∈ table.rows) :
    (Valuation.ofList (table.vars.zip row)).Binds table.vars ∧
      ∀ v x, (Valuation.ofList (table.vars.zip row)).get? v = some x ↔ (v, x) ∈ table.vars.zip row := by
  have hfst := map_fst_zip_row htable hrow
  have hnodup : ((table.vars.zip row).map Prod.fst).Nodup := by
    rw [hfst]
    exact htable.vars.nodup
  have hget : ∀ v x, (Valuation.ofList (table.vars.zip row)).get? v = some x ↔ (v, x) ∈ table.vars.zip row :=
    fun v x => Valuation.get?_ofList_eq_some_iff hnodup
  refine ⟨fun v => ?_, hget⟩
  rw [Option.isSome_iff_exists]
  simp only [hget]
  nth_rewrite 2 [← hfst]
  simp

/-- The assignments of a row, in any order and with any white space, give a valuation of the table's variables with the
    row's values. Under it the formula has the row's result, and this is what the command prints when it is given the
    assignments. -/
theorem exists_read_row (h : ofText text options = .ok table) (hrow : row ∈ table.rows) (compact : Bool)
    {pairs : List (String × Bool)} (hpairs : pairs.Perm (table.vars.zip row)) {parts : List (List Char)}
    (hparts : List.Forall₂ (fun part e => Valuation.Assigns part e.1 ((Cell.value e.2).render compact)) parts pairs) :
    ∃ s b result, Statement.parse text = .ok s ∧
      Valuation.read (String.ofList ([','].intercalate parts)) = .ok b ∧
      b.Binds table.vars ∧ (∀ v x, b.get? v = some x ↔ (v, x) ∈ table.vars.zip row) ∧
      row.getLast? = some result ∧ evaluate text b = .ok result ∧
      ∀ o : Command.Options, o.eval = none →
        ∃ o', o.set .eval (String.ofList ([','].intercalate parts)) = .ok o' ∧
          Command.answer o' s = .ok (renderTruth o.compact result ++ "\n") := by
  obtain ⟨s, hs, htable⟩ := exists_tabulates_of_ofText h
  have hnames : ∀ e ∈ pairs, Valuation.isName e.1.toList = true := by
    intro e he
    have hv : e.1 ∈ table.vars := (List.of_mem_zip (hpairs.mem_iff.mp he)).1
    exact Valuation.isName_toList ((Statement.wellFormed_of_parse hs).names e.1 ((htable.vars.mem_iff e.1).mp hv))
  have hnodup : (pairs.map Prod.fst).Nodup := by
    rw [(hpairs.map Prod.fst).nodup_iff, map_fst_zip_row htable hrow]
    exact htable.vars.nodup
  have hread : Valuation.read (String.ofList ([','].intercalate parts)) = .ok (.ofList (table.vars.zip row)) := by
    rw [← Valuation.ofList_eq_of_perm hpairs hnodup]
    refine Valuation.read_intercalate (List.forall₂_iff_zip.mpr ⟨hparts.length_eq, fun {part e} hmem => ?_⟩) hnodup
    exact ⟨hnames e (List.of_mem_zip hmem).2, _, readTruth?_render compact e.2, (List.forall₂_iff_zip.mp hparts).2 hmem⟩
  obtain ⟨hbinds, hget⟩ := binds_ofList_zip_row htable hrow
  obtain ⟨result, hlast, heval⟩ := htable.result row hrow
  rw [zip_take_length] at heval
  refine ⟨s, _, result, hs, hread, hbinds, hget, hlast, heval, fun o ho => ?_⟩
  refine ⟨{ o with eval := some (.ofList (table.vars.zip row)) }, ?_, ?_⟩
  · simp [Command.Options.set, Command.setOnce, ho, hread, Except.toOption]
  · rw [evaluate, hs] at heval
    simp only [Command.answer, heval]

/-- The row for `a` false and `b` true, with the assignment of `b` in front and white space between. -/
theorem exists_read_row_or :
    ∃ table, ofText "a || !b" {} = .ok table ∧ [false, true, false] ∈ table.rows ∧
      ∃ b, Valuation.read " b =\tT , a=F" = .ok b ∧ b.Binds table.vars ∧ evaluate "a || !b" b = .ok false := by
  have h : ofText "a || !b" {} = .ok ⟨["a", "b"], "a || !b",
      [[false, false, true], [true, false, true], [false, true, false], [true, true, true]]⟩ := by decide +kernel
  have hb : Valuation.Assigns " b =\tT ".toList "b" ((Cell.value true).render true) :=
    ⟨[' '], [' '], ['\t'], [' '], List.all_eq_true.mp (by decide +kernel), by decide +kernel⟩
  have ha : Valuation.Assigns " a=F".toList "a" ((Cell.value false).render true) :=
    ⟨[' '], [], [], [], List.all_eq_true.mp (by decide +kernel), by decide +kernel⟩
  have htext : String.ofList ([','].intercalate [" b =\tT ".toList, " a=F".toList]) = " b =\tT , a=F" := by
    decide +kernel
  have hrow : [false, true, false] ∈ [[false, false, true], [true, false, true], [false, true, false],
      [true, true, true]] := by decide
  have hperm : List.Perm [("b", true), ("a", false)] (["a", "b"].zip [false, true, false]) := .swap _ _ _
  obtain ⟨s, b, result, -, hread, hbinds, -, hlast, heval, -⟩ :=
    exists_read_row h hrow true hperm (.cons hb (.cons ha .nil))
  rw [htext] at hread
  cases hlast
  exact ⟨_, h, hrow, b, hread, hbinds, heval⟩

end Table
end Propositional
