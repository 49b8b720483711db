import Propositional.Proofs.Enumeration
import Propositional.Proofs.Names
import Propositional.Proofs.Results
import Propositional.Proofs.Valuation
import Propositional.Table

/-! The table that is built for a text. Its variables are found in the text and not on the formula, but they are the
    formula's, so no row lacks a value; the rows are those of all valuations of the variables, each once. -/

namespace Propositional
namespace Table

/-! ### Rows -/

/-- Row `index` of a formula whose variables are among the names. -/
def rowOf (vars : List String) (formula : Formula) (index : Nat) : List Bool :=
  bits index vars.length ++ [formula.truth fun v => ((Valuation.nth vars index).get? v).getD false]

theorem length_rowOf (vars : List String) (formula : Formula) (index : Nat) :
    (rowOf vars formula index).length = vars.length + 1 := by
  simp [rowOf]

theorem take_rowOf (vars : List String) (formula : Formula) (index : Nat) :
    (rowOf vars formula index).take vars.length = bits index vars.length := by
  rw [rowOf, List.take_left' (length_bits _ _)]

theorem isSome_get?_nth_iff {vars : List String} {v : String} {index : Nat} :
    ((Valuation.nth vars index).get? v).isSome ↔ v ∈ vars :=
  Valuation.isSome_get?_ofList_zip_iff (length_bits index vars.length).symm

section
variable {vars : List String} {formula : Formula}

theorem eval_nth (h : ∀ v ∈ formula.vars, v ∈ vars) (index : Nat) :
    formula.eval (Valuation.nth vars index) =
      .ok (formula.truth fun v => ((Valuation.nth vars index).get? v).getD false) :=
  Formula.eval_of_isSome fun v hv => isSome_get?_nth_iff.mpr (h v hv)

theorem row_eq (h : ∀ v ∈ formula.vars, v ∈ vars) (index : Nat) :
    row vars formula index = .ok (rowOf vars formula index) := by
  have heval := eval_nth h index
  rw [Valuation.nth] at heval
  rw [row, heval]
  rfl

theorem rowsOf_eq (parallel : Bool) (h : ∀ v ∈ formula.vars, v ∈ vars) :
    rowsOf parallel vars formula = .ok ((List.range (2 ^ vars.length)).map (rowOf vars formula)) := by
  rw [rowsOf, valuationCount_eq]
  cases parallel with
  | false => exact mapM_eq_ok fun index _ => row_eq h index
  | true =>
    rw [if_pos rfl, List.mapM_map]
    exact mapM_eq_ok fun index _ => row_eq h index

end

/-! ### The table of a text -/

/-- The table lists the values of the formula that a text makes: its variables are the formula's in the order in which
    they occur first; the rows, each a value longer than there are variables, begin with the valuations of the
    variables in their order, each choice of values in one row; each row ends with the formula's value. -/
structure Tabulates (text : String) (formula : Formula) (table : Table) : Prop where
  vars : FirstOccurrences formula.occurrences table.vars
  expression : table.expression = text
  length_rows : table.rows.length = 2 ^ table.vars.length
  length_row : ∀ row ∈ table.rows, row.length = table.vars.length + 1
  valuations : Valuation.all? table.vars =
    some (table.rows.map fun row : List Bool => .ofList (table.vars.zip (row.take table.vars.length)))
  complete : ∀ value : String → Bool,
    ∃! i : Nat, ∃ row, table.rows[i]? = some row ∧ row.take table.vars.length = table.vars.map value
  result : ∀ row ∈ table.rows, ∃ result, row.getLast? = some result ∧
    evaluate text (.ofList (table.vars.zip (row.take table.vars.length))) = .ok result

theorem ofText_eq {text : String} {s : Statement} (h : Statement.parse text = .ok s) (options : Options) :
    ofText text options =
      if options.limit < s.formula.vars.length then
        .error (.tooManyVariables s.formula.vars.length options.limit)
      else
        .ok { vars := s.formula.vars, expression := text,
              rows := (List.range (2 ^ s.formula.vars.length)).map (rowOf s.formula.vars s.formula) } := by
  have hsource : s.source = text := (Statement.parse_eq_ok_iff.mp h).2.1
  rw [ofText, h]
  simp only [ofStatement, hsource, namesIn_source h, rowsOf_eq options.parallel fun v hv => hv]
  split <;> rfl

theorem tabulates_of_parse {text : String} {s : Statement} (h : Statement.parse text = .ok s)
    (hlt : s.formula.vars.length < wordBits) :
    Tabulates text s.formula
      { vars := s.formula.vars, expression := text,
        rows := (List.range (2 ^ s.formula.vars.length)).map (rowOf s.formula.vars s.formula) } where
  vars := s.formula.vars_eq ▸ firstOccurrences_eraseDups _
  expression := rfl
  length_rows := by simp
  length_row row hrow := by
    obtain ⟨i, -, rfl⟩ := List.mem_map.mp hrow
    exact length_rowOf _ _ i
  valuations := by
    rw [Valuation.all?_eq hlt, List.map_map]
    refine congrArg some (List.map_congr_left fun i _ => ?_)
    rw [Function.comp_apply, take_rowOf, Valuation.nth]
  complete value := by
    obtain ⟨i, ⟨hi, hbits⟩, hunique⟩ := existsUnique_bits (s.formula.vars.map value) (List.length_map _)
    refine ⟨i, ⟨rowOf s.formula.vars s.formula i, by simp [hi], ?_⟩, ?_⟩
    · rw [take_rowOf, hbits]
    · rintro j ⟨row, hrow, htake⟩
      rw [List.getElem?_map, Option.map_eq_some_iff] at hrow
      obtain ⟨k, hk, rfl⟩ := hrow
      obtain ⟨hj, rfl⟩ := List.getElem?_eq_some_iff.mp hk
      rw [List.length_range] at hj
      rw [List.getElem_range, take_rowOf] at htake
      exact hunique j ⟨hj, htake⟩
  result row hrow := by
    obtain ⟨i, -, rfl⟩ := List.mem_map.mp hrow
    refine ⟨_, by rw [rowOf, List.getLast?_concat], ?_⟩
    rw [evaluate, h, take_rowOf]
    exact eval_nth (fun v hv => hv) i

/-- A table that is built is the one of the formula that its text makes. -/
theorem exists_tabulates_of_ofText {text : String} {options : Options} {table : Table}
    (h : ofText text options = .ok table) : ∃ s, Statement.parse text = .ok s ∧ Tabulates text s.formula table := by
  cases hs : Statement.parse text with
  | error e =>
    rw [ofText, hs] at h
    cases h
  | ok s =>
    refine ⟨s, rfl, ?_⟩
    rw [ofText_eq hs, Options.limit, largestWidth, wordBits] at h
    split at h
    · cases h
    next hlimit =>
      cases h
      refine tabulates_of_parse hs ?_
      rw [wordBits]
      omega

/-- A text that makes a statement has a table exactly when its formula has no more variables than the options and the
    counting of valuations allow; otherwise the number of variables is the error, and never one without a value. The
    table then lists the values of the formula. -/
theorem tabulates_ofText {text : String} {s : Statement} (h : Statement.parse text = .ok s) (options : Options) :
    ((∃ table, ofText text options = .ok table) ↔ s.formula.vars.length ≤ min options.maxVars 63) ∧
      (min options.maxVars 63 < s.formula.vars.length →
        ofText text options = .error (.tooManyVariables s.formula.vars.length (min options.maxVars 63))) ∧
      (∀ v, ofText text options ≠ .error (.unbound v)) ∧
      ∀ table, ofText text options = .ok table → Tabulates text s.formula table := by
  rw [ofText_eq h options, Options.limit, show largestWidth = 63 from rfl]
  by_cases hlimit : min options.maxVars 63 < s.formula.vars.length
  · rw [if_pos hlimit]
    refine ⟨⟨?_, fun hle => absurd hlimit (Nat.not_lt.mpr hle)⟩, fun _ => rfl, nofun, nofun⟩
    rintro ⟨table, ht⟩
    cases ht
  · rw [if_neg hlimit]
    refine ⟨⟨fun _ => Nat.not_lt.mp hlimit, fun _ => ⟨_, rfl⟩⟩, fun hlt => absurd hlt hlimit, nofun, ?_⟩
    intro table ht
    cases ht
    refine tabulates_of_parse h ?_
    rw [wordBits]
    omega

theorem tabulates_ofText_or :
    (∃ table, ofText "!a || b" {} = .ok table ∧ Tabulates "!a || b" (.or (.not (.var "a")) (.var "b")) table) ∧
      ofText "!a || b" { maxVars := 1 } = .error (.tooManyVariables 2 1) := by
  have h : Statement.parse "!a || b" =
      .ok { source := "!a || b", vars := ["a", "b"], formula := .or (.not (.var "a")) (.var "b") } := by decide +kernel
  have hcount : (Formula.or (.not (.var "a")) (.var "b")).vars.length = 2 := by decide +kernel
  obtain ⟨hok, -, -, htable⟩ := tabulates_ofText h {}
  obtain ⟨-, htoo, -, -⟩ := tabulates_ofText h { maxVars := 1 }
  rw [hcount] at hok htoo
  obtain ⟨table, ht⟩ := hok.mpr (by decide)
  exact ⟨⟨table, ht, htable table ht⟩, htoo (by decide)⟩

end Table
end Propositional
