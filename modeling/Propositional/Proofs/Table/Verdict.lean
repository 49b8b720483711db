import Mathlib.Data.Set.Card
import Propositional.Proofs.Table.Building

/-! What a table says about its formula under all valuations. A formula takes its value from its variables alone, and
    the rows go through all values of these, so that one result in all rows is the value under every valuation, and
    the rows with a result are as many as the valuations of the variables with this value. -/

namespace Propositional
namespace Table

/-! ### Results -/

/-- The value of the formula in row `index`. -/
def resultAt (vars : List String) (formula : Formula) (index : Nat) : Bool :=
  formula.truth fun v => ((Valuation.nth vars index).get? v).getD false

theorem getLast?_rowOf (vars : List String) (formula : Formula) (index : Nat) :
    (rowOf vars formula index).getLast? = some (resultAt vars formula index) := by
  rw [rowOf, List.getLast?_concat, resultAt]

section
variable {f : Formula} {vars : List String} {table : Table}

theorem eval_nth_vars (f : Formula) (index : Nat) :
    f.eval (Valuation.nth f.vars index) = .ok (resultAt f.vars f index) :=
  eval_nth (fun _ hv => hv) index

/-- The rows have one result exactly when this is the value under every valuation of the variables, whatever other
    names it gives values to. -/
theorem forall_resultAt_iff {result : Bool} :
    (∀ i < 2 ^ f.vars.length, resultAt f.vars f i = result) ↔
      ∀ b : Valuation, (∀ v ∈ f.vars, (b.get? v).isSome) → f.eval b = .ok result := by
  constructor
  · intro h b hb
    obtain ⟨i, hi, hget⟩ := Valuation.exists_nth_get? f.vars fun v => (b.get? v).getD false
    have htruth : f.truth (fun v => (b.get? v).getD false) = resultAt f.vars f i := by
      refine Formula.truth_congr fun v hv => ?_
      rw [hget, if_pos hv, Option.getD_some]
    rw [Formula.eval_of_isSome hb, htruth, h i hi]
  · intro h i hi
    have heval := h (Valuation.nth f.vars i) fun v hv => isSome_get?_nth_iff.mpr hv
    rw [eval_nth_vars] at heval
    exact Except.ok.inj heval

/-! ### Rows with a result -/

theorem models_eq (hrows : table.rows = (List.range (2 ^ vars.length)).map (rowOf vars f)) (result : Bool) :
    table.models result =
      ((List.range (2 ^ vars.length)).filter fun i => resultAt vars f i == result).map (rowOf vars f) := by
  rw [models, hrows, List.filter_map]
  congr 2
  funext i
  rw [Function.comp_apply, getLast?_rowOf]
  rfl

theorem isEmpty_models_iff (hrows : table.rows = (List.range (2 ^ vars.length)).map (rowOf vars f)) (result : Bool) :
    (table.models result).isEmpty = true ↔ ∀ i < 2 ^ vars.length, resultAt vars f i = !result := by
  rw [models_eq hrows, List.isEmpty_iff, List.map_eq_nil_iff, List.filter_eq_nil_iff]
  simp only [List.mem_range]
  constructor
  · intro h i hi
    have hne := h i hi
    cases hr : resultAt vars f i <;> cases result <;> simp_all
  · intro h i hi
    rw [h i hi]
    cases result <;> simp

theorem length_models_add (hrows : table.rows = (List.range (2 ^ vars.length)).map (rowOf vars f)) :
    (table.models true).length + (table.models false).length = 2 ^ vars.length := by
  have hsplit := List.length_eq_length_filter_add (l := List.range (2 ^ vars.length)) (resultAt vars f)
  rw [List.length_range] at hsplit
  rw [models_eq hrows, models_eq hrows, List.length_map, List.length_map]
  simpa using hsplit.symm

theorem encard_eq_length {s : Set Valuation} {l : List Valuation} (hl : l.Nodup) (h : ∀ b, b ∈ s ↔ b ∈ l) :
    s.encard = l.length := by
  have hs : s = l.toFinset := by
    ext b
    rw [h, Finset.mem_coe, List.mem_toFinset]
  rw [hs, Set.encard_coe_eq_coe_finsetCard, List.toFinset_card_of_nodup hl]

/-- The rows with a result are as many as the valuations of the variables under which the formula has this value. -/
theorem encard_eval_eq (hrows : table.rows = (List.range (2 ^ f.vars.length)).map (rowOf f.vars f)) (result : Bool) :
    Set.encard { b : Valuation | b.Binds f.vars ∧ f.eval b = .ok result } = (table.models result).length := by
  have hnodup : f.vars.Nodup := f.vars_eq ▸ (firstOccurrences_eraseDups f.occurrences).nodup
  have hlist : (((List.range (2 ^ f.vars.length)).filter fun i => resultAt f.vars f i == result).map
      (Valuation.nth f.vars)).Nodup := by
    refine List.Nodup.map_on ?_ (List.nodup_range.filter _)
    intro i hi j hj heq
    rw [List.mem_filter, List.mem_range] at hi hj
    exact Valuation.nth_injOn hnodup hi.1 hj.1 heq
  rw [encard_eq_length hlist, models_eq hrows, List.length_map, List.length_map]
  intro b
  rw [List.mem_map]
  constructor
  · rintro ⟨hb, heval⟩
    obtain ⟨i, hi, rfl⟩ := Valuation.exists_nth_eq hb
    rw [eval_nth_vars] at heval
    exact ⟨i, List.mem_filter.mpr ⟨List.mem_range.mpr hi, beq_iff_eq.mpr (Except.ok.inj heval)⟩, rfl⟩
  · rintro ⟨i, hi, rfl⟩
    obtain ⟨-, hresult⟩ := List.mem_filter.mp hi
    refine ⟨Valuation.binds_nth hnodup i, ?_⟩
    rw [eval_nth_vars, beq_iff_eq.mp hresult]

end

/-! ### Verdicts -/

/-- The table's verdicts are those of its formula, whose variables are given: it is a tautology or a contradiction if it
    is true or false under every valuation of the variables, never both; and of the valuations of the variables there
    are as many with a value as rows with it. -/
structure Decides (text : String) (vars : List String) (table : Table) : Prop where
  tautology : table.isTautology = true ↔
    ∀ b : Valuation, (∀ v ∈ vars, (b.get? v).isSome) → evaluate text b = .ok true
  contradiction : table.isContradiction = true ↔
    ∀ b : Valuation, (∀ v ∈ vars, (b.get? v).isSome) → evaluate text b = .ok false
  not_both : ¬(table.isTautology = true ∧ table.isContradiction = true)
  models : ∀ result,
    Set.encard { b : Valuation | b.Binds vars ∧ evaluate text b = .ok result } = (table.models result).length
  models_add : (table.models true).length + (table.models false).length = 2 ^ vars.length

theorem parse_of_ofText {text : String} {options : Options} {table : Table} (h : ofText text options = .ok table) :
    ∃ s, Statement.parse text = .ok s := by
  cases hs : Statement.parse text with
  | error e =>
    rw [ofText, hs] at h
    cases h
  | ok s => exact ⟨s, rfl⟩

theorem rows_of_ofText {text : String} {options : Options} {table : Table} {s : Statement}
    (hs : Statement.parse text = .ok s) (h : ofText text options = .ok table) :
    table.rows = (List.range (2 ^ s.formula.vars.length)).map (rowOf s.formula.vars s.formula) := by
  rw [ofText_eq hs] at h
  split at h
  · cases h
  · cases h
    rfl

/-- A table that is built decides its formula. -/
theorem decides_of_ofText {text : String} {options : Options} {table : Table} (h : ofText text options = .ok table) :
    ∃ s, Statement.parse text = .ok s ∧ Decides text s.vars table := by
  obtain ⟨s, hs⟩ := parse_of_ofText h
  have hvars : s.vars = s.formula.vars := (Statement.parse_eq_ok_iff.mp hs).2.2
  have hrows := rows_of_ofText hs h
  have heval : ∀ b, evaluate text b = s.formula.eval b := by
    intro b
    rw [evaluate, hs]
  have hsum := length_models_add hrows
  refine ⟨s, hs, ?_⟩
  constructor
  case tautology =>
    simp only [heval, hvars]
    rw [isTautology, isEmpty_models_iff hrows]
    exact forall_resultAt_iff
  case contradiction =>
    simp only [heval, hvars]
    rw [isContradiction, isEmpty_models_iff hrows]
    exact forall_resultAt_iff
  case not_both =>
    rintro ⟨ht, hc⟩
    have hpos := Nat.two_pow_pos s.formula.vars.length
    rw [List.isEmpty_iff.mp ht, List.isEmpty_iff.mp hc, List.length_nil] at hsum
    omega
  case models =>
    simp only [heval, hvars]
    exact encard_eval_eq hrows
  case models_add =>
    rw [hvars]
    exact hsum

theorem decides_excludedMiddle :
    ∃ table, ofText "a || !a" .unbounded = .ok table ∧
      ∃ s, Statement.parse "a || !a" = .ok s ∧ Decides "a || !a" s.vars table := by
  have h : ofText "a || !a" .unbounded = .ok ⟨["a"], "a || !a", [[false, true], [true, true]]⟩ := by decide +kernel
  exact ⟨_, h, decides_of_ofText h⟩

end Table
end Propositional
