import Propositional.Proofs.Collecting
import Propositional.Proofs.Formula.Evaluation
import Propositional.Proofs.Table.Building

/-! Tables whose rows are evaluated in any order. A row gives values to all names in the text, so the rows differ in the
    values but not in the names that have one: if a variable of the formula is not in the text, each row fails, and with
    the same name. Then it makes no difference which row is evaluated first and which error is kept. -/

namespace Propositional
namespace Table

/-! ### Names without a value -/

/-- The first variable of the formula that is not among the names. -/
def missing? (vars : List String) (formula : Formula) : Option String := formula.vars.find? fun v => v ∉ vars

section
variable {vars : List String} {formula : Formula}

theorem missing?_eq_none_iff : missing? vars formula = none ↔ ∀ v ∈ formula.vars, v ∈ vars := by
  simp [missing?]

/-- A variable that is missing has no value in any row. -/
theorem row_eq_error {v : String} (h : missing? vars formula = some v) (index : Nat) :
    row vars formula index = .error (.unbound v) := by
  have hnames : (fun w => ((Valuation.nth vars index).get? w).isNone) = fun w => decide (w ∉ vars) := by
    funext w
    have hw : ((Valuation.nth vars index).get? w).isSome ↔ w ∈ vars := isSome_get?_nth_iff
    cases hget : (Valuation.nth vars index).get? w <;> simp [← hw, hget]
  have heval : formula.eval (Valuation.nth vars index) = .error (.unbound v) := by
    refine Formula.eval_of_find? ?_
    rw [hnames]
    exact h
  rw [Valuation.nth] at heval
  rw [row, heval]
  rfl

theorem rowsOf_eq_error {v : String} (parallel : Bool) (h : missing? vars formula = some v) :
    rowsOf parallel vars formula = .error (.unbound v) := by
  obtain ⟨n, hn⟩ : ∃ n, valuationCount vars.length = n + 1 := by
    rw [valuationCount_eq]
    exact ⟨_, (Nat.succ_pred_eq_of_pos (Nat.two_pow_pos _)).symm⟩
  have hmapM : (List.range (n + 1)).mapM (row vars formula) = .error (.unbound v) := by
    rw [List.range_succ_eq_map, List.mapM_cons, row_eq_error h]
    rfl
  rw [rowsOf, hn]
  cases parallel with
  | false => exact hmapM
  | true =>
    rw [if_pos rfl, List.mapM_map]
    exact hmapM

/-- In whatever order the rows are evaluated, the outcome is the same. -/
theorem yields_row_iff (parallel : Bool) (vars : List String) (formula : Formula)
    {outcome : Except EvalError (List (List Bool))} :
    Collecting.Yields (row vars formula) (valuationCount vars.length) outcome ↔
      outcome = rowsOf parallel vars formula := by
  cases h : missing? vars formula with
  | none =>
    have hvars := missing?_eq_none_iff.mp h
    rw [rowsOf_eq parallel hvars, Collecting.yields_iff_of_forall_ok fun i _ => row_eq hvars i, valuationCount_eq]
  | some v =>
    have hpos : 0 < valuationCount vars.length := valuationCount_eq vars.length ▸ Nat.two_pow_pos _
    rw [rowsOf_eq_error parallel h, Collecting.yields_iff_of_forall_error hpos fun i _ => row_eq_error h i]

theorem rowsOf_congr (parallel parallel' : Bool) (vars : List String) (formula : Formula) :
    rowsOf parallel vars formula = rowsOf parallel' vars formula :=
  (yields_row_iff parallel' vars formula).mp ((yields_row_iff parallel vars formula).mpr rfl)

end

end Table

/-- The names in the statement's text. -/
def Statement.names (s : Statement) : List String := namesIn s.source.toList

namespace Table

/-! ### Tables -/

/-- What building the table of the statement can come to, if its rows are evaluated in some order and any error that is
    met is kept. -/
def Builds (s : Statement) (options : Options) (outcome : Except EvalError Table) : Prop :=
  if s.names.length > options.limit then outcome = .error (.tooManyVariables s.names.length options.limit)
  else
    ∃ rows, Collecting.Yields (row s.names s.formula) (valuationCount s.names.length) rows ∧
      outcome = rows.map fun rows => { vars := s.names, expression := s.source, rows }

theorem ofStatement_eq (s : Statement) (options : Options) :
    ofStatement s options =
      if s.names.length > options.limit then .error (.tooManyVariables s.names.length options.limit)
      else (rowsOf options.parallel s.names s.formula).map fun rows =>
        { vars := s.names, expression := s.source, rows } := by
  rw [ofStatement, Statement.names]
  dsimp only
  split
  · rfl
  · cases rowsOf options.parallel (namesIn s.source.toList) s.formula <;> rfl

theorem builds_iff {s : Statement} {options : Options} {outcome : Except EvalError Table} :
    Builds s options outcome ↔ outcome = ofStatement s options := by
  rw [Builds, ofStatement_eq]
  split
  · rfl
  · simp only [yields_row_iff options.parallel, exists_eq_left]

/-- The table of a statement, whose parts need not fit each other, is one and the same in whatever order its rows are
    evaluated, side by side or not, and whichever error is kept. Its variables are the names in the text. If they are
    too many, that is the error; else, if the formula has a variable that is not among them, the first one without a
    value in each row; else there is a row for each valuation of the names, in the order of counting. -/
theorem ofStatement_orders (s : Statement) (options : Options) :
    (∀ outcome, Builds s options outcome ↔ outcome = ofStatement s options) ∧
      (∀ vars parallel, ofStatement { s with vars } { options with parallel } = ofStatement s options) ∧
      (min options.maxVars 63 < s.names.length →
        ofStatement s options = .error (.tooManyVariables s.names.length (min options.maxVars 63))) ∧
      (s.names.length ≤ min options.maxVars 63 →
        (∀ v, (s.formula.vars.find? fun w => w ∉ s.names) = some v →
          ofStatement s options = .error (.unbound v) ∧
            ∀ i < 2 ^ s.names.length, row s.names s.formula i = .error (.unbound v)) ∧
        ((∀ v ∈ s.formula.vars, v ∈ s.names) →
          ofStatement s options =
            .ok { vars := s.names, expression := s.source,
                  rows := (List.range (2 ^ s.names.length)).map (rowOf s.names s.formula) })) := by
  have hlimit : options.limit = min options.maxVars 63 := rfl
  refine ⟨fun outcome => builds_iff, fun vars parallel => ?_, fun hlt => ?_, fun hle => ⟨fun v hv => ⟨?_, ?_⟩, ?_⟩⟩
  · rw [ofStatement_eq, ofStatement_eq, rowsOf_congr parallel options.parallel]
    rfl
  · rw [ofStatement_eq, hlimit, if_pos hlt]
  · rw [ofStatement_eq, hlimit, if_neg (Nat.not_lt.mpr hle), rowsOf_eq_error _ hv]
    rfl
  · intro i _
    exact row_eq_error hv i
  · intro hvars
    rw [ofStatement_eq, hlimit, if_neg (Nat.not_lt.mpr hle), rowsOf_eq _ hvars]
    rfl

/-- The text names one variable of the formula, and not the first one. -/
theorem ofStatement_orders_misfit :
    ofStatement ⟨"b", ["z"], .and (.var "a") (.var "b")⟩ { maxVars := 0 } = .error (.tooManyVariables 1 0) ∧
      ofStatement ⟨"b", ["z"], .and (.var "a") (.var "b")⟩ { parallel := true } = .error (.unbound "a") ∧
      ofStatement ⟨"b a1", [], .var "b"⟩ {} =
        .ok { vars := ["b"], expression := "b a1", rows := [[false, false], [true, true]] } := by
  have hnames : namesIn "b".toList = ["b"] := by decide +kernel
  have hnames' : namesIn "b a1".toList = ["b"] := by decide +kernel
  obtain ⟨-, -, htoo, -⟩ := ofStatement_orders ⟨"b", ["z"], .and (.var "a") (.var "b")⟩ { maxVars := 0 }
  obtain ⟨-, -, -, hrows⟩ := ofStatement_orders ⟨"b", ["z"], .and (.var "a") (.var "b")⟩ { parallel := true }
  obtain ⟨-, -, -, hrows'⟩ := ofStatement_orders ⟨"b a1", [], .var "b"⟩ {}
  simp only [Statement.names, hnames] at htoo hrows
  simp only [Statement.names, hnames'] at hrows'
  refine ⟨htoo (by decide), ((hrows (by decide)).1 "a" (by decide +kernel)).1, ?_⟩
  rw [(hrows' (by decide)).2 (by decide +kernel)]
  decide

end Table
end Propositional
