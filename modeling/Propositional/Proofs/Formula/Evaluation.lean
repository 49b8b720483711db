import Mathlib.Logic.Relation
import Propositional.Proofs.Occurrences
import Propositional.Proofs.Valuation

/-! The loop that evaluates a formula. Every round does one action, so there are as many rounds as actions; and the
    actions that are left always find the operands they take and leave a single one, whatever the values are. -/

namespace Propositional
namespace Evaluation
variable {b : Valuation} {f : Formula} {e next : Evaluation}

/-- One round of the loop: the next action is done. -/
inductive Round (b : Valuation) : Evaluation → Evaluation → Prop where
  | mk {action : Action} {actions : List Action} {operands : List Bool} {next : Evaluation} :
    step b action ⟨actions, operands⟩ = .ok next → Round b ⟨action :: actions, operands⟩ next

/-- The evaluation is met while the formula is evaluated. -/
def Met (b : Valuation) (f : Formula) (e : Evaluation) : Prop := Relation.ReflTransGen (Round b) (start f) e

/-! ### The end of the loop -/

theorem Round.effort_eq (h : Round b e next) : next.effort + 1 = e.effort := by
  obtain ⟨h⟩ := h
  rw [effort_of_step h, effort_cons]

/-- No run of the loop goes on for ever. -/
theorem wellFounded_round (b : Valuation) : WellFounded fun next e => Round b e next :=
  Subrelation.wf (fun h => Nat.lt_of_succ_le (Nat.le_of_eq h.effort_eq)) (measure effort).wf

theorem Round.run_eq (h : Round b e next) : run b e = run b next := by
  obtain ⟨h⟩ := h
  rw [run_cons, h]
  rfl

/-- What is left to be done decides the outcome. -/
theorem Met.run_eq (h : Met b f e) : run b e = run b (start f) := by
  induction h with
  | refl => rfl
  | tail _ hround ih => rw [← hround.run_eq, ih]

/-! ### Operands -/

/-- How many operands the actions leave of `n` operands, unless one of them lacks an operand. -/
def left? : List Action → (n : Nat) → Option Nat
  | [], n => some n
  | .visit _ :: actions, n => left? actions (n + 1)
  | .negate :: actions, n + 1 => left? actions (n + 1)
  | .conjoin :: actions, n + 2 => left? actions (n + 1)
  | .disjoin :: actions, n + 2 => left? actions (n + 1)
  | _ :: _, _ => none

/-- The actions find their operands and leave a single one. -/
def Supplied (e : Evaluation) : Prop := left? e.actions e.operands.length = some 1

theorem supplied_start (f : Formula) : Supplied (start f) := rfl

/-- Actions that find their operands stop only at a name without a value. -/
theorem Supplied.step_cases {action : Action} {actions : List Action} {operands : List Bool}
    (h : Supplied ⟨action :: actions, operands⟩) (b : Valuation) :
    (∃ next, step b action ⟨actions, operands⟩ = .ok next ∧ Supplied next) ∨
      ∃ v, step b action ⟨actions, operands⟩ = .error (.unbound v) := by
  cases action with
  | visit f =>
    cases f with
    | var v =>
      cases hv : b.get? v with
      | some x => exact .inl ⟨⟨actions, x :: operands⟩, by rw [step, hv], h⟩
      | none => exact .inr ⟨v, by rw [step, hv]⟩
    | _ => exact .inl ⟨_, rfl, h⟩
  | negate =>
    obtain _ | ⟨x, operands⟩ := operands
    · cases h
    · exact .inl ⟨_, rfl, h⟩
  | conjoin =>
    obtain _ | ⟨y, _ | ⟨x, operands⟩⟩ := operands
    · cases h
    · cases h
    · exact .inl ⟨_, rfl, h⟩
  | disjoin =>
    obtain _ | ⟨y, _ | ⟨x, operands⟩⟩ := operands
    · cases h
    · cases h
    · exact .inl ⟨_, rfl, h⟩

theorem Supplied.round (h : Supplied e) (hround : Round b e next) : Supplied next := by
  obtain ⟨hstep⟩ := hround
  obtain ⟨next', hnext, hsupplied⟩ | ⟨v, hv⟩ := h.step_cases b
  · rw [hstep] at hnext
    cases hnext
    exact hsupplied
  · rw [hstep] at hv
    cases hv

theorem Met.supplied (h : Met b f e) : Supplied e := by
  induction h with
  | refl => exact supplied_start f
  | tail _ hround ih => exact ih.round hround

theorem Met.step_ne {action : Action} {actions : List Action} {operands : List Bool}
    (h : Met b f ⟨action :: actions, operands⟩) : step b action ⟨actions, operands⟩ ≠ .error .missingOperand := by
  obtain ⟨next, hnext, -⟩ | ⟨v, hv⟩ := h.supplied.step_cases b
  · rw [hnext]
    nofun
  · rw [hv]
    nofun

theorem Met.length_eq_one {operands : List Bool} (h : Met b f ⟨[], operands⟩) : operands.length = 1 :=
  Option.some.inj h.supplied

end Evaluation

namespace Formula

/-! ### The outcome -/

theorem find?_vars (f : Formula) (p : String → Bool) : f.vars.find? p = f.occurrences.find? p := by
  rw [vars_eq, find?_eraseDups]

theorem eval_of_get? {f : Formula} {b : Valuation} {value : String → Bool}
    (h : ∀ v ∈ f.vars, b.get? v = some (value v)) : f.eval b = .ok (f.truth value) := by
  rw [eval_of_isSome fun v hv => by rw [h v hv, Option.isSome_some]]
  refine congrArg _ (truth_congr fun v hv => ?_)
  rw [h v hv, Option.getD_some]

theorem eval_of_find? {f : Formula} {b : Valuation} {v : String}
    (h : (f.vars.find? fun w => (b.get? w).isNone) = some v) : f.eval b = .error (.unbound v) := by
  rw [find?_vars] at h
  rw [eval_eq, unbound?, h]

/-- The loop that evaluates a formula comes to an end, and on the way there no connective lacks an operand, nothing
    that was done changes the outcome, and at the end there is one operand. The outcome is the truth value of the
    formula where all its variables have a value; else it is the first of them that has none, also where the value of
    a connective is decided without it. -/
theorem eval_loop (f : Formula) (b : Valuation) :
    (WellFounded fun next e => Evaluation.Round b e next) ∧
      (∀ e, Evaluation.Met b f e → Evaluation.run b e = Evaluation.run b (.start f)) ∧
      (∀ action actions operands, Evaluation.Met b f ⟨action :: actions, operands⟩ →
        Evaluation.step b action ⟨actions, operands⟩ ≠ .error .missingOperand) ∧
      (∀ operands, Evaluation.Met b f ⟨[], operands⟩ → ∃ x, operands = [x] ∧ f.eval b = .ok x) ∧
      (∀ value : String → Bool, (∀ v ∈ f.vars, b.get? v = some (value v)) → f.eval b = .ok (f.truth value)) ∧
      ∀ v, (f.vars.find? fun w => (b.get? w).isNone) = some v → f.eval b = .error (.unbound v) := by
  refine ⟨Evaluation.wellFounded_round b, fun e he => he.run_eq, fun action actions operands he => he.step_ne, ?_,
    fun value h => eval_of_get? h, fun v h => eval_of_find? h⟩
  intro operands he
  obtain ⟨x, rfl⟩ := List.length_eq_one_iff.mp he.length_eq_one
  refine ⟨x, rfl, ?_⟩
  rw [eval, ← he.run_eq, Evaluation.run_nil]
  rfl

/-- The left operand is false, and yet the right one needs a value. -/
theorem eval_loop_and :
    (Formula.and (.var "a") (.var "b")).eval (.ofList [("a", false)]) = .error (.unbound "b") ∧
      (Formula.and (.var "a") (.var "b")).eval (.ofList [("a", true), ("b", true)]) = .ok true ∧
      Evaluation.step (.ofList [("a", true), ("b", true)]) .conjoin ⟨[], [true, true]⟩ ≠ .error .missingOperand ∧
      ∃ x, [true] = [x] ∧
        (Formula.and (.var "a") (.var "b")).eval (.ofList [("a", true), ("b", true)]) = .ok x := by
  obtain ⟨-, -, -, -, -, hunbound⟩ := eval_loop (.and (.var "a") (.var "b")) (.ofList [("a", false)])
  obtain ⟨-, -, hstep, hend, hvalue, -⟩ := eval_loop (.and (.var "a") (.var "b")) (.ofList [("a", true), ("b", true)])
  have hleft : Evaluation.step (.ofList [("a", true), ("b", true)]) (.visit (.var "a"))
      ⟨[.visit (.var "b"), .conjoin], []⟩ = .ok ⟨[.visit (.var "b"), .conjoin], [true]⟩ := by decide
  have hright : Evaluation.step (.ofList [("a", true), ("b", true)]) (.visit (.var "b"))
      ⟨[.conjoin], [true]⟩ = .ok ⟨[.conjoin], [true, true]⟩ := by decide
  have hconjoin : Evaluation.Met (.ofList [("a", true), ("b", true)]) (.and (.var "a") (.var "b"))
      ⟨[.conjoin], [true, true]⟩ := .tail (.tail (.tail .refl ⟨rfl⟩) ⟨hleft⟩) ⟨hright⟩
  exact ⟨hunbound "b" (by decide +kernel), hvalue (fun _ => true) (by decide +kernel), hstep _ _ _ hconjoin,
    hend _ (hconjoin.tail ⟨rfl⟩)⟩

end Formula
end Propositional
