import Propositional.Fault
import Propositional.Formula
import Propositional.Valuation

/-! The truth value of a formula under a valuation. A loop takes the formula apart with a stack of actions that are
    still to be done and a stack of operands, from left to right; both operands of `&&` and `||` are always evaluated,
    so a name without a value is found also where the other operand decides. -/

namespace Propositional

/-- Why a formula has no truth value, or no table. -/
inductive EvalError where
  | syntactic (e : SyntaxError)
  | unbound (v : String)
  | tooManyVariables (count limit : Nat)
  | missingOperand
deriving DecidableEq, Repr

def EvalError.message : EvalError → String
  | .syntactic e => e.message
  | .unbound v => s!"variable `{v}` is not bound"
  | .tooManyVariables count limit => s!"expression has {count} variables, at most {limit} are supported"
  | .missingOperand => "operand stack underflow"

/-- What an evaluation does next: to evaluate a formula, or to apply a connective to the operands on the stack. -/
inductive Action where
  | visit (f : Formula)
  | negate
  | conjoin
  | disjoin
deriving DecidableEq, Repr

/-- An evaluation under way: the actions that are still to be done, next one first, and the operands, the one on top
    first. -/
structure Evaluation where
  actions : List Action
  operands : List Bool
deriving DecidableEq, Repr

/-- The number of actions that the evaluation of the formula takes. -/
def Formula.effort : Formula → Nat
  | .var _ => 1
  | .not f => f.effort + 2
  | .and l r => l.effort + r.effort + 2
  | .or l r => l.effort + r.effort + 2
  | .group f => f.effort + 1

def Action.effort : Action → Nat
  | .visit f => f.effort
  | _ => 1

namespace Evaluation

def start (f : Formula) : Evaluation := ⟨[.visit f], []⟩

/-- The evaluation with an action taken from its stack and done. A connective takes its operands from the stack, the
    right one first. -/
def step (b : Valuation) : Action → Evaluation → Except EvalError Evaluation
  | .visit (.var v), ⟨actions, operands⟩ =>
    match b.get? v with
    | some x => .ok ⟨actions, x :: operands⟩
    | none => .error (.unbound v)
  | .visit (.not f), ⟨actions, operands⟩ => .ok ⟨.visit f :: .negate :: actions, operands⟩
  | .visit (.and l r), ⟨actions, operands⟩ => .ok ⟨.visit l :: .visit r :: .conjoin :: actions, operands⟩
  | .visit (.or l r), ⟨actions, operands⟩ => .ok ⟨.visit l :: .visit r :: .disjoin :: actions, operands⟩
  | .visit (.group f), ⟨actions, operands⟩ => .ok ⟨.visit f :: actions, operands⟩
  | .negate, ⟨actions, x :: operands⟩ => .ok ⟨actions, (!x) :: operands⟩
  | .conjoin, ⟨actions, y :: x :: operands⟩ => .ok ⟨actions, (x && y) :: operands⟩
  | .disjoin, ⟨actions, y :: x :: operands⟩ => .ok ⟨actions, (x || y) :: operands⟩
  | _, _ => .error .missingOperand

/-- The number of actions that are left, with those that they lead to. -/
def effort (e : Evaluation) : Nat := e.actions.foldr (fun action n => action.effort + n) 0

theorem effort_cons (action : Action) (actions : List Action) (operands : List Bool) :
    effort ⟨action :: actions, operands⟩ = action.effort + effort ⟨actions, operands⟩ := by
  simp [effort]

/-- Each action is done once. -/
theorem effort_of_step {b : Valuation} {action : Action} {e next : Evaluation} (h : step b action e = .ok next) :
    next.effort + 1 = action.effort + e.effort := by
  revert h
  fun_cases step b action e <;> intro h <;> cases h <;> simp [effort, Action.effort, Formula.effort] <;> omega

/-- The operands that are left when no action is. -/
def run (b : Valuation) : Evaluation → Except EvalError (List Bool)
  | ⟨[], operands⟩ => .ok operands
  | ⟨action :: actions, operands⟩ =>
    match h : step b action ⟨actions, operands⟩ with
    | .error fault => .error fault
    | .ok next =>
      have : next.effort < effort ⟨action :: actions, operands⟩ := by
        rw [effort_cons, ← effort_of_step h]
        exact Nat.lt_succ_self _
      run b next
termination_by e => e.effort

@[simp] theorem run_nil (b : Valuation) (operands : List Bool) : run b ⟨[], operands⟩ = .ok operands := by
  rw [run]

theorem run_cons (b : Valuation) (action : Action) (actions : List Action) (operands : List Bool) :
    run b ⟨action :: actions, operands⟩ = step b action ⟨actions, operands⟩ >>= run b := by
  rw [run]
  split
  next fault h => simp [h, bind, Except.bind]
  next next h => simp [h, bind, Except.bind]

end Evaluation

namespace Formula

/-- The truth value of the formula. -/
def eval (f : Formula) (b : Valuation) : Except EvalError Bool := do
  match ← Evaluation.run b (.start f) with
  | x :: _ => .ok x
  | [] => .error .missingOperand

/-! ### Truth -/

/-- The truth value of the formula where every name has a value. -/
def truth (value : String → Bool) : Formula → Bool
  | .var v => value v
  | .not f => !f.truth value
  | .and l r => l.truth value && r.truth value
  | .or l r => l.truth value || r.truth value
  | .group f => f.truth value

/-- The first name in the formula, from left to right, that the valuation leaves without a value. -/
def unbound? (f : Formula) (b : Valuation) : Option String := f.occurrences.find? fun v => (b.get? v).isNone

/-- Visiting a formula puts its truth value on the stack of operands, or stops at its first name without a value. -/
theorem run_visit (b : Valuation) (f : Formula) (actions : List Action) (operands : List Bool) :
    Evaluation.run b ⟨.visit f :: actions, operands⟩ =
      match f.unbound? b with
      | some v => .error (.unbound v)
      | none => Evaluation.run b ⟨actions, f.truth (fun v => (b.get? v).getD false) :: operands⟩ := by
  induction f generalizing actions operands with
  | var v =>
    rw [Evaluation.run_cons, Evaluation.step]
    cases h : b.get? v <;> simp [unbound?, truth, h, bind, Except.bind]
  | not f ih =>
    rw [Evaluation.run_cons]
    simp only [Evaluation.step, bind, Except.bind, ih, Evaluation.run_cons]
    rfl
  | and l r ihl ihr =>
    rw [Evaluation.run_cons]
    simp only [Evaluation.step, bind, Except.bind, ihl, ihr, Evaluation.run_cons, unbound?, occurrences_and,
      List.find?_append]
    cases List.find? (fun v => (b.get? v).isNone) l.occurrences <;> rfl
  | or l r ihl ihr =>
    rw [Evaluation.run_cons]
    simp only [Evaluation.step, bind, Except.bind, ihl, ihr, Evaluation.run_cons, unbound?, occurrences_or,
      List.find?_append]
    cases List.find? (fun v => (b.get? v).isNone) l.occurrences <;> rfl
  | group f ih =>
    rw [Evaluation.run_cons]
    simp only [Evaluation.step, bind, Except.bind, ih, unbound?, occurrences_group, truth]

/-- A formula evaluates to its truth value, or fails at its first name without a value. -/
theorem eval_eq (f : Formula) (b : Valuation) :
    f.eval b =
      match f.unbound? b with
      | some v => .error (.unbound v)
      | none => .ok (f.truth fun v => (b.get? v).getD false) := by
  rw [eval, Evaluation.start, run_visit]
  cases f.unbound? b with
  | some v => rfl
  | none =>
    dsimp only
    rw [Evaluation.run_nil]
    rfl

end Formula

end Propositional
