import Propositional.Token

/-! Propositional formulas. A formula keeps the parentheses it was written with, and its text has no others. -/

namespace Propositional

inductive Formula where
  | var (v : String)
  | not (f : Formula)
  | and (l r : Formula)
  | or (l r : Formula)
  | group (f : Formula)
deriving DecidableEq, Repr

namespace Formula

/-! ### Tokens -/

/-- The tokens of the formula from left to right, then `rest`. -/
def tokensOnto : Formula → List Token → List Token
  | .var v, rest => .name v :: rest
  | .not f, rest => .not :: f.tokensOnto rest
  | .and l r, rest => l.tokensOnto (.and :: r.tokensOnto rest)
  | .or l r, rest => l.tokensOnto (.or :: r.tokensOnto rest)
  | .group f, rest => .openParen :: f.tokensOnto (.closeParen :: rest)

def tokens (f : Formula) : List Token := f.tokensOnto []

theorem tokensOnto_eq (f : Formula) (rest : List Token) : f.tokensOnto rest = f.tokens ++ rest := by
  unfold tokens
  induction f generalizing rest with
  | var v => rfl
  | not f ih => simp [tokensOnto, ih rest]
  | and l r ihl ihr => simp only [tokensOnto]; rw [ihl, ihr, ihl (.and :: _)]; simp
  | or l r ihl ihr => simp only [tokensOnto]; rw [ihl, ihr, ihl (.or :: _)]; simp
  | group f ih => simp only [tokensOnto]; rw [ih, ih [.closeParen]]; simp

@[simp] theorem tokens_var (v : String) : (var v).tokens = [.name v] := rfl

@[simp] theorem tokens_not (f : Formula) : (not f).tokens = .not :: f.tokens := rfl

@[simp] theorem tokens_and (l r : Formula) : (and l r).tokens = l.tokens ++ .and :: r.tokens :=
  tokensOnto_eq l _

@[simp] theorem tokens_or (l r : Formula) : (or l r).tokens = l.tokens ++ .or :: r.tokens :=
  tokensOnto_eq l _

@[simp] theorem tokens_group (f : Formula) : (group f).tokens = .openParen :: (f.tokens ++ [.closeParen]) :=
  congrArg _ (tokensOnto_eq f _)

theorem tokens_ne_nil (f : Formula) : f.tokens ≠ [] := by
  cases f <;> simp

/-! ### Text -/

/-- The text of the formula, then `rest`. The two binary operators stand between spaces. -/
def charsOnto : Formula → List Char → List Char
  | .var v, rest => v.toList ++ rest
  | .not f, rest => '!' :: f.charsOnto rest
  | .and l r, rest => l.charsOnto (" && ".toList ++ r.charsOnto rest)
  | .or l r, rest => l.charsOnto (" || ".toList ++ r.charsOnto rest)
  | .group f, rest => '(' :: f.charsOnto (')' :: rest)

def chars (f : Formula) : List Char := f.charsOnto []

theorem charsOnto_eq (f : Formula) (rest : List Char) : f.charsOnto rest = f.chars ++ rest := by
  unfold chars
  induction f generalizing rest with
  | var v => simp [charsOnto]
  | not f ih => simp [charsOnto, ih rest]
  | and l r ihl ihr => simp only [charsOnto]; rw [ihl, ihr, ihl (_ ++ r.charsOnto [])]; simp
  | or l r ihl ihr => simp only [charsOnto]; rw [ihl, ihr, ihl (_ ++ r.charsOnto [])]; simp
  | group f ih => simp only [charsOnto]; rw [ih, ih [')']]; simp

/-- The formula's text. -/
def render (f : Formula) : String := String.ofList f.chars

/-! ### Variables -/

/-- The names in the formula from left to right, each as often as it occurs. -/
def occurrences (f : Formula) : List String := f.tokens.filterMap Token.name?

@[simp] theorem occurrences_var (v : String) : (var v).occurrences = [v] := rfl

@[simp] theorem occurrences_not (f : Formula) : (not f).occurrences = f.occurrences := rfl

@[simp] theorem occurrences_and (l r : Formula) : (and l r).occurrences = l.occurrences ++ r.occurrences := by
  simp [occurrences, List.filterMap_cons, Token.name?]

@[simp] theorem occurrences_or (l r : Formula) : (or l r).occurrences = l.occurrences ++ r.occurrences := by
  simp [occurrences, List.filterMap_cons, Token.name?]

@[simp] theorem occurrences_group (f : Formula) : (group f).occurrences = f.occurrences := by
  simp [occurrences, List.filterMap_cons, Token.name?]

/-- The number of nodes of the formula. -/
def size : Formula → Nat
  | .var _ => 1
  | .not f => 1 + f.size
  | .and l r => 1 + l.size + r.size
  | .or l r => 1 + l.size + r.size
  | .group f => 1 + f.size

/-- The names that are met when the formulas on a stack are taken apart, the one on top first. The operands of a formula
    come onto the stack in its place, the left one on top. -/
def namesOn : List Formula → List String
  | [] => []
  | .var v :: stack => v :: namesOn stack
  | .not f :: stack => namesOn (f :: stack)
  | .and l r :: stack => namesOn (l :: r :: stack)
  | .or l r :: stack => namesOn (l :: r :: stack)
  | .group f :: stack => namesOn (f :: stack)
termination_by stack => stack.foldr (fun f n => f.size + n) 0
decreasing_by
  all_goals
    simp only [List.foldr_cons, size]
    omega

/-- The names of a formula are met from left to right, before those of the formulas below it. -/
theorem namesOn_cons (f : Formula) (stack : List Formula) : namesOn (f :: stack) = f.occurrences ++ namesOn stack := by
  induction f generalizing stack with
  | var v => rw [namesOn, occurrences_var, List.singleton_append]
  | not f ih => rw [namesOn, ih, occurrences_not]
  | and l r ihl ihr => rw [namesOn, ihl, ihr, occurrences_and, List.append_assoc]
  | or l r ihl ihr => rw [namesOn, ihl, ihr, occurrences_or, List.append_assoc]
  | group f ih => rw [namesOn, ih, occurrences_group]

/-- The variables of the formula in order of first occurrence. -/
def vars (f : Formula) : List String := (namesOn [f]).eraseDups

theorem vars_eq (f : Formula) : f.vars = f.occurrences.eraseDups := by
  rw [vars, namesOn_cons, namesOn, List.append_nil]

@[simp] theorem mem_vars {f : Formula} {v : String} : v ∈ f.vars ↔ v ∈ f.occurrences := by
  rw [vars_eq, List.mem_eraseDups]

end Formula

end Propositional
