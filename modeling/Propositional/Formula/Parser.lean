import Propositional.Fault
import Propositional.Formula

/-! Reading a formula from its tokens. Disjunction binds weakest, then conjunction, both to the left; a negation
    takes one variable or one group. The reader goes over the tokens once, and what it keeps for each open
    parenthesis is the part of the formula that the parenthesis interrupts. -/

namespace Propositional
open Text

namespace Formula

/-- What stands before an operand, inside the innermost open parenthesis: the disjuncts to the left of the last
    `||`, the conjuncts to the left of the last `&&`, and a negation sign. -/
structure Context where
  disjunction : Option Formula := none
  conjunction : Option Formula := none
  negated : Bool := false
deriving DecidableEq, Repr

/-- Where the reader stands: before an operand, or after the conjunction `last`. -/
inductive Reading where
  | operand (context : Context) (outer : List Context)
  | operator (disjunction : Option Formula) (last : Formula) (outer : List Context)
deriving DecidableEq, Repr

namespace Reading

/-- The start of a text. -/
def start : Reading := .operand {} []

/-- The disjuncts read so far with one more to their right. -/
def disjoin : Option Formula → Formula → Formula
  | none, f => f
  | some l, f => .or l f

/-- The place after an operand, a variable or a group, that was read in the context. -/
def supply (context : Context) (outer : List Context) (primary : Formula) : Reading :=
  let unary := if context.negated then .not primary else primary
  .operator context.disjunction (match context.conjunction with | none => unary | some l => .and l unary) outer

/-- The place after one more token, or the fault that the token is. -/
def step : Reading → Token → Except Fault Reading
  | .operand context outer, .name v => .ok (supply context outer (.var v))
  | .operand context outer, .openParen =>
    if outer.length ≥ maxNesting then .error .nestedTooDeeply else .ok (.operand {} (context :: outer))
  | .operand context outer, .not =>
    if context.negated then .error (.operandExpected (some .not))
    else .ok (.operand { context with negated := true } outer)
  | .operand _ _, token => .error (.operandExpected (some token))
  | .operator disjunction last outer, .and => .ok (.operand { disjunction, conjunction := some last } outer)
  | .operator disjunction last outer, .or =>
    .ok (.operand { disjunction := some (disjoin disjunction last) } outer)
  | .operator disjunction last (context :: outer), .closeParen =>
    .ok (supply context outer (.group (disjoin disjunction last)))
  | .operator _ _ (_ :: _), token => .error (.closeExpected (some token))
  | .operator _ _ [], token => .error (.endExpected token)

/-- The formula read when the text ends, or the fault that its end is. -/
def finish : Reading → Except Fault Formula
  | .operand _ _ => .error (.operandExpected none)
  | .operator _ _ (_ :: _) => .error (.closeExpected none)
  | .operator disjunction last [] => .ok (disjoin disjunction last)

/-- The formula that the remaining tokens complete, in a text of `length` bytes. -/
def run (length : Nat) : Reading → List (Located Token) → Except (Located Fault) Formula
  | reading, [] =>
    match reading.finish with
    | .error fault => .error ⟨fault, length⟩
    | .ok f => .ok f
  | reading, t :: ts =>
    match reading.step t.value with
    | .error fault => .error ⟨fault, t.offset⟩
    | .ok next => run length next ts

/-! ### The tokens that have been read -/

/-- The tokens that an optional formula and an operator after it stand for. -/
def operandTokens (operator : Token) : Option Formula → List Token
  | none => []
  | some f => f.tokens ++ [operator]

/-- The tokens that the context stands for. -/
def contextTokens (context : Context) : List Token :=
  operandTokens .or context.disjunction ++ operandTokens .and context.conjunction ++
    if context.negated then [.not] else []

/-- The tokens up to the innermost open parenthesis, where the contexts outside of it are given, nearest first. -/
def outerTokens : List Context → List Token
  | [] => []
  | context :: outer => outerTokens outer ++ contextTokens context ++ [.openParen]

/-- The tokens up to the place. -/
def tokens : Reading → List Token
  | .operand context outer => outerTokens outer ++ contextTokens context
  | .operator disjunction last outer => outerTokens outer ++ (disjoin disjunction last).tokens

theorem tokens_disjoin (disjunction : Option Formula) (f : Formula) :
    (disjoin disjunction f).tokens = operandTokens .or disjunction ++ f.tokens := by
  cases disjunction <;> simp [disjoin, operandTokens]

theorem tokens_operand (context : Context) (outer : List Context) :
    (operand context outer).tokens = outerTokens outer ++ contextTokens context := rfl

theorem tokens_operator (disjunction : Option Formula) (last : Formula) (outer : List Context) :
    (operator disjunction last outer).tokens =
      outerTokens outer ++ (operandTokens .or disjunction ++ last.tokens) := by
  rw [tokens, tokens_disjoin]

theorem tokens_supply (context : Context) (outer : List Context) (f : Formula) :
    (supply context outer f).tokens = outerTokens outer ++ (contextTokens context ++ f.tokens) := by
  obtain ⟨disjunction, conjunction, negated⟩ := context
  cases conjunction <;> cases negated <;> simp [supply, tokens_operator, contextTokens, operandTokens]

/-- A step takes in its token and forgets none. -/
theorem tokens_step {reading next : Reading} {token : Token} (h : reading.step token = .ok next) :
    next.tokens = reading.tokens ++ [token] := by
  revert h
  fun_cases step reading token <;> intro h <;> simp at h <;> subst h <;>
    simp_all [tokens_operand, tokens_operator, tokens_supply, tokens_disjoin, outerTokens, contextTokens,
      operandTokens]

theorem tokens_finish : ∀ {reading : Reading} {f : Formula}, reading.finish = .ok f → f.tokens = reading.tokens
  | .operator disjunction last [], _, rfl => by simp [tokens, outerTokens]

theorem tokens_run {length : Nat} {reading : Reading} {ts : List (Located Token)} {f : Formula}
    (h : reading.run length ts = .ok f) : f.tokens = reading.tokens ++ ts.map (·.value) := by
  fun_induction run length reading ts with
  | case1 reading fault hf => simp at h
  | case2 reading g hf =>
    cases h
    simp [tokens_finish hf]
  | case3 reading t ts fault hs => simp at h
  | case4 reading t ts next hs ih => simp [ih h, tokens_step hs]

end Reading

/-- The formula with the given tokens, in a text of `length` bytes. -/
def ofTokens (length : Nat) (tokens : List (Located Token)) : Except (Located Fault) Formula :=
  Reading.start.run length tokens

/-- A formula that is read has the tokens it is read from: no parenthesis is forgotten or made up. -/
theorem tokens_ofTokens {length : Nat} {tokens : List (Located Token)} {f : Formula}
    (h : ofTokens length tokens = .ok f) : f.tokens = tokens.map (·.value) :=
  Reading.tokens_run h

end Formula

end Propositional
