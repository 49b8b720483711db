import Propositional.Proofs.Grammar.Rejection

/-! What a message lists as expected, and what it says was found. Before an operand the list has the negation sign in it,
    also directly behind a negation sign, where no second one may stand: only there the message lists what was found. -/

namespace Propositional
open Text

/-! ### Messages -/

/-- What a message lists as expected: a variable, a token other than that, or the end of the text. -/
inductive Expectation where
  | variable
  | symbol (t : Token)
  | ending
deriving DecidableEq, Repr

namespace Expectation

/-- How a message names it. -/
def describe : Expectation → String
  | .variable => "a variable"
  | .symbol t => t.describe
  | .ending => Token.describeFound none

/-- The token, or the end of the text, is one of those expected. -/
def admits : Expectation → Option Token → Bool
  | .variable, found => (found.bind Token.name?).isSome
  | .symbol t, found => found == some t
  | .ending, found => found == none

/-- The list in a message. -/
def listing : List Expectation → String
  | [] => ""
  | [x] => x.describe
  | [x, y] => x.describe ++ " or " ++ y.describe
  | x :: xs => x.describe ++ ", " ++ listing xs

end Expectation

namespace Fault
open Expectation

/-- What the message of the fault lists as expected. -/
def expected : Fault → List Expectation
  | .operandExpected _ => [.variable, .symbol .not, .symbol .openParen]
  | .closeExpected _ => [.symbol .closeParen]
  | .endExpected _ => [.ending]
  | .strayCharacter _ => []
  | .nestedTooDeeply => []

/-- The token, or the end of the text, that the message says was found, if it says so. -/
def found? : Fault → Option (Option Token)
  | .operandExpected found => some found
  | .closeExpected found => some found
  | .endExpected found => some (some found)
  | .strayCharacter _ => none
  | .nestedTooDeeply => none

variable {fault : Fault} {found : Option Token}

theorem message_eq (h : fault.found? = some found) :
    fault.message = "Expected " ++ listing fault.expected ++ ", got " ++ Token.describeFound found := by
  cases fault with
  | operandExpected _ =>
    cases h
    exact congrArg (· ++ _) (show "Expected a variable, `!` or `(`, got " = _ by rfl)
  | closeExpected _ =>
    cases h
    exact congrArg (· ++ _) (show "Expected `)`, got " = _ by rfl)
  | endExpected _ =>
    cases h
    exact congrArg (· ++ _) (show "Expected end of input, got " = _ by rfl)
  | strayCharacter _ | nestedTooDeeply => cases h

/-- The faults with a message of this form are those that say what was found. -/
theorem exists_found_iff :
    (∃ x y, fault.message = "Expected " ++ x ++ ", got " ++ y) ↔ ∃ found, fault.found? = some found := by
  constructor
  · rintro ⟨x, y, h⟩
    have hchars : ∃ rest, fault.message.toList = "Expected ".toList ++ rest := by
      rw [h, String.toList_append, String.toList_append, String.toList_append, List.append_assoc, List.append_assoc]
      exact ⟨_, rfl⟩
    obtain ⟨rest, hrest⟩ := hchars
    cases fault with
    | operandExpected found | closeExpected found | endExpected found => exact ⟨_, rfl⟩
    | strayCharacter c =>
      have hmessage : (strayCharacter c).message.toList =
          "Unexpected character `".toList ++ (toString c ++ "`").toList := by
        rw [← String.toList_append, ← String.append_assoc]
        rfl
      have hfirst : some 'U' = some 'E' := congrArg (·[0]?) (hmessage.symm.trans hrest)
      cases hfirst
    | nestedTooDeeply =>
      have hfourth : some 'r' = some 'e' := congrArg (·[3]?) hrest
      cases hfourth
  · rintro ⟨found, h⟩
    exact ⟨_, _, message_eq h⟩

end Fault

/-! ### The token in front -/

namespace Formula

/-- No formula ends with a negation sign. -/
theorem getLast?_tokens_ne (f : Formula) : f.tokens.getLast? ≠ some .not := by
  induction f with
  | var v => simp
  | not f ih => rwa [tokens_not, List.getLast?_cons_of_ne_nil f.tokens_ne_nil]
  | and l r _ ih | or l r _ ih =>
    simp only [tokens_and, tokens_or]
    rwa [List.getLast?_append_of_ne_nil _ (List.cons_ne_nil _ _), List.getLast?_cons_of_ne_nil r.tokens_ne_nil]
  | group f _ =>
    rw [tokens_group, ← List.cons_append, List.getLast?_concat]
    simp

namespace Reading
variable {reading : Reading} {fault : Fault} {k : Option Token}

/-- Before an operand a negation sign stands in front exactly when the operand is negated. -/
theorem getLast?_tokens_operand (context : Context) (outer : List Context) :
    (operand context outer).tokens.getLast? = some .not ↔ context.negated = true := by
  obtain ⟨disjunction, conjunction, negated⟩ := context
  cases negated with
  | true => simp [tokens_operand, contextTokens, ← List.append_assoc]
  | false =>
    have hother : (operand ⟨disjunction, conjunction, false⟩ outer).tokens.getLast? ≠ some .not := by
      cases conjunction with
      | some f => simp [tokens_operand, contextTokens, operandTokens, ← List.append_assoc]
      | none =>
        cases disjunction with
        | some f => simp [tokens_operand, contextTokens, operandTokens, ← List.append_assoc]
        | none => cases outer <;> simp [tokens_operand, contextTokens, operandTokens, outerTokens]
    simp [hother]

theorem getLast?_tokens_operator (disjunction : Option Formula) (last : Formula) (outer : List Context) :
    (operator disjunction last outer).tokens.getLast? ≠ some .not := by
  rw [tokens, List.getLast?_append_of_ne_nil _ (disjoin disjunction last).tokens_ne_nil]
  exact (disjoin disjunction last).getLast?_tokens_ne

/-- What is rejected is what the message says was found, and the message lists it exactly when it is a negation sign behind
    another one. -/
theorem Rejects.admits_iff (h : reading.Rejects fault k) {found : Option Token} (hfound : fault.found? = some found) :
    found = k ∧
      ((∃ x ∈ fault.expected, x.admits k) ↔ k = some .not ∧ reading.tokens.getLast? = some .not) := by
  cases k with
  | none =>
    have hf : reading.finish = .error fault := h
    obtain ⟨_, _⟩ | ⟨_, _, _ | _⟩ := reading <;> cases hf <;> cases hfound <;> simp [Fault.expected, Expectation.admits]
  | some token =>
    have hs : reading.step token = .error fault := h
    cases reading with
    | operand context outer =>
      rw [getLast?_tokens_operand]
      cases token with
      | name v => cases hs
      | openParen =>
        rw [step] at hs
        split at hs <;> cases hs
        cases hfound
      | not =>
        rw [step] at hs
        split at hs
        case isTrue hnegated =>
          cases hs
          cases hfound
          simp [Fault.expected, Expectation.admits, hnegated]
        case isFalse => cases hs
      | and | or | closeParen =>
        cases hs
        cases hfound
        simp [Fault.expected, Expectation.admits, Token.name?]
    | operator disjunction last outer =>
      have hlast := getLast?_tokens_operator disjunction last outer
      rcases outer with _ | ⟨context, outer⟩ <;> cases token <;> cases hs <;> cases hfound <;>
        simp [Fault.expected, Expectation.admits, hlast]

end Reading
end Formula

/-! ### Texts -/

namespace Statement
open Formula Reading Expectation

/-- A message that says what was expected and what was found names the lexeme at the error's position as found, and lists
    it as expected exactly when it is a negation sign directly behind another one. -/
theorem lists_found_iff {source : String} {e : SyntaxError} (h : parse source = .error e)
    (hform : ∃ x y, e.fault.message = "Expected " ++ x ++ ", got " ++ y) :
    ∃ done l after,
      lexemes source.toList = .ok (done ++ l :: after) ∧
        e.position = .ofOffset source.toList l.offset ∧
        e.fault.found? = some l.value ∧
        e.fault.message = "Expected " ++ listing e.fault.expected ++ ", got " ++ Token.describeFound l.value ∧
        ((∃ x ∈ e.fault.expected, x.admits l.value) ↔
          l.value = some .not ∧ done.getLast?.map (·.value) = some (some .not)) := by
  obtain ⟨found, hfound⟩ := Fault.exists_found_iff.mp hform
  obtain ⟨fault, hfault, rfl⟩ := parse_eq_error_iff.mp h
  cases ht : tokenize source.toList with
  | error stray =>
    rw [ht] at hfault
    cases hfault
    obtain ⟨c, hc, -⟩ := stands_of_tokenize_error ht
    simp [SyntaxError.ofLocated, hc, Fault.found?] at hfound
  | ok tokens =>
    rw [ht] at hfault
    obtain ⟨done, l, after, last, hts, hr, hl, hoffset⟩ := exists_rejects_of_run hfault
    obtain ⟨rfl, hadmits⟩ := hl.admits_iff hfound
    have hlast : last.tokens.getLast? = some .not ↔ (done.map lexeme).getLast?.map (·.value) = some (some .not) := by
      rw [hr.tokens_start, List.getLast?_map, List.getLast?_map]
      cases done.getLast? <;> simp [lexeme]
    refine ⟨done.map lexeme, l, after, ?_, ?_, hfound, Fault.message_eq hfound, ?_⟩
    · rw [← hts]
      exact lexemes_eq_ok_iff.mpr ⟨tokens, ht, rfl⟩
    · rw [SyntaxError.ofLocated, hoffset]
    · rw [← hlast]
      exact hadmits

theorem parse_notNot : parse "!!a" = .error ⟨.operandExpected (some .not), ⟨1, 2⟩⟩ := by decide +kernel

/-- In `!!a` the message lists the negation sign that was found. -/
theorem lists_found_iff_notNot :
    parse "!!a" = .error ⟨.operandExpected (some .not), ⟨1, 2⟩⟩ ∧
      (∃ x y, (Fault.operandExpected (some .not)).message = "Expected " ++ x ++ ", got " ++ y) ∧
      ∃ done l after,
        lexemes "!!a".toList = .ok (done ++ l :: after) ∧
          (⟨1, 2⟩ : Position) = .ofOffset "!!a".toList l.offset ∧
          (Fault.operandExpected (some .not)).found? = some l.value ∧
          (Fault.operandExpected (some .not)).message =
            "Expected " ++ listing (Fault.operandExpected (some .not)).expected ++ ", got " ++
              Token.describeFound l.value ∧
          ((∃ x ∈ (Fault.operandExpected (some .not)).expected, x.admits l.value) ↔
            l.value = some .not ∧ done.getLast?.map (·.value) = some (some .not)) := by
  have hform := Fault.exists_found_iff.mpr ⟨_, Fault.found?.eq_1 (some .not)⟩
  exact ⟨parse_notNot, hform, lists_found_iff parse_notNot hform⟩

/-- A message can list as expected what it says was found. -/
theorem not_forall_lists_found :
    ¬∀ (source : String) (e : SyntaxError) (found : Option Token),
      parse source = .error e →
        e.fault.message = "Expected " ++ listing e.fault.expected ++ ", got " ++ Token.describeFound found →
          ∀ x ∈ e.fault.expected, x.admits found = false := by
  intro hnone
  have hnot := hnone "!!a" _ (some .not) parse_notNot (Fault.message_eq rfl) (.symbol .not) (by simp [Fault.expected])
  cases hnot

end Statement
end Propositional
