import Propositional.Proofs.Formula.Evaluation
import Propositional.Proofs.Formula.RoundTrip

/-! Statements made of the texts of two others. Between parentheses the text of a statement is an operand. Without
    them it can stand beside `||`, which binds weakest; but then the disjunctions of the second text are read on
    from the first one, so the formula is not the disjunction of the two, and yet has its truth value. -/

namespace Propositional
open Text

namespace Formula

/-! ### Disjunctions read on -/

/-- The formula that is read where `||` stands between the texts of the two: the first one is the leftmost operand of
    the second one's disjunctions. -/
def attach (l : Formula) : Formula → Formula
  | .or m r => .or (l.attach m) r
  | f => .or l f

section
variable {l f : Formula}

theorem tokens_attach (l f : Formula) : (l.attach f).tokens = l.tokens ++ .or :: f.tokens := by
  induction f with
  | or m r ihm _ => rw [attach, tokens_or, ihm, tokens_or, List.append_assoc, List.cons_append]
  | _ => exact tokens_or l _

theorem occurrences_attach (l f : Formula) : (l.attach f).occurrences = l.occurrences ++ f.occurrences := by
  rw [occurrences, tokens_attach, ← tokens_or]
  exact occurrences_or l f

/-- Only a disjunction cannot stand to the right of `||`. -/
theorem shaped_attach (hl : l.Shaped) (hf : f.Shaped) : (l.attach f).Shaped := by
  induction f with
  | or m r ihm _ =>
    obtain ⟨hr, hm, hrs⟩ := hf
    exact ⟨hr, ihm hm, hrs⟩
  | _ =>
    refine ⟨?_, hl, hf⟩
    rw [phrase]
    decide

theorem nesting_attach (l f : Formula) : (l.attach f).nesting = max l.nesting f.nesting := by
  induction f with
  | or m r ihm _ => rw [attach, nesting, ihm, nesting, Nat.max_assoc]
  | _ => rfl

theorem truth_attach (l f : Formula) (value : String → Bool) :
    (l.attach f).truth value = (l.truth value || f.truth value) := by
  induction f with
  | or m r ihm _ => rw [attach, truth, ihm, truth, Bool.or_assoc]
  | _ => rfl

end

example : (var "a").attach (or (var "b") (var "c")) = or (or (var "a") (var "b")) (var "c") := rfl

/-! ### Values of two formulas -/

/-- A formula with the names of two others and a truth value made of theirs fails where the first one does, else where
    the second one does. -/
theorem eval_eq_bind {l r f : Formula} {op : Bool → Bool → Bool}
    (hoccurrences : f.occurrences = l.occurrences ++ r.occurrences)
    (htruth : ∀ value, f.truth value = op (l.truth value) (r.truth value)) (b : Valuation) :
    f.eval b = do
      let x ← l.eval b
      let y ← r.eval b
      return op x y := by
  simp only [eval_eq, unbound?, hoccurrences, List.find?_append, htruth]
  cases l.occurrences.find? fun v => (b.get? v).isNone with
  | some v => rfl
  | none => cases r.occurrences.find? fun v => (b.get? v).isNone <;> rfl

theorem eval_not_group (f : Formula) (b : Valuation) : (not (group f)).eval b = (f.eval b).map (!·) := by
  simp only [eval_eq, unbound?, occurrences_not, occurrences_group, truth]
  cases f.occurrences.find? fun v => (b.get? v).isNone <;> rfl

end Formula

/-! ### Statements of two texts -/

namespace Statement

/-- The third statement has the variables of the other two, those of the first one first, and it fails as the first one
    does, else as the second one does, else its value is made of theirs. -/
structure Joins (op : Bool → Bool → Bool) (s₁ s₂ s : Statement) : Prop where
  vars : FirstOccurrences (s₁.vars ++ s₂.vars) s.vars
  eval : ∀ b, s.formula.eval b = do
    let x ← s₁.formula.eval b
    let y ← s₂.formula.eval b
    return op x y

theorem joins_of_formula {op : Bool → Bool → Bool} {s₁ s₂ s : Statement} (hvars₁ : s₁.vars = s₁.formula.vars)
    (hvars₂ : s₂.vars = s₂.formula.vars) (hvars : s.vars = s.formula.vars)
    (hoccurrences : s.formula.occurrences = s₁.formula.occurrences ++ s₂.formula.occurrences)
    (htruth : ∀ value, s.formula.truth value = op (s₁.formula.truth value) (s₂.formula.truth value)) :
    Joins op s₁ s₂ s where
  vars := by
    rw [firstOccurrences_iff, hvars₁, hvars₂, hvars, Formula.vars_eq, Formula.vars_eq, Formula.vars_eq,
      eraseDups_append_eraseDups, hoccurrences]
  eval := Formula.eval_eq_bind hoccurrences htruth

section
variable {e₁ e₂ : String} {s₁ s₂ : Statement}

theorem vars_of_parse (h : parse e₁ = .ok s₁) : s₁.vars = s₁.formula.vars := (parse_eq_ok_iff.mp h).2.2

/-- The bound on the parentheses that are open at one place, as a bound on the formula in further parentheses. -/
theorem nesting_group_le {f : Formula} (h : OpenAtMost (maxNesting - 1) f.tokens) : f.group.nesting ≤ maxNesting :=
  Nat.add_le_of_le_sub (by decide) (Formula.openAtMost_tokens_iff.mp h)

theorem exists_parse_or (h₁ : parse e₁ = .ok s₁) (h₂ : parse e₂ = .ok s₂) :
    ∃ s, parse (e₁ ++ "||" ++ e₂) = .ok s ∧ Joins (· || ·) s₁ s₂ s := by
  have hwf₁ := wellFormed_of_parse h₁
  have hwf₂ := wellFormed_of_parse h₂
  have hscans : Scans (e₁ ++ "||" ++ e₂).toList (s₁.formula.attach s₂.formula).tokens := by
    rw [Formula.tokens_attach, String.toList_append, String.toList_append, List.append_assoc]
    exact (scans_of_parse h₁).append (.symbol (t := .or) rfl (scans_of_parse h₂)) (endsName_symbol (t := .or) rfl _)
  have hparse := parse_of_scans hscans (Formula.shaped_attach hwf₁.shaped hwf₂.shaped)
    (Formula.nesting_attach _ _ ▸ Nat.max_le.mpr ⟨hwf₁.nesting_le, hwf₂.nesting_le⟩)
  exact ⟨_, hparse, joins_of_formula (vars_of_parse h₁) (vars_of_parse h₂) rfl (Formula.occurrences_attach _ _)
    (Formula.truth_attach _ _)⟩

theorem exists_parse_and (h₁ : parse e₁ = .ok s₁) (h₂ : parse e₂ = .ok s₂)
    (ho₁ : OpenAtMost (maxNesting - 1) s₁.formula.tokens) (ho₂ : OpenAtMost (maxNesting - 1) s₂.formula.tokens) :
    ∃ s, parse ("(" ++ e₁ ++ ")&&(" ++ e₂ ++ ")") = .ok s ∧ Joins (· && ·) s₁ s₂ s := by
  have htext : ("(" ++ e₁ ++ ")&&(" ++ e₂ ++ ")").toList =
      '(' :: (e₁.toList ++ [')']) ++ (Token.and.spelling.toList ++ '(' :: (e₂.toList ++ [')'])) := by
    simp [Token.spelling]
  have hscans : Scans ("(" ++ e₁ ++ ")&&(" ++ e₂ ++ ")").toList
      (Formula.and s₁.formula.group s₂.formula.group).tokens := by
    rw [htext, Formula.tokens_and]
    exact (scans_of_parse h₁).group.append (.symbol rfl (scans_of_parse h₂).group) (endsName_symbol rfl _)
  have hshaped : (Formula.and s₁.formula.group s₂.formula.group).Shaped :=
    ⟨(by decide : Phrase.primary ≤ .conjunction), (by decide : Phrase.primary ≤ .unary),
      (wellFormed_of_parse h₁).shaped, (wellFormed_of_parse h₂).shaped⟩
  have hparse := parse_of_scans hscans hshaped (Nat.max_le.mpr ⟨nesting_group_le ho₁, nesting_group_le ho₂⟩)
  exact ⟨_, hparse, joins_of_formula (vars_of_parse h₁) (vars_of_parse h₂) rfl (by simp) fun _ => rfl⟩

theorem exists_parse_not (h₁ : parse e₁ = .ok s₁) (ho₁ : OpenAtMost (maxNesting - 1) s₁.formula.tokens) :
    ∃ s, parse ("!(" ++ e₁ ++ ")") = .ok s ∧ s.vars = s₁.vars ∧
      ∀ b, s.formula.eval b = (s₁.formula.eval b).map (!·) := by
  have htext : ("!(" ++ e₁ ++ ")").toList = Token.not.spelling.toList ++ '(' :: (e₁.toList ++ [')']) := by
    simp [Token.spelling]
  have hscans : Scans ("!(" ++ e₁ ++ ")").toList (Formula.not s₁.formula.group).tokens := by
    rw [htext]
    exact .symbol rfl (scans_of_parse h₁).group
  have hparse := parse_of_scans hscans ⟨Phrase.le_refl _, (wellFormed_of_parse h₁).shaped⟩ (nesting_group_le ho₁)
  refine ⟨_, hparse, ?_, Formula.eval_not_group s₁.formula⟩
  rw [vars_of_parse h₁, Formula.vars_eq, Formula.vars_eq, Formula.occurrences_not, Formula.occurrences_group]

end

/-- The texts of two statements with `||` between them make a statement with their disjunction as its value. Where no
    text opens more parentheses at one place than leave room for one more, the texts in parentheses with `&&` between
    them make one with the conjunction, and a text in parentheses behind `!` one with the negation. -/
theorem exists_parse_compositions {e₁ e₂ : String} {s₁ s₂ : Statement} (h₁ : parse e₁ = .ok s₁)
    (h₂ : parse e₂ = .ok s₂) :
    (∃ s, parse (e₁ ++ "||" ++ e₂) = .ok s ∧ Joins (· || ·) s₁ s₂ s) ∧
      (OpenAtMost 255 s₁.formula.tokens → OpenAtMost 255 s₂.formula.tokens →
        ∃ s, parse ("(" ++ e₁ ++ ")&&(" ++ e₂ ++ ")") = .ok s ∧ Joins (· && ·) s₁ s₂ s) ∧
      (OpenAtMost 255 s₁.formula.tokens →
        ∃ s, parse ("!(" ++ e₁ ++ ")") = .ok s ∧ s.vars = s₁.vars ∧
          ∀ b, s.formula.eval b = (s₁.formula.eval b).map (!·)) :=
  ⟨exists_parse_or h₁ h₂, exists_parse_and h₁ h₂, exists_parse_not h₁⟩

/-- Beside `||` a disjunction is read on from the left, and yet its value is that of the disjunction of the two. -/
theorem exists_parse_compositions_or :
    parse "a" = .ok ⟨"a", ["a"], .var "a"⟩ ∧
      parse "b||a" = .ok ⟨"b||a", ["b", "a"], .or (.var "b") (.var "a")⟩ ∧
      (∃ s, parse "a||b||a" = .ok s ∧ Joins (· || ·) ⟨"a", ["a"], .var "a"⟩
        ⟨"b||a", ["b", "a"], .or (.var "b") (.var "a")⟩ s) ∧
      (∃ s, parse "(a)&&(b||a)" = .ok s ∧ Joins (· && ·) ⟨"a", ["a"], .var "a"⟩
        ⟨"b||a", ["b", "a"], .or (.var "b") (.var "a")⟩ s) ∧
      ∃ s, parse "!(a)" = .ok s ∧ s.vars = ["a"] ∧
        ∀ b, s.formula.eval b = ((Formula.var "a").eval b).map (!·) := by
  have h₁ : parse "a" = .ok ⟨"a", ["a"], .var "a"⟩ := by decide +kernel
  have h₂ : parse "b||a" = .ok ⟨"b||a", ["b", "a"], .or (.var "b") (.var "a")⟩ := by decide +kernel
  have ho₁ : OpenAtMost 255 (Formula.var "a").tokens := Formula.openAtMost_tokens_iff.mpr (by decide)
  have ho₂ : OpenAtMost 255 (Formula.or (.var "b") (.var "a")).tokens := Formula.openAtMost_tokens_iff.mpr (by decide)
  obtain ⟨hor, hand, hnot⟩ := exists_parse_compositions h₁ h₂
  exact ⟨h₁, h₂, hor, hand ho₁ ho₂, hnot ho₁⟩

end Statement
end Propositional
