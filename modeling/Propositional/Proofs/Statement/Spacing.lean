import Propositional.Proofs.Formula.RoundTrip
import Propositional.Proofs.Token.Spacing

/-! White space in a statement. In a formula no two names stand next to each other, so all white space can be left out of
    the text of a statement, and any can be added between its tokens: the tokens stay the same, and they determine
    the formula. -/

namespace Propositional
open Text

/-- Between two names of a formula there is an operator. -/
theorem Formula.namesApart_tokens (f : Formula) : NamesApart f.tokens := by
  unfold NamesApart
  induction f with
  | var v => exact List.IsChain.singleton _
  | not f ih => exact ih.cons fun t _ => .inl rfl
  | and l r ihl ihr =>
    rw [tokens_and]
    exact List.isChain_append.mpr ⟨ihl, ihr.cons fun t _ => .inl rfl, fun t _ u hu => .inr (by cases hu; rfl)⟩
  | or l r ihl ihr =>
    rw [tokens_or]
    exact List.isChain_append.mpr ⟨ihl, ihr.cons fun t _ => .inl rfl, fun t _ u hu => .inr (by cases hu; rfl)⟩
  | group f ih =>
    rw [tokens_group]
    refine List.IsChain.cons (List.isChain_append.mpr ⟨ih, List.IsChain.singleton _, fun t _ u hu => ?_⟩)
      fun t _ => .inl rfl
    cases hu
    exact .inr rfl

namespace Statement
variable {source source' : String} {s s' : Statement} {tokens tokens' : List (Located Token)}

theorem tokens_of_parse (h : parse source = .ok s) (ht : tokenize source.toList = .ok tokens) :
    tokens.map (·.value) = s.formula.tokens ∧ Derives .disjunction maxNesting (tokens.map (·.value)) s.formula := by
  obtain ⟨⟨tokens', ht', hd⟩, -, -⟩ := parse_eq_ok_iff.mp h
  rw [ht] at ht'
  cases ht'
  exact ⟨hd.eq_tokens, hd⟩

/-- Statements have the same formula if their texts have the same tokens, and only then. -/
theorem formula_eq_iff (h : parse source = .ok s) (h' : parse source' = .ok s')
    (ht : tokenize source.toList = .ok tokens) (ht' : tokenize source'.toList = .ok tokens') :
    s.formula = s'.formula ↔ tokens.map (·.value) = tokens'.map (·.value) := by
  obtain ⟨htokens, hd⟩ := tokens_of_parse h ht
  obtain ⟨htokens', hd'⟩ := tokens_of_parse h' ht'
  constructor
  · intro heq
    rw [htokens, htokens', heq]
  · intro heq
    rw [← heq] at hd'
    exact hd.unique hd'

/-- A text that has the tokens of a statement makes the same statement. -/
theorem parse_of_scans_tokens (h : parse source = .ok s) {text : List Char} (hscans : Scans text s.formula.tokens) :
    parse (String.ofList text) = .ok { s with source := String.ofList text } := by
  have hwf := wellFormed_of_parse h
  rw [(parse_eq_ok_iff.mp h).2.2]
  refine parse_of_scans ?_ hwf.shaped hwf.nesting_le
  rwa [String.toList_ofList]

/-- Statements have the same formula exactly if their texts have the same tokens. So the text of a statement makes the
    same statement, but for the text itself, without any white space, and with white space added wherever no token is
    broken. -/
theorem formula_eq_iff_and_parse_respaced :
    (∀ source source' s s' tokens tokens', parse source = .ok s → parse source' = .ok s' →
      tokenize source.toList = .ok tokens → tokenize source'.toList = .ok tokens' →
      (s.formula = s'.formula ↔ tokens.map (·.value) = tokens'.map (·.value))) ∧
    ∀ source s, parse source = .ok s →
      (∀ text, text = String.ofList (source.toList.filter fun c => !isBlank c) →
        parse text = .ok { s with source := text }) ∧
      ∀ tokens text, tokenize source.toList = .ok tokens → Widens tokens 0 source.toList text.toList →
        parse text = .ok { s with source := text } := by
  refine ⟨fun source source' s s' tokens tokens' h h' ht ht' => formula_eq_iff h h' ht ht', fun source s h => ?_⟩
  refine ⟨fun text htext => ?_, fun tokens text ht hw => ?_⟩
  · rw [htext]
    exact parse_of_scans_tokens h ((scans_of_parse h).filter s.formula.namesApart_tokens)
  · have hscans := scans_of_widens ht hw
    rw [(tokens_of_parse h ht).1] at hscans
    have hparse := parse_of_scans_tokens h hscans
    rwa [String.ofList_toList] at hparse

/-- `a && b` makes the statement that it makes without its spaces, and that it makes with a line break behind the first
    name, but not that which it makes in parentheses. -/
theorem parse_respaced_and :
    parse "a&&b" = .ok ⟨"a&&b", ["a", "b"], .and (.var "a") (.var "b")⟩ ∧
      parse "a\n && b" = .ok ⟨"a\n && b", ["a", "b"], .and (.var "a") (.var "b")⟩ ∧
      parse "(a && b)" = .ok ⟨"(a && b)", ["a", "b"], .group (.and (.var "a") (.var "b"))⟩ ∧
      Formula.and (.var "a") (.var "b") ≠ .group (.and (.var "a") (.var "b")) := by
  have hparse : parse "a && b" = .ok ⟨"a && b", ["a", "b"], .and (.var "a") (.var "b")⟩ := by decide +kernel
  have hgroup : parse "(a && b)" = .ok ⟨"(a && b)", ["a", "b"], .group (.and (.var "a") (.var "b"))⟩ := by
    decide +kernel
  have htokens : tokenize "a && b".toList = .ok [⟨.name "a", 0⟩, ⟨.and, 2⟩, ⟨.name "b", 5⟩] := by decide +kernel
  have htokens' : tokenize "(a && b)".toList =
      .ok [⟨.openParen, 0⟩, ⟨.name "a", 1⟩, ⟨.and, 3⟩, ⟨.name "b", 6⟩, ⟨.closeParen, 7⟩] := by
    decide +kernel
  have hbetween : IsBetween [⟨.name "a", 0⟩, ⟨.and, 2⟩, ⟨.name "b", 5⟩] 1 := by
    unfold IsBetween
    decide
  have hwidens : Widens [⟨.name "a", 0⟩, ⟨.and, 2⟩, ⟨.name "b", 5⟩] 0 "a && b".toList "a\n && b".toList :=
    .insert ['a'] " && b".toList (List.forall_mem_singleton.mpr (by decide)) hbetween
  obtain ⟨heq, hrespaced⟩ := formula_eq_iff_and_parse_respaced
  obtain ⟨hclosed, hwidened⟩ := hrespaced _ _ hparse
  refine ⟨hclosed _ (by decide), hwidened _ _ htokens hwidens, hgroup, ?_⟩
  exact (heq _ _ _ _ _ _ hparse hgroup htokens htokens').not.mpr nofun

end Statement
end Propositional
