import Propositional.Proofs.Grammar.Nesting
import Propositional.Proofs.Grammar.Reader
import Propositional.Proofs.Occurrences
import Propositional.Statement

/-! Which texts make a statement: those whose tokens the grammar derives a formula from, with no more parentheses
    open at one place than are allowed. -/

namespace Propositional
open Text

namespace Statement

theorem parse_eq_ok_iff {source : String} {s : Statement} :
    parse source = .ok s ↔
      (∃ tokens, tokenize source.toList = .ok tokens ∧ Derives .disjunction maxNesting (tokens.map (·.value)) s.formula) ∧
        s.source = source ∧ s.vars = s.formula.vars := by
  obtain ⟨source', vars, formula⟩ := s
  have hbind : tokenize source.toList >>= Formula.ofTokens (byteLength source.toList) = .ok formula ↔
      ∃ tokens, tokenize source.toList = .ok tokens ∧
        Derives .disjunction maxNesting (tokens.map (·.value)) formula := by
    simp only [← @Formula.ofTokens_eq_ok_iff (byteLength source.toList)]
    cases tokenize source.toList <;> simp [bind, Except.bind]
  rw [parse, ← hbind]
  cases tokenize source.toList >>= Formula.ofTokens (byteLength source.toList) with
  | error fault => simp
  | ok f =>
    simp only [Except.ok.injEq, mk.injEq]
    constructor
    · rintro ⟨rfl, rfl, rfl⟩
      exact ⟨rfl, rfl, rfl⟩
    · rintro ⟨rfl, rfl, rfl⟩
      exact ⟨rfl, rfl, rfl⟩

/-- A text makes a statement when the grammar derives a formula from its tokens and at most `maxNesting` parentheses
    are open at any place of them. The formula is the only one that is derived from the tokens, and the statement's
    variables are its names in the order in which they occur first. -/
theorem parse_eq_ok_iff_derives (source : String) :
    (∀ s, parse source = .ok s ↔
      (∃ tokens, tokenize source.toList = .ok tokens ∧ (∃ m, Derives .disjunction m (tokens.map (·.value)) s.formula) ∧
        OpenAtMost maxNesting (tokens.map (·.value))) ∧
      s.source = source ∧ FirstOccurrences s.formula.occurrences s.vars) ∧
    ∀ ts, Subsingleton { f : Formula // ∃ m, Derives .disjunction m ts f } := by
  refine ⟨fun s => ?_, fun ts => ⟨?_⟩⟩
  · rw [parse_eq_ok_iff, firstOccurrences_iff, Formula.vars_eq]
    simp only [derives_iff_openAtMost (n := maxNesting)]
  · rintro ⟨f, m, hf⟩ ⟨g, n, hg⟩
    exact Subtype.ext (hf.unique hg)

end Statement
end Propositional
