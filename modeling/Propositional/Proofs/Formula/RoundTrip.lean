import Propositional.Proofs.Formula.Shape
import Propositional.Proofs.Grammar.Acceptance
import Propositional.Proofs.Token.Scans

/-! Printing a formula and reading the text again. The text of every formula whose names are names has the formula's
    tokens, since something else than a letter follows each name. So what is read again is the formula, exactly
    when the grammar derives it. -/

namespace Propositional
open Text

theorem Scans.group {s : List Char} {f : Formula} (h : Scans s f.tokens) :
    Scans ('(' :: (s ++ [')'])) f.group.tokens := by
  have hclose : Scans [')'] [.closeParen] := .symbol (t := .closeParen) rfl .nil
  have hinner := h.append hclose (endsName_symbol (t := .closeParen) rfl [])
  rw [Formula.tokens_group]
  exact .symbol (t := .openParen) rfl hinner

namespace Formula

/-- The formulas that come back when their text is read: the names are names, the operands are of the kinds that their
    places take, and the groups are not nested too deeply. -/
structure WellFormed (f : Formula) : Prop where
  names : ∀ v ∈ f.occurrences, IsName v
  shaped : f.Shaped
  nesting_le : f.nesting ≤ maxNesting

theorem wellFormed_iff {f : Formula} :
    f.WellFormed ↔ (∀ v ∈ f.occurrences, IsName v) ∧ f.Shaped ∧ f.nesting ≤ maxNesting :=
  ⟨fun h => ⟨h.names, h.shaped, h.nesting_le⟩, fun ⟨hn, hs, hle⟩ => ⟨hn, hs, hle⟩⟩

instance (f : Formula) : Decidable f.WellFormed := decidable_of_iff' _ wellFormed_iff

example : (or (or (var "a") (var "b")) (and (not (group (var "c"))) (var "d"))).WellFormed := by decide +kernel

example : ¬(or (var "a") (or (var "b") (var "c"))).WellFormed ∧ ¬(not (not (var "a"))).WellFormed ∧
    ¬(group (var "a && b")).WellFormed := by decide +kernel

/-! ### The text of a formula -/

@[simp] theorem chars_var (v : String) : (var v).chars = v.toList := List.append_nil _

@[simp] theorem chars_not (f : Formula) : (not f).chars = '!' :: f.chars := rfl

@[simp] theorem chars_and (l r : Formula) : (and l r).chars = l.chars ++ (' ' :: '&' :: '&' :: ' ' :: r.chars) :=
  charsOnto_eq l _

@[simp] theorem chars_or (l r : Formula) : (or l r).chars = l.chars ++ (' ' :: '|' :: '|' :: ' ' :: r.chars) :=
  charsOnto_eq l _

@[simp] theorem chars_group (f : Formula) : (group f).chars = '(' :: (f.chars ++ [')']) :=
  congrArg _ (charsOnto_eq f _)

theorem scans_spaced {t : Token} {s : List Char} {ts : List Token} (ht : t.isSymbol = true) (h : Scans s ts) :
    Scans (' ' :: (t.spelling.toList ++ ' ' :: s)) (t :: ts) := by
  have hspace : isBlank ' ' = true := by decide
  exact .blank hspace (.symbol ht (.blank hspace h))

/-- The text of a formula has the formula's tokens. -/
theorem scans_chars {f : Formula} (hf : ∀ v ∈ f.occurrences, IsName v) : Scans f.chars f.tokens := by
  induction f with
  | var v =>
    rw [chars_var, ← List.append_nil v.toList]
    exact .name (hf v (by simp)) nofun .nil
  | not f ih =>
    rw [chars_not]
    exact .symbol (t := .not) rfl (ih hf)
  | and l r ihl ihr =>
    rw [occurrences_and, List.forall_mem_append] at hf
    rw [chars_and, tokens_and]
    exact (ihl hf.1).append (scans_spaced (t := .and) rfl (ihr hf.2)) (endsName_cons (by decide) _)
  | or l r ihl ihr =>
    rw [occurrences_or, List.forall_mem_append] at hf
    rw [chars_or, tokens_or]
    exact (ihl hf.1).append (scans_spaced (t := .or) rfl (ihr hf.2)) (endsName_cons (by decide) _)
  | group f ih =>
    rw [occurrences_group] at hf
    rw [chars_group]
    exact (ih hf).group

end Formula

/-! ### Reading again -/

namespace Statement
open Formula

/-- The text of a statement has the tokens of the statement's formula. -/
theorem scans_of_parse {source : String} {s : Statement} (h : parse source = .ok s) :
    Scans source.toList s.formula.tokens := by
  obtain ⟨⟨tokens, ht, hd⟩, -, -⟩ := parse_eq_ok_iff.mp h
  rw [← hd.eq_tokens]
  exact scans_iff.mpr ⟨tokens, ht, rfl⟩

theorem parse_of_scans {source : String} {f : Formula} (h : Scans source.toList f.tokens) (hshaped : f.Shaped)
    (hnesting : f.nesting ≤ maxNesting) : parse source = .ok { source, vars := f.vars, formula := f } := by
  obtain ⟨tokens, ht, hmap⟩ := scans_iff.mp h
  exact parse_eq_ok_iff.mpr ⟨⟨tokens, ht, derives_disjunction_iff.mpr ⟨hmap, hshaped, hnesting⟩⟩, rfl, rfl⟩

theorem wellFormed_of_parse {source : String} {s : Statement} (h : parse source = .ok s) : s.formula.WellFormed := by
  obtain ⟨⟨tokens, -, hd⟩, -, -⟩ := parse_eq_ok_iff.mp h
  obtain ⟨-, hshaped, hnesting⟩ := derives_disjunction_iff.mp hd
  exact ⟨fun v hv => (scans_of_parse h).isName (Token.mem_filterMap_name?.mp hv), hshaped, hnesting⟩

theorem parse_render_of_wellFormed {f : Formula} (h : f.WellFormed) :
    parse f.render = .ok { source := f.render, vars := f.vars, formula := f } := by
  refine parse_of_scans ?_ h.shaped h.nesting_le
  rw [render, String.toList_ofList]
  exact scans_chars h.names

/-- The text of a formula is read as that formula exactly when the formula is well formed, and every formula that is
    read from a text is: its own text is read as the same formula again. -/
theorem parse_render_iff_wellFormed :
    (∀ f : Formula, (∃ s, parse f.render = .ok s ∧ s.formula = f) ↔ f.WellFormed) ∧
      ∀ source s, parse source = .ok s →
        s.formula.WellFormed ∧ ∃ s', parse s.formula.render = .ok s' ∧ s'.formula = s.formula := by
  refine ⟨fun f => ⟨?_, fun h => ⟨_, parse_render_of_wellFormed h, rfl⟩⟩, fun source s h => ?_⟩
  · rintro ⟨s, hs, rfl⟩
    exact wellFormed_of_parse hs
  · have hwf := wellFormed_of_parse h
    exact ⟨hwf, _, parse_render_of_wellFormed hwf, rfl⟩

end Statement
end Propositional
