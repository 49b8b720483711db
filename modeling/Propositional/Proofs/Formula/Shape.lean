import Propositional.Proofs.Grammar.Nesting

/-! The shape of the formulas that the grammar derives. A formula is a phrase of a kind by its outermost part; an
    operand must be of the kind that its place takes, since nothing but a group puts parentheses around it. -/

namespace Propositional

/-! ### Kinds of phrases -/

namespace Phrase

/-- The place of the kind in the order in which the kinds include each other. -/
def rank : Phrase → Nat
  | .primary => 0
  | .unary => 1
  | .conjunction => 2
  | .disjunction => 3

instance : LE Phrase := ⟨fun p q => p.rank ≤ q.rank⟩

instance (p q : Phrase) : Decidable (p ≤ q) := inferInstanceAs (Decidable (p.rank ≤ q.rank))

theorem le_refl (p : Phrase) : p ≤ p := Nat.le_refl p.rank

theorem le_trans {p q r : Phrase} (h : p ≤ q) (h' : q ≤ r) : p ≤ r := Nat.le_trans (m := q.rank) h h'

theorem le_disjunction (p : Phrase) : p ≤ .disjunction := by
  cases p <;> decide

end Phrase

theorem Derives.widen {p q : Phrase} {n : Nat} {ts : List Token} {f : Formula} (h : Derives p n ts f) (hpq : p ≤ q) :
    Derives q n ts f := by
  cases p with
  | primary =>
    cases q with
    | primary => exact h
    | unary => exact .primary h
    | conjunction => exact .unary (.primary h)
    | disjunction => exact .conjunction (.unary (.primary h))
  | unary =>
    cases q with
    | primary => exact absurd hpq (by decide)
    | unary => exact h
    | conjunction => exact .unary h
    | disjunction => exact .conjunction (.unary h)
  | conjunction =>
    cases q with
    | primary => exact absurd hpq (by decide)
    | unary => exact absurd hpq (by decide)
    | conjunction => exact h
    | disjunction => exact .conjunction h
  | disjunction =>
    cases q with
    | disjunction => exact h
    | _ => exact absurd hpq (by decide)

namespace Formula

/-- The kind of phrase that the formula is by its outermost part. -/
def phrase : Formula → Phrase
  | .var _ => .primary
  | .group _ => .primary
  | .not _ => .unary
  | .and _ _ => .conjunction
  | .or _ _ => .disjunction

/-- Each operand is a phrase that its place takes: a negation stands before a variable or a group, a conjunction has
    no disjunction to its left and neither a conjunction nor a disjunction to its right, a disjunction has no
    disjunction to its right. -/
def Shaped : Formula → Prop
  | .var _ => True
  | .not f => f.phrase ≤ .primary ∧ f.Shaped
  | .and l r => l.phrase ≤ .conjunction ∧ r.phrase ≤ .unary ∧ l.Shaped ∧ r.Shaped
  | .or l r => r.phrase ≤ .conjunction ∧ l.Shaped ∧ r.Shaped
  | .group f => f.Shaped

def decideShaped : (f : Formula) → Decidable f.Shaped
  | .var _ => inferInstanceAs (Decidable True)
  | .not f =>
    have := f.decideShaped
    inferInstanceAs (Decidable (f.phrase ≤ .primary ∧ f.Shaped))
  | .and l r =>
    have := l.decideShaped
    have := r.decideShaped
    inferInstanceAs (Decidable (l.phrase ≤ .conjunction ∧ r.phrase ≤ .unary ∧ l.Shaped ∧ r.Shaped))
  | .or l r =>
    have := l.decideShaped
    have := r.decideShaped
    inferInstanceAs (Decidable (r.phrase ≤ .conjunction ∧ l.Shaped ∧ r.Shaped))
  | .group f => f.decideShaped

instance : DecidablePred Shaped := decideShaped

end Formula

/-! ### Shape and derivations -/

theorem Derives.shaped {p : Phrase} {n : Nat} {ts : List Token} {f : Formula} (h : Derives p n ts f) :
    f.phrase ≤ p ∧ f.Shaped := by
  induction h with
  | var => exact ⟨Phrase.le_refl _, trivial⟩
  | group _ ih => exact ⟨Phrase.le_refl _, ih.2⟩
  | primary _ ih => exact ⟨Phrase.le_trans ih.1 (by decide), ih.2⟩
  | not _ ih => exact ⟨Phrase.le_refl _, ih⟩
  | unary _ ih => exact ⟨Phrase.le_trans ih.1 (by decide), ih.2⟩
  | and _ _ ihl ihr => exact ⟨Phrase.le_refl _, ihl.1, ihr.1, ihl.2, ihr.2⟩
  | conjunction _ ih => exact ⟨Phrase.le_trans ih.1 (by decide), ih.2⟩
  | or _ _ ihl ihr => exact ⟨Phrase.le_refl _, ihr.1, ihl.2, ihr.2⟩

namespace Formula

theorem derives_of_shaped {f : Formula} (h : f.Shaped) : Derives f.phrase f.nesting f.tokens f := by
  induction f with
  | var v => exact .var
  | not f ih => exact .not ((ih h.2).widen h.1)
  | and l r ihl ihr =>
    obtain ⟨hl, hr, hsl, hsr⟩ := h
    rw [tokens_and]
    exact .and (((ihl hsl).widen hl).of_nesting_le (Nat.le_max_left _ _))
      (((ihr hsr).widen hr).of_nesting_le (Nat.le_max_right _ _))
  | or l r ihl ihr =>
    obtain ⟨hr, hsl, hsr⟩ := h
    rw [tokens_or]
    exact .or (((ihl hsl).widen l.phrase.le_disjunction).of_nesting_le (Nat.le_max_left _ _))
      (((ihr hsr).widen hr).of_nesting_le (Nat.le_max_right _ _))
  | group f ih =>
    rw [tokens_group]
    exact .group ((ih h).widen f.phrase.le_disjunction)

end Formula

/-- What the grammar derives: the formulas of the right shape, from their own tokens, within the nesting. -/
theorem derives_disjunction_iff {n : Nat} {ts : List Token} {f : Formula} :
    Derives .disjunction n ts f ↔ ts = f.tokens ∧ f.Shaped ∧ f.nesting ≤ n := by
  constructor
  · intro h
    exact ⟨h.eq_tokens, h.shaped.2, h.nesting_le⟩
  · rintro ⟨rfl, hs, hn⟩
    exact ((Formula.derives_of_shaped hs).widen f.phrase.le_disjunction).of_nesting_le hn

end Propositional
