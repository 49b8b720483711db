import Propositional.Formula.Grammar

/-! How deeply the parentheses of a formula are nested: counted on the formula, bounded by the grammar, and seen in
    the tokens as the number of parentheses that are open at one place. -/

namespace Propositional
namespace Formula

/-- The largest number of groups on a way from the whole formula to one of its variables. -/
def nesting : Formula → Nat
  | .var _ => 0
  | .not f => f.nesting
  | .and l r => max l.nesting r.nesting
  | .or l r => max l.nesting r.nesting
  | .group f => f.nesting + 1

end Formula

/-! ### Nesting in derivations -/

namespace Derives

theorem nesting_le {p : Phrase} {n : Nat} {ts : List Token} {f : Formula} (h : Derives p n ts f) : f.nesting ≤ n := by
  induction h with
  | var => exact Nat.zero_le _
  | group _ ih => exact Nat.succ_le_succ ih
  | primary _ ih => exact ih
  | not _ ih => exact ih
  | unary _ ih => exact ih
  | and _ _ ihl ihr => exact Nat.max_le.mpr ⟨ihl, ihr⟩
  | conjunction _ ih => exact ih
  | or _ _ ihl ihr => exact Nat.max_le.mpr ⟨ihl, ihr⟩

theorem of_nesting_le {p : Phrase} {m n : Nat} {ts : List Token} {f : Formula} (h : Derives p m ts f)
    (hn : f.nesting ≤ n) : Derives p n ts f := by
  induction h generalizing n with
  | var => exact .var
  | group _ ih =>
    obtain ⟨k, rfl⟩ : ∃ k, n = k + 1 := ⟨n - 1, by simp only [Formula.nesting] at hn; omega⟩
    exact .group (ih (Nat.le_of_succ_le_succ hn))
  | primary _ ih => exact .primary (ih hn)
  | not _ ih => exact .not (ih hn)
  | unary _ ih => exact .unary (ih hn)
  | and _ _ ihl ihr =>
    obtain ⟨hl, hr⟩ := Nat.max_le.mp hn
    exact .and (ihl hl) (ihr hr)
  | conjunction _ ih => exact .conjunction (ih hn)
  | or _ _ ihl ihr =>
    obtain ⟨hl, hr⟩ := Nat.max_le.mp hn
    exact .or (ihl hl) (ihr hr)

end Derives

/-! ### Open parentheses -/

/-- At no place of the tokens are more than `n` parentheses open. -/
def OpenAtMost (n : Nat) (ts : List Token) : Prop :=
  ∀ us, us <+: ts → us.count .openParen ≤ us.count .closeParen + n

/-- As many parentheses are closed as are opened. -/
def Balanced (ts : List Token) : Prop := ts.count .openParen = ts.count .closeParen

section
variable {n : Nat} {t : Token} {ts us : List Token}

theorem openAtMost_cons_iff (ho : t ≠ .openParen) (hc : t ≠ .closeParen) :
    OpenAtMost n (t :: ts) ↔ OpenAtMost n ts := by
  constructor
  · intro h us hu
    have := h (t :: us) (List.cons_prefix_cons.mpr ⟨rfl, hu⟩)
    rwa [List.count_cons_of_ne ho, List.count_cons_of_ne hc] at this
  · intro h us hu
    rcases List.prefix_cons_iff.mp hu with rfl | ⟨vs, rfl, hv⟩
    · exact Nat.zero_le _
    · rw [List.count_cons_of_ne ho, List.count_cons_of_ne hc]
      exact h vs hv

theorem openAtMost_append_iff (hb : Balanced ts) : OpenAtMost n (ts ++ us) ↔ OpenAtMost n ts ∧ OpenAtMost n us := by
  constructor
  · intro h
    refine ⟨fun vs hv => h vs (hv.trans (List.prefix_append ts us)), fun vs hv => ?_⟩
    have := h (ts ++ vs) ((List.prefix_append_right_inj ts).mpr hv)
    -- What the balanced part opens it also closes, so the count begins anew behind it.
    rw [List.count_append, List.count_append, hb] at this
    omega
  · rintro ⟨ht, hu⟩ vs hv
    rcases List.prefix_or_prefix_of_prefix hv (List.prefix_append ts us) with hv' | ⟨ws, rfl⟩
    · exact ht vs hv'
    · have := hu ws ((List.prefix_append_right_inj ts).mp hv)
      rw [List.count_append, List.count_append, hb]
      omega

theorem openAtMost_group_iff (hb : Balanced ts) :
    OpenAtMost n (.openParen :: (ts ++ [.closeParen])) ↔ 0 < n ∧ OpenAtMost (n - 1) ts := by
  have hcount (us : List Token) : (Token.openParen :: us).count .openParen = us.count .openParen + 1 ∧
      (Token.openParen :: us).count .closeParen = us.count .closeParen := by
    simp
  constructor
  · intro h
    have hpos : 1 ≤ n := by simpa using h [.openParen] (by simp)
    refine ⟨hpos, fun us hu => ?_⟩
    have := h (.openParen :: us) (List.cons_prefix_cons.mpr ⟨rfl, hu.trans (List.prefix_append ts _)⟩)
    rw [(hcount us).1, (hcount us).2] at this
    omega
  · rintro ⟨hpos, h⟩ us hu
    rcases List.prefix_cons_iff.mp hu with rfl | ⟨vs, rfl, hv⟩
    · exact Nat.zero_le _
    · rw [(hcount vs).1, (hcount vs).2]
      rcases List.prefix_concat_iff.mp hv with rfl | hv
      · have hbal : ts.count .openParen = ts.count .closeParen := hb
        rw [List.count_append, List.count_append, hbal]
        simp
      · have := h vs hv
        omega

end

namespace Formula

theorem balanced_tokens (f : Formula) : Balanced f.tokens := by
  unfold Balanced
  induction f with
  | var v => simp
  | not f ih => simpa [List.count_cons] using ih
  | and l r ihl ihr => simp [ihl, ihr]
  | or l r ihl ihr => simp [ihl, ihr]
  | group f ih => simp [ih]

theorem openAtMost_tokens_iff {n : Nat} {f : Formula} : OpenAtMost n f.tokens ↔ f.nesting ≤ n := by
  induction f generalizing n with
  | var v =>
    rw [tokens_var, openAtMost_cons_iff (by simp) (by simp)]
    simp [OpenAtMost, nesting]
  | not f ih => rw [tokens_not, openAtMost_cons_iff (by simp) (by simp), ih, nesting]
  | and l r ihl ihr =>
    rw [tokens_and, openAtMost_append_iff l.balanced_tokens, openAtMost_cons_iff (by simp) (by simp), ihl, ihr, nesting,
      Nat.max_le]
  | or l r ihl ihr =>
    rw [tokens_or, openAtMost_append_iff l.balanced_tokens, openAtMost_cons_iff (by simp) (by simp), ihl, ihr, nesting,
      Nat.max_le]
  | group f ih =>
    rw [tokens_group, openAtMost_group_iff f.balanced_tokens, ih, nesting]
    omega

end Formula

/-- The nesting that the grammar allows is a bound on the parentheses open at one place. -/
theorem derives_iff_openAtMost {p : Phrase} {n : Nat} {ts : List Token} {f : Formula} :
    Derives p n ts f ↔ (∃ m, Derives p m ts f) ∧ OpenAtMost n ts := by
  constructor
  · intro h
    refine ⟨⟨n, h⟩, ?_⟩
    rw [h.eq_tokens]
    exact Formula.openAtMost_tokens_iff.mpr h.nesting_le
  · rintro ⟨⟨m, h⟩, ho⟩
    rw [h.eq_tokens] at ho
    exact h.of_nesting_le (Formula.openAtMost_tokens_iff.mp ho)

end Propositional
