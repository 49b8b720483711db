import Propositional.Formula

/-! The grammar of formulas, as a relation between token lists and the formulas they stand for:

    disjunction := conjunction | disjunction || conjunction
    conjunction := unary | conjunction && unary
    unary       := primary | ! primary
    primary     := name | ( disjunction )

    The formula of a derivation determines its tokens. -/

namespace Propositional

/-- The kinds of phrases, of which each includes the one before. -/
inductive Phrase where
  | primary
  | unary
  | conjunction
  | disjunction
deriving DecidableEq, Repr

/-- The tokens are a phrase of the kind, with at most `depth` parentheses open at once, that stands for the
    formula. -/
inductive Derives : Phrase → (depth : Nat) → List Token → Formula → Prop where
  | var {n : Nat} {v : String} : Derives .primary n [.name v] (.var v)
  | group {n : Nat} {ts : List Token} {f : Formula} :
    Derives .disjunction n ts f → Derives .primary (n + 1) (.openParen :: (ts ++ [.closeParen])) (.group f)
  | primary {n : Nat} {ts : List Token} {f : Formula} : Derives .primary n ts f → Derives .unary n ts f
  | not {n : Nat} {ts : List Token} {f : Formula} :
    Derives .primary n ts f → Derives .unary n (.not :: ts) (.not f)
  | unary {n : Nat} {ts : List Token} {f : Formula} : Derives .unary n ts f → Derives .conjunction n ts f
  | and {n : Nat} {ts us : List Token} {l r : Formula} :
    Derives .conjunction n ts l → Derives .unary n us r →
      Derives .conjunction n (ts ++ .and :: us) (.and l r)
  | conjunction {n : Nat} {ts : List Token} {f : Formula} :
    Derives .conjunction n ts f → Derives .disjunction n ts f
  | or {n : Nat} {ts us : List Token} {l r : Formula} :
    Derives .disjunction n ts l → Derives .conjunction n us r →
      Derives .disjunction n (ts ++ .or :: us) (.or l r)

namespace Derives

theorem eq_tokens {p : Phrase} {n : Nat} {ts : List Token} {f : Formula} (h : Derives p n ts f) :
    ts = f.tokens := by
  induction h with
  | var => rfl
  | group _ ih => simp [ih]
  | primary _ ih => exact ih
  | not _ ih => simp [ih]
  | unary _ ih => exact ih
  | and _ _ ihl ihr => simp [ihl, ihr]
  | conjunction _ ih => exact ih
  | or _ _ ihl ihr => simp [ihl, ihr]

end Derives

end Propositional
