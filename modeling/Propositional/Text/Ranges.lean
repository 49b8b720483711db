/-! Sets of characters given by ranges of code points. A search goes through the ranges in their order and stops at the
    first one that begins above the character. -/

namespace Propositional.Text

/-- The closed range from the first code point to the second. -/
abbrev Range := Nat × Nat

/-- The code point `n` lies in a range, and no range in front of that one begins above it. -/
def inRanges (n : Nat) : List Range → Bool
  | [] => false
  | (lo, hi) :: rest => if n < lo then false else n ≤ hi || inRanges n rest

theorem exists_range_of_inRanges {n : Nat} :
    ∀ {rs : List Range}, inRanges n rs = true → ∃ r ∈ rs, r.1 ≤ n ∧ n ≤ r.2
  | [], h => by simp [inRanges] at h
  | (lo, hi) :: rest, h => by
    rw [inRanges] at h
    split at h
    · simp at h
    · simp only [Bool.or_eq_true, decide_eq_true_eq] at h
      rcases h with h | h
      · exact ⟨(lo, hi), by simp, by simp; omega, h⟩
      · obtain ⟨r, hr, hn⟩ := exists_range_of_inRanges h
        exact ⟨r, by simp [hr], hn⟩

/-- A code point of one table is in no other table that has none of its code points. -/
theorem inRanges_eq_false {n : Nat} {rs rs' : List Range} (h : inRanges n rs = true)
    (hrs : ∀ r ∈ rs, ∀ k < r.2 + 1 - r.1, inRanges (r.1 + k) rs' = false) : inRanges n rs' = false := by
  obtain ⟨r, hr, h1, h2⟩ := exists_range_of_inRanges h
  have := hrs r hr (n - r.1) (by omega)
  rwa [show r.1 + (n - r.1) = n by omega] at this

end Propositional.Text
