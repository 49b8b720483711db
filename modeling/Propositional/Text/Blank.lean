import Propositional.Text.Alphabetic

/-! White space, and text without the white space around it. -/

namespace Propositional.Text

/-- The ranges of the property White_Space. -/
def blankRanges : List Range :=
  [(0x9, 0xd), (0x20, 0x20), (0x85, 0x85), (0xa0, 0xa0), (0x1680, 0x1680), (0x2000, 0x200a), (0x2028, 0x2029),
   (0x202f, 0x202f), (0x205f, 0x205f), (0x3000, 0x3000)]

def isBlank (c : Char) : Bool := inRanges c.toNat blankRanges

/-- The text without the white space at its end. -/
def trimEnd (s : List Char) : List Char := (s.reverse.dropWhile isBlank).reverse

/-- The text without the white space at both ends. -/
def trim (s : List Char) : List Char := trimEnd (s.dropWhile isBlank)

/-! ### What is trimmed -/

theorem exists_trimEnd_append (s : List Char) : ∃ t, (∀ c ∈ t, isBlank c = true) ∧ s = trimEnd s ++ t := by
  refine ⟨(s.reverse.takeWhile isBlank).reverse, fun c hc => ?_, ?_⟩
  · exact List.all_eq_true.mp List.all_takeWhile c (List.mem_reverse.mp hc)
  · rw [trimEnd, ← List.reverse_append, List.takeWhile_append_dropWhile, List.reverse_reverse]

/-- Trimming takes away only white space, and only at the two ends. -/
theorem exists_append_trim_append (s : List Char) :
    ∃ t u, (∀ c ∈ t, isBlank c = true) ∧ (∀ c ∈ u, isBlank c = true) ∧ s = t ++ trim s ++ u := by
  obtain ⟨u, hu, hs⟩ := exists_trimEnd_append (s.dropWhile isBlank)
  refine ⟨s.takeWhile isBlank, u, fun c hc => List.all_eq_true.mp List.all_takeWhile c hc, hu, ?_⟩
  rw [List.append_assoc, trim, ← hs, List.takeWhile_append_dropWhile]

/-! ### Disjointness -/

/-- No white space is Alphabetic. -/
theorem isAlphabetic_eq_false_of_isBlank {c : Char} (h : isBlank c = true) : isAlphabetic c = false :=
  inRanges_eq_false h (by decide +kernel)

end Propositional.Text
