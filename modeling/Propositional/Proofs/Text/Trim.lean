import Mathlib.Data.List.Basic
import Propositional.Text.Blank

/-! What trimming leaves. White space added at the ends of a text makes no difference, and a text without white space
    at its ends stays as it is. -/

namespace Propositional.Text
variable {s front back : List Char}

/-- The text neither begins nor ends with white space. -/
def IsTrimmed (s : List Char) : Prop := (∀ c ∈ s.head?, isBlank c = false) ∧ ∀ c ∈ s.getLast?, isBlank c = false

instance (s : List Char) : Decidable (IsTrimmed s) :=
  decidable_of_iff ((s.head?.all fun c => !isBlank c) = true ∧ (s.getLast?.all fun c => !isBlank c) = true)
    (by simp [IsTrimmed, Option.all_eq_true])

theorem dropWhile_isBlank_append (hfront : ∀ c ∈ front, isBlank c = true) (s : List Char) :
    (front ++ s).dropWhile isBlank = s.dropWhile isBlank :=
  List.dropWhile_append_of_pos hfront

theorem dropWhile_isBlank_eq_self (h : ∀ c ∈ s.head?, isBlank c = false) : s.dropWhile isBlank = s := by
  cases s with
  | nil => rfl
  | cons c s => exact List.dropWhile_cons_of_neg (Bool.eq_false_iff.mp (h c rfl))

theorem dropWhile_isBlank_eq_nil (h : ∀ c ∈ s, isBlank c = true) : s.dropWhile isBlank = [] := by
  have hdrop := dropWhile_isBlank_append h []
  rwa [List.append_nil, List.dropWhile_nil] at hdrop

theorem trimEnd_append (hback : ∀ c ∈ back, isBlank c = true) (s : List Char) : trimEnd (s ++ back) = trimEnd s := by
  rw [trimEnd, List.reverse_append, dropWhile_isBlank_append fun c hc => hback c (List.mem_reverse.mp hc), trimEnd]

theorem trimEnd_ne_nil (h : ∃ c ∈ s, isBlank c = false) : trimEnd s ≠ [] := by
  obtain ⟨c, hc, hblank⟩ := h
  obtain ⟨t, ht, hs⟩ := exists_trimEnd_append s
  intro hnil
  rw [hnil, List.nil_append] at hs
  rw [ht c (hs ▸ hc)] at hblank
  cases hblank

/-- Nothing is trimmed in front of a text with a character that is not blank. -/
theorem trimEnd_append_of_exists (h : ∃ c ∈ s, isBlank c = false) (front : List Char) :
    trimEnd (front ++ s) = front ++ trimEnd s := by
  have hstop : (s.reverse.dropWhile isBlank).isEmpty ≠ true :=
    fun hnil => trimEnd_ne_nil h (List.reverse_eq_nil_iff.mpr (List.isEmpty_iff.mp hnil))
  rw [trimEnd, List.reverse_append, List.dropWhile_append, if_neg hstop, List.reverse_append, List.reverse_reverse,
    trimEnd]

theorem trim_surrounded (hfront : ∀ c ∈ front, isBlank c = true) (hback : ∀ c ∈ back, isBlank c = true) (s : List Char) :
    trim (front ++ s ++ back) = trim s := by
  rw [trim, trim, List.append_assoc, dropWhile_isBlank_append hfront, List.dropWhile_append]
  split
  next hblank => rw [dropWhile_isBlank_eq_nil hback, List.isEmpty_iff.mp hblank]
  next => exact trimEnd_append hback _

theorem isTrimmed_of_forall (h : ∀ c ∈ s, isBlank c = false) : IsTrimmed s :=
  ⟨fun c hc => h c (List.mem_of_mem_head? hc), fun c hc => h c (List.mem_of_getLast? hc)⟩

/-- Only what stands at the ends matters. -/
theorem isTrimmed_surrounded (hfront : front ≠ []) (hback : back ≠ []) (hf : ∀ c ∈ front, isBlank c = false)
    (hb : ∀ c ∈ back, isBlank c = false) (s : List Char) : IsTrimmed (front ++ s ++ back) := by
  constructor
  · rw [List.append_assoc, List.head?_append_of_ne_nil _ hfront]
    exact (isTrimmed_of_forall hf).1
  · rw [List.getLast?_append_of_ne_nil _ hback]
    exact (isTrimmed_of_forall hb).2

theorem IsTrimmed.trimEnd_eq (h : IsTrimmed s) : trimEnd s = s := by
  have hlast : ∀ c ∈ s.reverse.head?, isBlank c = false := by
    rw [List.head?_reverse]
    exact h.2
  rw [trimEnd, dropWhile_isBlank_eq_self hlast, List.reverse_reverse]

theorem IsTrimmed.trim_eq (h : IsTrimmed s) : trim s = s := by
  rw [trim, dropWhile_isBlank_eq_self h.1, h.trimEnd_eq]

theorem IsTrimmed.trim_surrounded (h : IsTrimmed s) (hfront : ∀ c ∈ front, isBlank c = true)
    (hback : ∀ c ∈ back, isBlank c = true) : trim (front ++ s ++ back) = s := by
  rw [Text.trim_surrounded hfront hback, h.trim_eq]

theorem IsTrimmed.trim_append (h : IsTrimmed s) (hback : ∀ c ∈ back, isBlank c = true) : trim (s ++ back) = s :=
  h.trim_surrounded (List.forall_mem_nil _) hback

theorem IsTrimmed.append_trim (h : IsTrimmed s) (hfront : ∀ c ∈ front, isBlank c = true) : trim (front ++ s) = s := by
  have htrim := h.trim_surrounded hfront (List.forall_mem_nil _)
  rwa [List.append_nil] at htrim

end Propositional.Text
