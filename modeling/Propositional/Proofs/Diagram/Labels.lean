import Propositional.Diagram.Reader

/-! Numbers and labels in the DOT language can be read again. What is written between the quotes of a label has no
    quote of its own without a backslash in front of it and no line feed, whatever the label is. -/

namespace Propositional.Diagram

/-! ### Digits -/

theorem digitValue_digitChar {n : Nat} (h : n < 16) : digitValue n.digitChar = n := by
  have hall : ∀ n : Fin 16, digitValue (Nat.digitChar n) = n := by decide
  exact hall ⟨n, h⟩

theorem isAlphanum_digitChar {n : Nat} (h : n < 16) : n.digitChar.isAlphanum = true := by
  have hall : ∀ n : Fin 16, (Nat.digitChar n).isAlphanum = true := by decide
  exact hall ⟨n, h⟩

section
variable {base : Nat} (hbase : 1 < base)
include hbase

/-- The digits of a number are one digit, or the digits of another number and one more. -/
theorem toDigits_induction {motive : Nat → List Char → Prop} (one : ∀ n < base, motive n [n.digitChar])
    (more : ∀ n digits, ∀ digit < base, motive n digits → motive (base * n + digit) (digits ++ [digit.digitChar]))
    (n : Nat) : motive n (Nat.toDigits base n) := by
  induction n using Nat.strongRecOn with
  | ind n ih =>
    rw [Nat.toDigits_eq_if hbase]
    split
    next hn => exact one n hn
    next hn =>
      have hmore := more _ _ (n % base) (Nat.mod_lt n (by omega)) (ih _ (Nat.div_lt_self (by omega) hbase))
      rwa [Nat.div_add_mod] at hmore

variable (hsixteen : base ≤ 16)
include hsixteen

theorem ofDigits_toDigits (n : Nat) : ofDigits base (Nat.toDigits base n) = n := by
  induction n using toDigits_induction hbase with
  | one n hn => simpa [ofDigits] using digitValue_digitChar (Nat.lt_of_lt_of_le hn hsixteen)
  | more n digits digit hdigit ih =>
    rw [ofDigits, List.foldl_append, ← ofDigits, ih]
    exact congrArg _ (digitValue_digitChar (Nat.lt_of_lt_of_le hdigit hsixteen))

theorem isAlphanum_of_mem_toDigits (n : Nat) : ∀ c ∈ Nat.toDigits base n, c.isAlphanum = true := by
  induction n using toDigits_induction hbase with
  | one n hn => simpa using isAlphanum_digitChar (Nat.lt_of_lt_of_le hn hsixteen)
  | more n digits digit hdigit ih =>
    intro c hc
    rcases List.mem_append.mp hc with hc | hc
    · exact ih c hc
    · obtain rfl := List.mem_singleton.mp hc
      exact isAlphanum_digitChar (Nat.lt_of_lt_of_le hdigit hsixteen)

theorem notMem_toDigits {n : Nat} {c : Char} (hc : c.isAlphanum = false) : c ∉ Nat.toDigits base n := by
  intro h
  rw [isAlphanum_of_mem_toDigits hbase hsixteen n c h] at hc
  cases hc

end

theorem readNumber_toDigits (n : Nat) {s : List Char} (hs : ∀ c ∈ s.head?, c.isDigit = false) :
    readNumber (Nat.toDigits 10 n ++ s) = (n, s) := by
  have hdigits : ∀ c ∈ Nat.toDigits 10 n, c.isDigit = true := fun c hc =>
    Nat.isDigit_of_mem_toDigits (by decide) (by decide) hc
  have hstop : s.takeWhile Char.isDigit = [] ∧ s.dropWhile Char.isDigit = s := by
    cases s with
    | nil => exact ⟨rfl, rfl⟩
    | cons c s => simp [hs c rfl]
  rw [readNumber, List.takeWhile_append_of_pos hdigits, List.dropWhile_append_of_pos hdigits, hstop.1, hstop.2,
    List.append_nil, ofDigits_toDigits (by decide) (by decide)]

/-! ### Labels -/

/-- What is written for a character is read as this character. -/
theorem readChar?_labelChar (c : Char) (s : List Char) : readChar? (labelChar c ++ s) = some (c, s) := by
  fun_cases labelChar c
  case case1 | case2 | case3 | case4 | case5 | case6 => rfl
  case case7 hquote hbackslash _ =>
    rw [List.singleton_append, readChar?]
    · exact hquote
    all_goals
      intros
      exact hbackslash (by assumption)
  case case8 =>
    have hdigits : ∀ d ∈ Nat.toDigits 16 c.toNat, decide (d ≠ '\x7d') = true := by
      rintro d hd
      refine decide_eq_true ?_
      rintro rfl
      exact notMem_toDigits (by decide) (by decide) rfl hd
    simp only [List.cons_append, List.append_assoc, readChar?, List.takeWhile_append_of_pos hdigits,
      List.dropWhile_append_of_pos hdigits]
    simp [ofDigits_toDigits]

theorem readLabel_cons {s r : List Char} {c : Char} (h : readChar? s = some (c, r)) :
    readLabel s = (c :: (readLabel r).1, (readLabel r).2) := by
  rw [readLabel]
  split <;> simp_all

/-- A label that is written goes up to the quote behind it, and no further. -/
theorem readLabel_written (label s : List Char) :
    readLabel (label.flatMap labelChar ++ '"' :: s) = (label, '"' :: s) := by
  induction label with
  | nil =>
    rw [readLabel]
    rfl
  | cons c label ih =>
    rw [List.flatMap_cons, List.append_assoc, readLabel_cons (readChar?_labelChar c _), ih]

theorem lineFeed_notMem_labelChar (c : Char) : '\n' ∉ labelChar c := by
  fun_cases labelChar c
  case case1 | case2 | case3 | case4 | case5 | case6 => decide
  case case7 hline _ _ _ _ => simpa using Ne.symm hline
  case case8 =>
    simpa using notMem_toDigits (by decide) (by decide) rfl

end Propositional.Diagram
