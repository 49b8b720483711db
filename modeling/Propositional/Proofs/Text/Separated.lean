/-! Texts with a separator between their parts: a character, or a text of several characters. Splitting such a text gives
    the parts again if the character is in none of them. Of a longer separator it suffices that its second character
    is in none: then no separator begins inside a part, not even where a part ends like a separator begins. -/

namespace Propositional.Text

theorem intercalate_append (separator : List Char) (parts : List (List Char)) {parts' : List (List Char)}
    (h : parts' ≠ []) :
    separator.intercalate (parts ++ parts') = parts.flatMap (· ++ separator) ++ separator.intercalate parts' := by
  induction parts with
  | nil => rfl
  | cons part parts ih =>
    rw [List.cons_append, List.intercalate_cons_of_ne_nil (by simp [h]), ih, List.flatMap_cons]
    simp only [List.append_assoc]

theorem intercalate_concat (separator last : List Char) (parts : List (List Char)) :
    separator.intercalate (parts ++ [last]) = parts.flatMap (· ++ separator) ++ last := by
  rw [intercalate_append separator parts (List.cons_ne_nil last []), List.intercalate_singleton]

theorem prefix_intercalate_cons (separator part : List Char) (parts : List (List Char)) :
    part <+: separator.intercalate (part :: parts) := by
  cases parts with
  | nil => exact List.intercalate_singleton ▸ List.prefix_rfl
  | cons next parts =>
    rw [List.intercalate_cons_cons, List.append_assoc]
    exact List.prefix_append _ _

/-! ### A character between the parts -/

section
variable {sep : Char} {s : List Char}

theorem splitOn_flatMap_append {lines : List (List Char)} (h : ∀ line ∈ lines, sep ∉ line) (s : List Char) :
    (lines.flatMap (· ++ [sep]) ++ s).splitOn sep = lines ++ s.splitOn sep := by
  induction lines with
  | nil => rfl
  | cons line lines ih =>
    obtain ⟨hline, hlines⟩ := List.forall_mem_cons.mp h
    rw [List.flatMap_cons, List.append_assoc, List.append_assoc, List.singleton_append,
      List.splitOn_append_cons_self_of_not_mem hline, ih hlines, List.cons_append]

theorem splitOn_append_of_notMem (hs : sep ∉ s) (t : List Char) :
    (s ++ t).splitOn sep = (t.splitOn sep).modifyHead (s ++ ·) := by
  induction s with
  | nil =>
    rw [List.nil_append]
    cases t.splitOn sep <;> rfl
  | cons c s ih =>
    obtain ⟨hc, hs⟩ : sep ≠ c ∧ sep ∉ s := by simpa using hs
    rw [List.cons_append, List.splitOn_cons_eq_if_modifyHead, if_neg (by simpa using Ne.symm hc), ih hs]
    cases t.splitOn sep <;> rfl

theorem notMem_of_mem_splitOn {line : List Char} (h : line ∈ s.splitOn sep) : sep ∉ line := by
  induction s generalizing line with
  | nil =>
    obtain rfl := List.mem_singleton.mp (List.splitOn_nil sep ▸ h)
    exact List.not_mem_nil
  | cons c s ih =>
    rw [List.splitOn_cons_eq_if_modifyHead] at h
    split at h
    next =>
      rcases List.mem_cons.mp h with rfl | h
      · exact List.not_mem_nil
      · exact ih h
    next hc =>
      obtain ⟨first, lines, hlines⟩ := List.exists_cons_of_ne_nil (List.splitOn_ne_nil sep s)
      rw [hlines] at h ih
      rcases List.mem_cons.mp h with rfl | h
      · have hne : sep ≠ c := fun heq => hc (beq_iff_eq.mpr heq.symm)
        simpa [hne] using ih List.mem_cons_self
      · exact ih (List.mem_cons_of_mem _ h)

end

/-! ### A text between the parts -/

/-- The parts of a text between the separators, found from left to right. The first `n` characters are left out: they
    belong to a separator that is found already. -/
def splitBehind (separator : List Char) : Nat → List Char → List (List Char)
  | _, [] => [[]]
  | n + 1, _ :: s => splitBehind separator n s
  | 0, c :: s =>
    if separator.isPrefixOf (c :: s) then [] :: splitBehind separator (separator.length - 1) s
    else (splitBehind separator 0 s).modifyHead (c :: ·)

/-- The parts of a text between the separators. -/
def splitOnText (separator s : List Char) : List (List Char) := splitBehind separator 0 s

theorem splitBehind_append (separator s t : List Char) :
    splitBehind separator s.length (s ++ t) = splitOnText separator t := by
  induction s with
  | nil => rfl
  | cons c s ih => rw [List.length_cons, List.cons_append, splitBehind, ih]

variable {a b : Char} {rest : List Char}

theorem splitOnText_separator (s : List Char) :
    splitOnText (a :: b :: rest) (a :: b :: rest ++ s) = [] :: splitOnText (a :: b :: rest) s := by
  have hprefix : (a :: b :: rest).isPrefixOf (a :: (b :: rest ++ s)) = true := by
    rw [List.isPrefixOf_iff_prefix]
    exact ⟨s, rfl⟩
  rw [splitOnText, List.cons_append, splitBehind, if_pos hprefix]
  exact congrArg _ (splitBehind_append _ (b :: rest) s)

/-- A part goes on up to the separator or the end of the text. -/
theorem splitOnText_append {part t : List Char} (hpart : b ∉ part) (ht : b ∉ t.head?) :
    splitOnText (a :: b :: rest) (part ++ t) = (splitOnText (a :: b :: rest) t).modifyHead (part ++ ·) := by
  induction part with
  | nil =>
    rw [List.nil_append]
    cases splitOnText (a :: b :: rest) t <;> rfl
  | cons c part ih =>
    have hpart' : b ∉ part := fun h => hpart (List.mem_cons_of_mem c h)
    have hnot : ¬(a :: b :: rest).isPrefixOf (c :: (part ++ t)) = true := by
      intro hprefix
      obtain ⟨-, u, hu⟩ := List.cons_prefix_cons.mp (List.isPrefixOf_iff_prefix.mp hprefix)
      have hhead : (part ++ t).head? = some b := by
        rw [← hu]
        rfl
      cases part with
      | nil => exact ht hhead
      | cons d part =>
        cases hhead
        exact hpart' List.mem_cons_self
    rw [splitOnText, List.cons_append, splitBehind, if_neg hnot, ← splitOnText, ih hpart']
    cases splitOnText (a :: b :: rest) t <;> rfl

theorem splitOnText_intercalate (hab : a ≠ b) {parts : List (List Char)} (hne : parts ≠ [])
    (h : ∀ part ∈ parts, b ∉ part) :
    splitOnText (a :: b :: rest) ((a :: b :: rest).intercalate parts) = parts := by
  induction parts with
  | nil => exact absurd rfl hne
  | cons part parts ih =>
    obtain ⟨hpart, hparts⟩ := List.forall_mem_cons.mp h
    cases parts with
    | nil =>
      rw [List.intercalate_singleton, ← List.append_nil part, splitOnText_append hpart (by simp)]
      rfl
    | cons next parts =>
      rw [List.intercalate_cons_cons, List.append_assoc, splitOnText_append hpart (by simp [hab]), splitOnText_separator,
        ih (List.cons_ne_nil _ _) hparts]
      simp

/-- Of two separators that overlap, the first counts. -/
example : splitOnText " | ".toList "a | | b".toList = ["a".toList, "| b".toList] := by decide

end Propositional.Text
