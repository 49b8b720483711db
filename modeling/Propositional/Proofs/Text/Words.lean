import Mathlib.Data.List.Basic
import Mathlib.Order.Basic
import Propositional.Text.Search

/-! The words of a text at their places, and the search for words of letters. No two words overlap, so the words stand
    in the text one behind the other; the search finds those of them that have letters only, and nothing else. -/

namespace Propositional
open Text

/-! ### Runs -/

section
variable {p : Char → Bool} {c : Char} {run s : List Char}

@[simp] theorem runs_nil (p : Char → Bool) : runs p [] = [] := by
  simp [runs]

theorem runs_cons_of_neg (h : p c = false) : runs p (c :: s) = runs p s := by
  have hbreak : (!p c) = true := by rw [h, Bool.not_false]
  have hsplit := List.splitOnP_append_cons (p := fun c => !p c) [] s hbreak
  rw [List.nil_append] at hsplit
  simp [runs, hsplit]

theorem runs_append_of_neg (h : ∀ c ∈ run, p c = false) : runs p (run ++ s) = runs p s := by
  induction run with
  | nil => rfl
  | cons c run ih =>
    rw [List.cons_append, runs_cons_of_neg (h c (by simp)), ih fun d hd => h d (List.mem_cons_of_mem _ hd)]

/-- A run in front of a text is the first one, if the text does not go on with it. -/
theorem runs_append (hne : run ≠ []) (hrun : ∀ c ∈ run, p c = true) (hs : ∀ c ∈ s.head?, p c = false) :
    runs p (run ++ s) = run :: runs p s := by
  have hsplit : ∀ c ∈ run, (!p c) = false := fun c hc => by simp [hrun c hc]
  cases s with
  | nil => simp [runs, List.splitOnP_eq_singleton hsplit, hne]
  | cons c s =>
    have hc : p c = false := hs c rfl
    rw [runs_cons_of_neg hc, runs, List.splitOnP_append_cons_of_forall_mem hsplit c (by simp [hc])]
    simp [runs, hne]

end

/-- A text is empty, or it begins with a character that is in no word, or with a whole word. -/
@[elab_as_elim]
theorem words_induction {motive : List Char → Prop} (nil : motive [])
    (other : ∀ c s, isWordChar c = false → motive s → motive (c :: s))
    (word : ∀ run s, run ≠ [] → (∀ c ∈ run, isWordChar c = true) → (∀ c ∈ s.head?, isWordChar c = false) →
      motive s → motive (run ++ s))
    (s : List Char) : motive s := by
  generalize hn : s.length = n
  induction n using Nat.strongRecOn generalizing s with
  | ind n ih =>
    cases s with
    | nil => exact nil
    | cons c s =>
      by_cases hc : isWordChar c = true
      · have hsplit : (c :: s).takeWhile isWordChar ++ (c :: s).dropWhile isWordChar = c :: s :=
          List.takeWhile_append_dropWhile
        have hne : (c :: s).takeWhile isWordChar ≠ [] := by
          rw [List.takeWhile_cons_of_pos hc]
          exact List.cons_ne_nil _ _
        have hlength : ((c :: s).dropWhile isWordChar).length < n := by
          rw [← hn, ← congrArg List.length hsplit, List.length_append]
          exact Nat.lt_add_of_pos_left (List.length_pos_iff.mpr hne)
        rw [← hsplit]
        refine word _ _ hne (fun d hd => List.all_eq_true.mp List.all_takeWhile d hd) (fun d hd => ?_)
          (ih _ hlength _ rfl)
        have hnot := List.head?_dropWhile_not isWordChar (c :: s)
        rw [Option.mem_def.mp hd] at hnot
        exact hnot
      · exact other c s (Bool.eq_false_iff.mpr hc) (ih _ (hn ▸ Nat.lt_succ_self _) s rfl)

/-! ### Words at their places -/

/-- A part of a text, with what stands in front of it and behind it. -/
structure Span where
  front : List Char
  part : List Char
  back : List Char

/-- The span is a word of the text: a run of word characters that no other word character continues. -/
structure IsWord (s : List Char) (w : Span) : Prop where
  text : s = w.front ++ w.part ++ w.back
  ne_nil : w.part ≠ []
  forall_isWordChar : ∀ c ∈ w.part, isWordChar c = true
  front_ends : ∀ c ∈ w.front.getLast?, isWordChar c = false
  back_begins : ∀ c ∈ w.back.head?, isWordChar c = false

namespace IsWord
variable {s : List Char} {w w' : Span}

/-- A word goes on as far as there are word characters. -/
theorem part_eq (hw : IsWord s w) : w.part = (w.part ++ w.back).takeWhile isWordChar := by
  have hback := hw.back_begins
  rw [List.takeWhile_append_of_pos hw.forall_isWordChar]
  cases h : w.back with
  | nil => simp
  | cons c back =>
    rw [h] at hback
    rw [List.takeWhile_cons_of_neg (Bool.eq_false_iff.mp (hback c rfl)), List.append_nil]

/-- Of two words one stands behind the other. -/
theorem eq_or_le (hw : IsWord s w) (hw' : IsWord s w') (h : w.front.length ≤ w'.front.length) :
    w = w' ∨ w.front.length + w.part.length ≤ w'.front.length := by
  have htext := hw.text.symm.trans hw'.text
  rw [List.append_assoc, List.append_assoc] at htext
  obtain ⟨between, hfront⟩ : w.front <+: w'.front :=
    List.prefix_of_prefix_length_le ⟨_, htext⟩ ⟨_, rfl⟩ h
  rw [← hfront, List.append_assoc, List.append_cancel_left_eq] at htext
  rcases List.append_eq_append_iff.mp htext with ⟨rest, hbetween, -⟩ | ⟨rest, hpart, -⟩
  · right
    rw [← hfront, hbetween, List.length_append, List.length_append]
    omega
  · left
    -- What stands between the two beginnings is in the first word, and ends in front of the second one.
    have hnil : between = [] := by
      by_contra hne
      have hlast := List.getLast?_eq_some_getLast hne
      have hin : isWordChar (between.getLast hne) = true :=
        hw.forall_isWordChar _ (hpart ▸ List.mem_append_left rest (List.getLast_mem hne))
      have hout : isWordChar (between.getLast hne) = false := by
        refine hw'.front_ends _ ?_
        rw [← hfront, List.getLast?_append_of_ne_nil _ hne]
        exact hlast
      rw [hin] at hout
      cases hout
    subst hnil
    rw [List.nil_append] at htext
    have hparts : w.part = w'.part := by rw [hw.part_eq, htext, ← hw'.part_eq]
    rw [hparts, List.append_cancel_left_eq] at htext
    rw [List.append_nil] at hfront
    cases w
    cases w'
    cases hfront
    cases hparts
    cases htext
    rfl

end IsWord

/-- The words that begin in `s`, from left to right, where `front` stands in front of `s` and no word goes over from
    the one to the other. -/
theorem exists_words_behind (s front : List Char)
    (h : (∀ c ∈ front.getLast?, isWordChar c = false) ∨ ∀ c ∈ s.head?, isWordChar c = false) :
    ∃ spans : List Span, spans.map (·.part) = words s ∧
      spans.Pairwise (fun w w' => w.front.length < w'.front.length) ∧
      ∀ w, w ∈ spans ↔ IsWord (front ++ s) w ∧ front.length ≤ w.front.length := by
  induction s using words_induction generalizing front with
  | nil =>
    refine ⟨[], (runs_nil _).symm, .nil, fun w => ⟨nofun, fun ⟨hw, hle⟩ => ?_⟩⟩
    have hlength := congrArg List.length hw.text
    have hpos := List.length_pos_iff.mpr hw.ne_nil
    simp only [List.length_append, List.length_nil] at hlength
    omega
  | other c s hc ih =>
    obtain ⟨spans, hparts, hsorted, hspans⟩ := ih (front ++ [c]) (.inl (by simpa using hc))
    refine ⟨spans, ?_, hsorted, fun w => ?_⟩
    · rw [hparts, words, words, runs_cons_of_neg hc]
    · rw [hspans, List.append_assoc, List.singleton_append, List.length_append, List.length_singleton]
      refine and_congr_right fun hw => ⟨fun hle => Nat.le_of_succ_le hle, fun hle => ?_⟩
      -- No word begins with the character in front.
      refine Nat.lt_of_le_of_ne hle fun hlength => ?_
      have htext := hw.text
      rw [List.append_assoc] at htext
      obtain ⟨-, htext⟩ := List.append_inj htext hlength
      obtain ⟨d, part, hpart⟩ := List.exists_cons_of_ne_nil hw.ne_nil
      rw [hpart, List.cons_append] at htext
      have hd := hw.forall_isWordChar d (hpart ▸ List.mem_cons_self)
      rw [← (List.cons.inj htext).1, hc] at hd
      cases hd
  | word run s hne hrun hs ih =>
    obtain ⟨spans, hparts, hsorted, hspans⟩ := ih (front ++ run) (.inr hs)
    have hfirst : IsWord (front ++ (run ++ s)) ⟨front, run, s⟩ := by
      refine ⟨(List.append_assoc _ _ _).symm, hne, hrun, ?_, hs⟩
      rcases h with h | h
      · exact h
      · obtain ⟨c, run, rfl⟩ := List.exists_cons_of_ne_nil hne
        have hc := hrun c List.mem_cons_self
        rw [h c rfl] at hc
        cases hc
    refine ⟨⟨front, run, s⟩ :: spans, ?_, ?_, fun w => ?_⟩
    · rw [List.map_cons, hparts, words, words, runs_append hne hrun hs]
    · refine List.pairwise_cons.mpr ⟨fun w hw => ?_, hsorted⟩
      have hle := ((hspans w).mp hw).2
      have hpos := List.length_pos_iff.mpr hne
      rw [List.length_append] at hle
      dsimp only
      omega
    · rw [List.mem_cons, hspans, List.append_assoc, List.length_append]
      constructor
      · rintro (rfl | ⟨hw, hle⟩)
        · exact ⟨hfirst, Nat.le_refl _⟩
        · exact ⟨hw, Nat.le_of_add_right_le hle⟩
      · rintro ⟨hw, hle⟩
        rcases hfirst.eq_or_le hw hle with heq | hle
        · exact .inl heq.symm
        · exact .inr ⟨hw, hle⟩

/-- The words of a text, all of them and in the order in which they stand. -/
theorem exists_words (s : List Char) :
    ∃ spans : List Span, spans.map (·.part) = words s ∧
      spans.Pairwise (fun w w' => w.front.length < w'.front.length) ∧ ∀ w, w ∈ spans ↔ IsWord s w := by
  obtain ⟨spans, hparts, hsorted, hspans⟩ := exists_words_behind s [] (.inl nofun)
  exact ⟨spans, hparts, hsorted, fun w => by simpa using hspans w⟩

/-! ### The search -/

theorem isAlphabetic_of_isWordChar_eq_false {c : Char} (h : isWordChar c = false) : isAlphabetic c = false := by
  rw [isWordChar, Bool.or_eq_false_iff] at h
  exact h.1

theorem isBoundary_eq_false {previous next : Option Char}
    (h : previous.any isWordChar = next.any isWordChar) : isBoundary previous next = false := by
  rw [isBoundary, h, bne_self_eq_false]

section
variable {c : Char} {run s : List Char}

theorem any_isWordChar_head? (hs : ∀ d ∈ s.head?, isWordChar d = false) : s.head?.any isWordChar = false := by
  cases h : s.head? with
  | none => rfl
  | some d => exact hs d h

theorem lettersToBoundary?_of_head? (hs : ∀ d ∈ s.head?, isWordChar d = false) : lettersToBoundary? s = none := by
  cases s with
  | nil => rfl
  | cons d s => rw [lettersToBoundary?, if_neg (by simp [isAlphabetic_of_isWordChar_eq_false (hs d rfl)])]

/-- The letters are given back one by one where a word goes on with something else than letters. -/
theorem lettersToBoundary?_append (hne : run ≠ []) (hrun : ∀ d ∈ run, isWordChar d = true)
    (hs : ∀ d ∈ s.head?, isWordChar d = false) :
    lettersToBoundary? (run ++ s) = if run.all isAlphabetic then some (run, s) else none := by
  induction run with
  | nil => exact absurd rfl hne
  | cons c run ih =>
    obtain ⟨hc, hrun⟩ := List.forall_mem_cons.mp hrun
    rw [List.cons_append, lettersToBoundary?, List.all_cons]
    by_cases halpha : isAlphabetic c = true
    · rw [if_pos halpha, halpha, Bool.true_and]
      cases run with
      | nil =>
        have hboundary : isBoundary (some c) s.head? = true := by
          rw [isBoundary, any_isWordChar_head? hs, Option.any_some, hc]
          rfl
        rw [List.nil_append, lettersToBoundary?_of_head? hs]
        simp [hboundary]
      | cons d run =>
        have hboundary : isBoundary (some c) (d :: run ++ s).head? = false :=
          isBoundary_eq_false (by simp [hc, hrun])
        rw [ih (List.cons_ne_nil _ _) hrun, hboundary]
        cases (d :: run).all isAlphabetic <;> rfl
    · rw [if_neg halpha, Bool.eq_false_iff.mpr halpha, Bool.false_and]
      rfl

/-- Inside a word that did not match there is no other match. -/
theorem letterWords_behind_word (hc : isWordChar c = true) (hrun : ∀ d ∈ run, isWordChar d = true)
    (hs : ∀ d ∈ s.head?, isWordChar d = false) : letterWords (some c) (run ++ s) = letterWords none s := by
  induction run generalizing c with
  | nil =>
    cases s with
    | nil => rw [List.nil_append, letterWords_nil, letterWords_nil]
    | cons d s =>
      have hword : letterWord? (some c) (d :: s) = none := by
        rw [letterWord?, lettersToBoundary?_of_head? hs, ite_self]
      have hword' : letterWord? none (d :: s) = none := by
        rw [letterWord?, lettersToBoundary?_of_head? hs, ite_self]
      rw [List.nil_append, letterWords_of_none hword, letterWords_of_none hword']
  | cons d run ih =>
    obtain ⟨hd, hrun⟩ := List.forall_mem_cons.mp hrun
    have hword : letterWord? (some c) (d :: (run ++ s)) = none := by
      have hboundary : isBoundary (some c) (some d) = false := isBoundary_eq_false (by simp [hc, hd])
      rw [letterWord?, List.head?_cons, hboundary]
      rfl
    rw [List.cons_append, letterWords_of_none hword, ih hd hrun]

end

/-- The search finds the words that have letters only. -/
theorem letterWords_eq (s : List Char) {previous : Option Char} (h : previous.any isWordChar = false) :
    letterWords previous s = (words s).filter fun word => word.all isAlphabetic := by
  induction s using words_induction generalizing previous with
  | nil => rw [letterWords_nil, words, runs_nil, List.filter_nil]
  | other c s hc ih =>
    have hword : letterWord? previous (c :: s) = none := by
      have hboundary : isBoundary previous (some c) = false := isBoundary_eq_false (by simp [h, hc])
      rw [letterWord?, List.head?_cons, hboundary]
      rfl
    rw [letterWords_of_none hword, ih (by simp [hc]), words, words, runs_cons_of_neg hc]
  | word run s hne hrun hs ih =>
    have hwords : words (run ++ s) = run :: words s := runs_append hne hrun hs
    have hnone : letterWords none s = (words s).filter fun word => word.all isAlphabetic := ih rfl
    have hword : letterWord? previous (run ++ s) = if run.all isAlphabetic then some (run, s) else none := by
      have hboundary : isBoundary previous (run ++ s).head? = true := by
        obtain ⟨c, run, rfl⟩ := List.exists_cons_of_ne_nil hne
        rw [isBoundary, h, List.cons_append, List.head?_cons, Option.any_some, hrun c List.mem_cons_self]
        rfl
      rw [letterWord?, if_pos hboundary, lettersToBoundary?_append hne hrun hs]
    by_cases halpha : run.all isAlphabetic = true
    · rw [if_pos halpha] at hword
      have hlast : isWordChar (run.getLast hne) = true := hrun _ (List.getLast_mem hne)
      have hbehind := letterWords_behind_word hlast (List.forall_mem_nil _) hs
      rw [letterWords_of_some hword, List.getLast?_eq_some_getLast hne, hwords, List.filter_cons, if_pos halpha,
        ← hnone, ← hbehind, List.nil_append]
    · rw [if_neg halpha] at hword
      -- The word is passed over character by character.
      obtain ⟨c, run, rfl⟩ := List.exists_cons_of_ne_nil hne
      obtain ⟨hc, hrun⟩ := List.forall_mem_cons.mp hrun
      rw [List.cons_append] at hword
      rw [hwords, List.filter_cons, if_neg halpha, List.cons_append, letterWords_of_none hword,
        letterWords_behind_word hc hrun hs, hnone]

end Propositional
