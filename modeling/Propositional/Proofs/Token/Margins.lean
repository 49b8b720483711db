import Propositional.Proofs.Token.Scans

/-! Texts with white space around them. White space in front of a text moves its tokens, and what is wrong with them, by
    its bytes; white space behind a text changes nothing. -/

namespace Propositional
open Text

/-- The value, `n` bytes later. -/
def Text.Located.shift {α : Type} (n : Nat) (l : Located α) : Located α := ⟨l.value, n + l.offset⟩

namespace Piece

/-- The pieces one after the other, the first one at the offset. -/
def locate : Nat → List Piece → List (Located Piece)
  | _, [] => []
  | offset, p :: ps => ⟨p, offset⟩ :: locate (offset + byteLength p.chars) ps

theorem splitFrom_eq (offset : Nat) (done : List (Located Piece)) (s : List Char) :
    splitFrom offset done s = done.reverse ++ locate offset (values s) := by
  fun_induction splitFrom offset done s with
  | case1 offset done s h =>
    rw [next?_eq_none h]
    simp [values, next?, locate]
  | case2 offset done s p r h _ ih => simp [ih, values_of_next? h, locate]

theorem split_eq (s : List Char) : split s = locate 0 (values s) := splitFrom_eq 0 [] s

theorem locate_add (n offset : Nat) (ps : List Piece) : locate (n + offset) ps = (locate offset ps).map (.shift n) := by
  induction ps generalizing offset with
  | nil => rfl
  | cons p ps ih =>
    rw [locate, locate, List.map_cons, Nat.add_assoc, ih]
    rfl

/-! ### Tokens of pieces -/

/-- The tokens among the pieces, unless there is a stray character. -/
def collect : List (Located Piece) → Except (Located Fault) (List (Located Token))
  | [] => .ok []
  | ⟨.token t, offset⟩ :: ps => (collect ps).map (⟨t, offset⟩ :: ·)
  | ⟨.blank _, _⟩ :: ps => collect ps
  | ⟨.stray c, offset⟩ :: _ => .error ⟨.strayCharacter c, offset⟩

theorem tokenize_eq_collect (s : List Char) : tokenize s = collect (split s) := by
  rw [tokenize]
  generalize split s = ps
  induction ps with
  | nil => rfl
  | cons p ps ih =>
    obtain ⟨_ | _ | _, offset⟩ := p
    · rw [collect, ← ih, List.findSome?_cons, List.filterMap_cons]
      generalize (ps.findSome? fun p => p.value.stray?.map fun c => Located.mk c p.offset) = fault
      cases fault <;> rfl
    · rw [collect, ← ih]
      rfl
    · rfl

theorem collect_shift (n : Nat) (ps : List (Located Piece)) :
    collect (ps.map (.shift n)) = ((collect ps).map (List.map (.shift n))).mapError (.shift n) := by
  induction ps with
  | nil => rfl
  | cons p ps ih =>
    obtain ⟨_ | _ | _, offset⟩ := p
    · rw [List.map_cons, Located.shift, collect, collect, ih]
      cases collect ps <;> rfl
    · exact ih
    · rfl

/-! ### White space in front -/

theorem collect_values_cons {c : Char} (hc : isBlank c = true) (s : List Char) (offset : Nat) :
    collect (locate offset (values (c :: s))) = collect (locate (offset + c.utf8Size) (values s)) := by
  rw [values_of_next? (next?_blank hc s)]
  cases s with
  | nil => simp [values, next?, locate, collect]
  | cons d s =>
    by_cases hd : isBlank d = true
    · -- The piece that begins here takes in the white space behind it as well.
      rw [values_of_next? (next?_blank hd s), List.dropWhile_cons_of_pos hd, List.takeWhile_cons_of_pos hd]
      simp only [locate, collect, chars, byteLength_cons, Nat.add_assoc]
    · rw [List.dropWhile_cons_of_neg hd, List.takeWhile_cons_of_neg hd]
      simp only [locate, collect, chars, byteLength_cons, byteLength_nil, Nat.add_zero]

theorem collect_values_blanks_append {run : List Char} (hrun : ∀ c ∈ run, isBlank c = true) (s : List Char)
    (offset : Nat) :
    collect (locate offset (values (run ++ s))) = collect (locate (offset + byteLength run) (values s)) := by
  induction run generalizing offset with
  | nil => rfl
  | cons c run ih =>
    rw [List.cons_append, collect_values_cons (hrun c List.mem_cons_self),
      ih (fun d hd => hrun d (List.mem_cons_of_mem _ hd)), byteLength_cons, Nat.add_assoc]

/-! ### White space behind -/

/-- No symbol begins with white space, so none arises where white space follows. -/
theorem next?_cons_append {c : Char} {s run : List Char} (hrun : ∀ d ∈ run, isBlank d = true)
    (hand : ∀ t, c = '&' → s = '&' :: t → False) (hor : ∀ t, c = '|' → s = '|' :: t → False) (hnot : c ≠ '!')
    (hopen : c ≠ '(') (hclose : c ≠ ')') :
    next? (c :: s ++ run) =
      if isAlphabetic c then
        some (.token (.name (String.ofList (c :: (s ++ run).takeWhile isAlphabetic))),
          (s ++ run).dropWhile isAlphabetic)
      else if isBlank c then some (.blank (c :: (s ++ run).takeWhile isBlank), (s ++ run).dropWhile isBlank)
      else some (.stray c, s ++ run) := by
  have hhead : ∀ {d t}, d ∈ symbolChars → s ++ run = d :: t → ∃ t', s = d :: t' := by
    intro d t hd ht
    cases s with
    | nil =>
      obtain rfl : run = d :: t := ht
      have hblank := hrun d List.mem_cons_self
      rw [isBlank_symbol hd] at hblank
      cases hblank
    | cons e s =>
      cases ht
      exact ⟨s, rfl⟩
  rw [List.cons_append, next?]
  · intro t hc ht
    obtain ⟨t', hs⟩ := hhead (by decide) ht
    exact hand t' hc hs
  · intro t hc ht
    obtain ⟨t', hs⟩ := hhead (by decide) ht
    exact hor t' hc hs
  · exact hnot
  · exact hopen
  · exact hclose

theorem span_append {q : Char → Bool} {s run : List Char}
    (h : s.dropWhile q = [] → ∀ c ∈ run.head?, q c = false) :
    (s ++ run).takeWhile q = s.takeWhile q ∧ (s ++ run).dropWhile q = s.dropWhile q ++ run := by
  induction s with
  | nil =>
    cases run with
    | nil => exact ⟨rfl, rfl⟩
    | cons c run =>
      have hc : q c = false := h rfl c rfl
      simp [hc]
  | cons d s ih =>
    by_cases hd : q d = true
    · rw [List.dropWhile_cons_of_pos hd] at h
      simp [hd, ih h]
    · simp [hd]

/-- White space behind a text is no part of its first piece, unless this is the white space at the end of the text. -/
theorem next?_append {s r run : List Char} {p : Piece} (hrun : ∀ c ∈ run, isBlank c = true) (h : next? s = some (p, r))
    (hp : r = [] → ∀ blank, p ≠ .blank blank) : next? (s ++ run) = some (p, r ++ run) := by
  have hends : ∀ c ∈ run.head?, isAlphabetic c = false := fun c hc =>
    isAlphabetic_eq_false_of_isBlank (hrun c (List.mem_of_mem_head? hc))
  revert h
  fun_cases next? s <;> intro h <;> cases h
  case case2 | case3 | case4 | case5 | case6 => rfl
  case case7 hand hor hnot hopen hclose hc =>
    obtain ⟨htake, hdrop⟩ := span_append fun _ => hends
    rw [next?_cons_append hrun hand hor hnot hopen hclose, if_pos hc, htake, hdrop]
  case case8 hand hor hnot hopen hclose halpha hc =>
    obtain ⟨htake, hdrop⟩ := span_append fun hnil => absurd rfl (hp hnil _)
    rw [next?_cons_append hrun hand hor hnot hopen hclose, if_neg halpha, if_pos hc, htake, hdrop]
  case case9 hnot hopen hclose halpha hc hand hor =>
    rw [next?_cons_append hrun hand hor hnot hopen hclose, if_neg halpha, if_neg hc]

theorem isBlank_of_next? {s r t : List Char} (h : next? s = some (.blank t, r)) : ∀ c ∈ t, isBlank c = true := by
  obtain ⟨_, -, hp, -⟩ | ⟨_, -, -, hp, -⟩ | ⟨_, ht, hp, -⟩ | ⟨_, hp, -⟩ := next?_cases h <;> cases hp
  exact ht

theorem collect_values_blanks {run : List Char} (hrun : ∀ c ∈ run, isBlank c = true) (offset : Nat) :
    collect (locate offset (values run)) = .ok [] := by
  have hcollect := collect_values_blanks_append hrun [] offset
  rw [List.append_nil] at hcollect
  rw [hcollect]
  simp [values, next?, locate, collect]

theorem collect_values_append_blanks {s run : List Char} (hrun : ∀ c ∈ run, isBlank c = true) (offset : Nat) :
    collect (locate offset (values (s ++ run))) = collect (locate offset (values s)) := by
  fun_induction values s generalizing offset with
  | case1 s hs =>
    rw [next?_eq_none hs]
    exact collect_values_blanks hrun offset
  | case2 s p r hs _ ih =>
    cases p with
    | token t =>
      rw [values_of_next? (next?_append hrun hs fun _ _ => Piece.noConfusion), locate, locate, collect, collect, ih]
    | stray c =>
      rw [values_of_next? (next?_append hrun hs fun _ _ => Piece.noConfusion)]
      rfl
    | blank t =>
      by_cases hr : r = []
      · -- The text ends with white space, which goes on behind it.
        subst hr
        have hst : s = t := by simpa [chars] using next?_eq_some hs
        have hall : ∀ c ∈ s ++ run, isBlank c = true := by
          intro c hc
          rcases List.mem_append.mp hc with hc | hc
          · exact isBlank_of_next? hs c (hst ▸ hc)
          · exact hrun c hc
        rw [collect_values_blanks hall, locate, collect, collect_values_blanks (by simp)]
      · rw [values_of_next? (next?_append hrun hs fun hnil => absurd hnil hr), locate, locate, collect, collect, ih]

end Piece

open Piece

/-- White space in front of a text moves its tokens and its fault; white space behind it does nothing. -/
theorem tokenize_surrounded {s front back : List Char} (hfront : ∀ c ∈ front, isBlank c = true)
    (hback : ∀ c ∈ back, isBlank c = true) :
    tokenize (front ++ s ++ back) =
      ((tokenize s).map (List.map (.shift (byteLength front)))).mapError (.shift (byteLength front)) := by
  rw [tokenize_eq_collect, tokenize_eq_collect, split_eq, split_eq, ← collect_shift, ← locate_add,
    collect_values_append_blanks hback, collect_values_blanks_append hfront, Nat.zero_add, Nat.add_zero]

end Propositional
