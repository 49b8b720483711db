import Propositional.Text.Search
import Propositional.Token.Lexer

/-! The lexical grammar: which texts have which tokens. White space stands anywhere between tokens, and a name goes on
    as long as there are letters. A text has tokens by this grammar when it can be split into tokens, and then these
    are the ones. -/

namespace Propositional
open Text

/-- The tokens that are written with fixed characters. -/
def Token.isSymbol : Token → Bool
  | .name _ => false
  | _ => true

/-- The text is a name: letters, and at least one. -/
def IsName (v : String) : Prop := v ≠ "" ∧ ∀ c ∈ v.toList, isAlphabetic c = true

instance (v : String) : Decidable (IsName v) :=
  decidable_of_iff (v ≠ "" ∧ v.toList.all isAlphabetic = true) (by rw [IsName, List.all_eq_true])

/-- The text does not begin with a letter, so that a name may end in front of it. -/
def EndsName (s : List Char) : Prop := ∀ c ∈ s.head?, isAlphabetic c = false

/-- The text has the tokens. -/
inductive Scans : List Char → List Token → Prop where
  | nil : Scans [] []
  | blank {c : Char} {s : List Char} {ts : List Token} : isBlank c = true → Scans s ts → Scans (c :: s) ts
  | symbol {t : Token} {s : List Char} {ts : List Token} :
    t.isSymbol = true → Scans s ts → Scans (t.spelling.toList ++ s) (t :: ts)
  | name {v : String} {s : List Char} {ts : List Token} :
    IsName v → EndsName s → Scans s ts → Scans (v.toList ++ s) (.name v :: ts)

/-! ### Symbols -/

/-- The characters of which the symbols are made. -/
def symbolChars : List Char := ['&', '|', '!', '(', ')']

theorem isWordChar_symbol {c : Char} (h : c ∈ symbolChars) : isWordChar c = false := by
  have hall : symbolChars.all (!isWordChar ·) = true := by decide +kernel
  simpa using List.all_eq_true.mp hall c h

theorem isBlank_symbol {c : Char} (h : c ∈ symbolChars) : isBlank c = false := by
  have hall : symbolChars.all (!isBlank ·) = true := by decide +kernel
  simpa using List.all_eq_true.mp hall c h

theorem isAlphabetic_symbol {c : Char} (h : c ∈ symbolChars) : isAlphabetic c = false := by
  refine Bool.eq_false_iff.mpr fun hc => ?_
  have := isWordChar_of_isAlphabetic hc
  rw [isWordChar_symbol h] at this
  cases this

theorem spelling_subset {t : Token} (ht : t.isSymbol = true) : t.spelling.toList ⊆ symbolChars := by
  cases t with
  | name v => cases ht
  | _ => decide

theorem exists_cons_spelling {t : Token} (ht : t.isSymbol = true) :
    ∃ c rest, t.spelling.toList = c :: rest ∧ c ∈ symbolChars := by
  obtain ⟨c, rest, hspelling⟩ : ∃ c rest, t.spelling.toList = c :: rest := by
    cases t with
    | name v => cases ht
    | _ => exact ⟨_, _, rfl⟩
  exact ⟨c, rest, hspelling, spelling_subset ht (hspelling ▸ List.mem_cons_self)⟩

theorem IsName.exists_cons {v : String} (hv : IsName v) : ∃ c run, v.toList = c :: run ∧ isAlphabetic c = true := by
  obtain ⟨c, run, hrun⟩ := List.exists_cons_of_ne_nil fun hnil => hv.1 (String.toList_eq_nil_iff.mp hnil)
  exact ⟨c, run, hrun, hv.2 c (hrun ▸ List.mem_cons_self)⟩

/-! ### Runs -/

theorem forall_mem_cons_takeWhile {p : Char → Bool} {c : Char} (hc : p c = true) (s : List Char) :
    ∀ d ∈ c :: s.takeWhile p, p d = true := by
  intro d hd
  rcases List.mem_cons.mp hd with rfl | hd
  · exact hc
  · exact List.all_eq_true.mp List.all_takeWhile d hd

theorem isName_ofList {run : List Char} (hne : run ≠ []) (hrun : ∀ c ∈ run, isAlphabetic c = true) :
    IsName (String.ofList run) := by
  refine ⟨fun h => hne ?_, by simpa using hrun⟩
  rw [← String.toList_ofList (l := run), h, String.toList_empty]

theorem endsName_dropWhile (s : List Char) : EndsName (s.dropWhile isAlphabetic) := by
  intro c hc
  have := List.head?_dropWhile_not isAlphabetic s
  rw [Option.mem_def.mp hc] at this
  exact this

theorem EndsName.takeWhile_eq_nil {s : List Char} (h : EndsName s) : s.takeWhile isAlphabetic = [] := by
  cases s with
  | nil => rfl
  | cons c s => simp [h c rfl]

theorem EndsName.dropWhile_eq {s : List Char} (h : EndsName s) : s.dropWhile isAlphabetic = s := by
  cases s with
  | nil => rfl
  | cons c s => simp [h c rfl]

/-! ### The first piece -/

namespace Piece

theorem next?_symbol {t : Token} (ht : t.isSymbol = true) (s : List Char) :
    next? (t.spelling.toList ++ s) = some (.token t, s) := by
  cases t with
  | name v => simp [Token.isSymbol] at ht
  | _ => rfl

theorem next?_of_notMem {c : Char} (hc : c ∉ symbolChars) (s : List Char) :
    next? (c :: s) =
      if isAlphabetic c then
        some (.token (.name (String.ofList (c :: s.takeWhile isAlphabetic))), s.dropWhile isAlphabetic)
      else if isBlank c then some (.blank (c :: s.takeWhile isBlank), s.dropWhile isBlank)
      else some (.stray c, s) := by
  simp [symbolChars] at hc
  rw [next?] <;> simp [hc]

theorem next?_name {v : String} {s : List Char} (hv : IsName v) (hs : EndsName s) :
    next? (v.toList ++ s) = some (.token (.name v), s) := by
  obtain ⟨hne, hrun⟩ := hv
  obtain ⟨run, rfl⟩ : ∃ run, v = String.ofList run := ⟨v.toList, String.ofList_toList.symm⟩
  rw [String.toList_ofList] at hrun ⊢
  obtain _ | ⟨c, run⟩ := run
  · exact absurd rfl hne
  · have hc : isAlphabetic c = true := hrun c (by simp)
    have hnot : c ∉ symbolChars := fun h => by simp [isAlphabetic_symbol h] at hc
    have hrun' : ∀ d ∈ run, isAlphabetic d = true := fun d hd => hrun d (List.mem_cons_of_mem _ hd)
    rw [List.cons_append, next?_of_notMem hnot, if_pos hc, List.takeWhile_append_of_pos hrun',
      List.dropWhile_append_of_pos hrun', hs.takeWhile_eq_nil, hs.dropWhile_eq, List.append_nil]

theorem next?_blank {c : Char} (hc : isBlank c = true) (s : List Char) :
    next? (c :: s) = some (.blank (c :: s.takeWhile isBlank), s.dropWhile isBlank) := by
  have hnot : c ∉ symbolChars := fun h => by simp [isBlank_symbol h] at hc
  rw [next?_of_notMem hnot, if_neg (by simp [isAlphabetic_eq_false_of_isBlank hc]), if_pos hc]

theorem next?_eq_none {s : List Char} (h : next? s = none) : s = [] := by
  revert h
  fun_cases next? s <;> simp

/-- What the first piece of a text can be. -/
theorem next?_cases {s r : List Char} {p : Piece} (h : next? s = some (p, r)) :
    (∃ t, t.isSymbol = true ∧ p = .token t ∧ s = t.spelling.toList ++ r) ∨
      (∃ v, IsName v ∧ EndsName r ∧ p = .token (.name v) ∧ s = v.toList ++ r) ∨
      (∃ run, (∀ c ∈ run, isBlank c = true) ∧ p = .blank run ∧ s = run ++ r) ∨
      ∃ c, p = .stray c ∧ s = c :: r := by
  revert h
  fun_cases next? s <;> intro h <;> cases h
  · exact .inl ⟨.and, rfl, rfl, rfl⟩
  · exact .inl ⟨.or, rfl, rfl, rfl⟩
  · exact .inl ⟨.not, rfl, rfl, rfl⟩
  · exact .inl ⟨.openParen, rfl, rfl, rfl⟩
  · exact .inl ⟨.closeParen, rfl, rfl, rfl⟩
  next c s _ _ _ _ _ hc =>
    have hrun := forall_mem_cons_takeWhile hc s
    exact .inr (.inl ⟨_, isName_ofList (List.cons_ne_nil _ _) hrun, endsName_dropWhile s, rfl, by simp⟩)
  next c s _ _ _ _ _ _ hc =>
    exact .inr (.inr (.inl ⟨_, forall_mem_cons_takeWhile hc s, rfl, by simp⟩))
  · exact .inr (.inr (.inr ⟨_, rfl, rfl⟩))

/-! ### All pieces -/

/-- The pieces of a text without their offsets. -/
def values (s : List Char) : List Piece :=
  match h : next? s with
  | none => []
  | some (p, r) =>
    have := length_lt_of_next? h
    p :: values r
termination_by s.length

theorem values_of_next? {s r : List Char} {p : Piece} (h : next? s = some (p, r)) : values s = p :: values r := by
  rw [values]
  split <;> simp_all

theorem map_value_splitFrom (offset : Nat) (done : List (Located Piece)) (s : List Char) :
    (splitFrom offset done s).map (·.value) = done.reverse.map (·.value) ++ values s := by
  fun_induction splitFrom offset done s with
  | case1 offset done s h =>
    rw [next?_eq_none h]
    simp [values, next?]
  | case2 offset done s p r h _ ih => simp [ih, values_of_next? h]

theorem map_value_split (s : List Char) : (split s).map (·.value) = values s := by
  simp [split, map_value_splitFrom]

theorem values_eq_or (s : List Char) :
    s.dropWhile isBlank = s ∨ ∃ run, values s = .blank run :: values (s.dropWhile isBlank) := by
  cases s with
  | nil => exact .inl rfl
  | cons c s =>
    by_cases hc : isBlank c = true
    · rw [List.dropWhile_cons_of_pos hc]
      exact .inr ⟨_, values_of_next? (next?_blank hc s)⟩
    · exact .inl (List.dropWhile_cons_of_neg hc)

end Piece

/-! ### Texts with tokens -/

open Piece

theorem Scans.blanks {run s : List Char} {ts : List Token} (hrun : ∀ c ∈ run, isBlank c = true) (h : Scans s ts) :
    Scans (run ++ s) ts := by
  induction run with
  | nil => exact h
  | cons c run ih => exact .blank (hrun c (by simp)) (ih fun d hd => hrun d (List.mem_cons_of_mem _ hd))

theorem scans_values {s : List Char} (h : ∀ p ∈ values s, p.stray? = none) :
    Scans s ((values s).filterMap token?) := by
  fun_induction values s with
  | case1 s hs =>
    rw [next?_eq_none hs]
    exact .nil
  | case2 s p r hs _ ih =>
    have ih := ih fun q hq => h q (List.mem_cons_of_mem _ hq)
    rcases next?_cases hs with ⟨t, ht, rfl, rfl⟩ | ⟨v, hv, hr, rfl, rfl⟩ | ⟨run, hrun, rfl, rfl⟩ | ⟨c, rfl, rfl⟩
    · exact .symbol ht ih
    · exact .name hv hr ih
    · exact .blanks hrun ih
    · have := h (.stray c) (by simp)
      simp [stray?] at this

theorem Scans.values {s : List Char} {ts : List Token} (h : Scans s ts) :
    (∀ p ∈ Piece.values s, p.stray? = none) ∧ (Piece.values s).filterMap token? = ts := by
  induction h with
  | nil => simp [Piece.values, next?]
  | @blank c s ts hc _ ih =>
    -- The piece that begins here takes in the white space of `s` as well.
    rw [values_of_next? (next?_blank hc s)]
    rcases values_eq_or s with hs | ⟨run, hs⟩
    · rw [hs]
      exact ⟨by simpa [stray?] using ih.1, ih.2⟩
    · rw [hs] at ih
      exact ⟨by simpa [stray?] using ih.1, ih.2⟩
  | @symbol t s ts ht _ ih =>
    rw [values_of_next? (next?_symbol ht s)]
    exact ⟨by simpa [stray?] using ih.1, by simp [token?, ih.2]⟩
  | name hv hs _ ih =>
    rw [values_of_next? (next?_name hv hs)]
    exact ⟨by simpa [stray?] using ih.1, by simp [token?, ih.2]⟩

theorem tokenize_eq_ok_iff {s : List Char} {tokens : List (Located Token)} :
    tokenize s = .ok tokens ↔ (∀ p ∈ values s, p.stray? = none) ∧
      tokens = (split s).filterMap fun p => p.value.token?.map fun token => ⟨token, p.offset⟩ := by
  have hnone : ((split s).findSome? fun p => p.value.stray?.map fun c => Located.mk c p.offset) = none ↔
      ∀ p ∈ values s, p.stray? = none := by
    rw [List.findSome?_eq_none_iff, ← map_value_split, List.forall_mem_map]
    simp only [Option.map_eq_none_iff]
  rw [tokenize, ← hnone]
  split
  next c hc => simp [hc]
  next hc => simp [hc, eq_comm]

theorem Scans.isName {s : List Char} {ts : List Token} (h : Scans s ts) {v : String} (hv : .name v ∈ ts) : IsName v := by
  induction h with
  | nil => simp at hv
  | blank _ _ ih => exact ih hv
  | symbol ht _ ih =>
    rcases List.mem_cons.mp hv with rfl | hv
    · simp [Token.isSymbol] at ht
    · exact ih hv
  | name hname _ _ ih =>
    rcases List.mem_cons.mp hv with hv | hv
    · cases hv
      exact hname
    · exact ih hv

/-- A name is not longer than the text that it is a token of. -/
theorem Scans.length_name_le {s : List Char} {ts : List Token} (h : Scans s ts) {v : String} (hv : .name v ∈ ts) :
    v.length ≤ s.length := by
  induction h with
  | nil => cases hv
  | blank _ _ ih =>
    rw [List.length_cons]
    exact Nat.le_succ_of_le (ih hv)
  | symbol ht _ ih =>
    rw [List.length_append]
    rcases List.mem_cons.mp hv with rfl | hv
    · cases ht
    · exact Nat.le_add_left_of_le (ih hv)
  | name _ _ _ ih =>
    rw [List.length_append]
    rcases List.mem_cons.mp hv with hv | hv
    · cases hv
      rw [String.length_toList]
      exact Nat.le_add_right _ _
    · exact Nat.le_add_left_of_le (ih hv)

section
variable {s s' : List Char} {ts us : List Token} {t : Token}

theorem endsName_cons {c : Char} (h : isAlphabetic c = false) (s : List Char) : EndsName (c :: s) := by
  intro d hd
  cases hd
  exact h

theorem endsName_symbol (ht : t.isSymbol = true) (s : List Char) : EndsName (t.spelling.toList ++ s) := by
  obtain ⟨c, rest, hspelling, hc⟩ := exists_cons_spelling ht
  rw [hspelling]
  exact endsName_cons (isAlphabetic_symbol hc) _

theorem endsName_append (hs : EndsName s) (hs' : EndsName s') : EndsName (s ++ s') := by
  cases s with
  | nil => exact hs'
  | cons c s => exact hs

/-- Two texts with tokens, of which the second does not begin with a letter, have the tokens of both. -/
theorem Scans.append (h : Scans s ts) (h' : Scans s' us) (he : EndsName s') : Scans (s ++ s') (ts ++ us) := by
  induction h with
  | nil => exact h'
  | blank hc _ ih => exact .blank hc ih
  | symbol ht _ ih =>
    rw [List.append_assoc]
    exact .symbol ht ih
  | name hv hs _ ih =>
    rw [List.append_assoc]
    exact .name hv (endsName_append hs he) ih

end

/-- A text can be split into tokens when the lexical grammar gives it tokens, and these are the ones. -/
theorem scans_iff {s : List Char} {ts : List Token} :
    Scans s ts ↔ ∃ tokens, tokenize s = .ok tokens ∧ tokens.map (·.value) = ts := by
  have hmap : ((split s).filterMap fun p => p.value.token?.map fun token => Located.mk token p.offset).map (·.value) =
      (values s).filterMap token? := by
    rw [← map_value_split, List.filterMap_map, List.map_filterMap]
    congr 1
    funext p
    cases h : p.value.token? <;> simp [h]
  constructor
  · intro h
    refine ⟨_, tokenize_eq_ok_iff.mpr ⟨h.values.1, rfl⟩, ?_⟩
    rw [hmap, h.values.2]
  · rintro ⟨tokens, ht, rfl⟩
    obtain ⟨hstray, rfl⟩ := tokenize_eq_ok_iff.mp ht
    rw [hmap]
    exact scans_values hstray

end Propositional
