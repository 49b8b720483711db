import Mathlib.Data.List.Infix
import Propositional.Proofs.Token.Margins
import Propositional.Proofs.Token.Places

/-! Nothing of a text is lost between its tokens. A text with tokens is made of these and of white space; where it has
    none, its scan stops at the first character that neither is white space or a letter nor begins a symbol. -/

namespace Propositional
open Text

/-! ### Where the scan gets -/

/-- The scan of a text gets over these characters: they are white space, letters and whole symbols. -/
inductive Passed : List Char → Prop where
  | nil : Passed []
  | blank {c : Char} {s : List Char} : isBlank c = true → Passed s → Passed (c :: s)
  | letter {c : Char} {s : List Char} : isAlphabetic c = true → Passed s → Passed (c :: s)
  | symbol {t : Token} {s : List Char} : t.isSymbol = true → Passed s → Passed (t.spelling.toList ++ s)

/-- At the character, in front of `post`, begins neither a token nor white space. -/
def IsStray (c : Char) (post : List Char) : Prop :=
  isBlank c = false ∧ isAlphabetic c = false ∧ c ≠ '!' ∧ c ≠ '(' ∧ c ≠ ')' ∧
    ¬"&&".toList <+: c :: post ∧ ¬"||".toList <+: c :: post

theorem Passed.run {run s : List Char} (hrun : ∀ c ∈ run, isBlank c = true ∨ isAlphabetic c = true) (h : Passed s) :
    Passed (run ++ s) := by
  induction run with
  | nil => exact h
  | cons c run ih =>
    have hrest := ih fun d hd => hrun d (List.mem_cons_of_mem _ hd)
    rcases hrun c List.mem_cons_self with hc | hc
    · exact .blank hc hrest
    · exact .letter hc hrest

namespace Piece

theorem isStray_of_next? {s r : List Char} {c : Char} (h : next? s = some (.stray c, r)) : s = c :: r ∧ IsStray c r := by
  revert h
  fun_cases next? s <;> intro h <;> cases h
  next hnot hopen hclose halpha hblank hand hor =>
    refine ⟨rfl, Bool.eq_false_iff.mpr hblank, Bool.eq_false_iff.mpr halpha, hnot, hopen, hclose, ?_, ?_⟩
    · rintro ⟨t, ht⟩
      cases ht
      exact hand _ rfl rfl
    · rintro ⟨t, ht⟩
      cases ht
      exact hor _ rfl rfl

theorem next?_stray {c : Char} {post : List Char} (h : IsStray c post) : next? (c :: post) = some (.stray c, post) := by
  obtain ⟨hblank, halpha, hnot, hopen, hclose, hand, hor⟩ := h
  rw [next?, if_neg (Bool.eq_false_iff.mp halpha), if_neg (Bool.eq_false_iff.mp hblank)]
  · rintro t rfl rfl
    exact hand ⟨t, rfl⟩
  · rintro t rfl rfl
    exact hor ⟨t, rfl⟩
  · exact hnot
  · exact hopen
  · exact hclose

/-! ### Texts without tokens -/

theorem collect_token_eq_error_iff {t : Token} {offset : Nat} {ps : List (Located Piece)} {fault : Located Fault} :
    collect (⟨.token t, offset⟩ :: ps) = .error fault ↔ collect ps = .error fault := by
  rw [collect]
  cases collect ps <;> simp [Except.map]

/-- The scan stops behind a letter where it stops without it. -/
theorem collect_values_letter {c : Char} (hc : isAlphabetic c = true) (s : List Char) (offset : Nat)
    {fault : Located Fault} :
    collect (locate offset (values (c :: s))) = .error fault ↔
      collect (locate (offset + c.utf8Size) (values s)) = .error fault := by
  have hletter : ∀ {d : Char} (s : List Char), isAlphabetic d = true →
      next? (d :: s) =
        some (.token (.name (String.ofList (d :: s.takeWhile isAlphabetic))), s.dropWhile isAlphabetic) := by
    intro d s hd
    rw [next?_of_notMem fun h => by simp [isAlphabetic_symbol h] at hd, if_pos hd]
  rw [values_of_next? (hletter s hc), locate, collect_token_eq_error_iff]
  cases s with
  | nil => simp [chars, Token.spelling]
  | cons d s =>
    by_cases hd : isAlphabetic d = true
    · -- The name that begins here takes in the name behind it.
      rw [values_of_next? (hletter s hd), locate, collect_token_eq_error_iff, List.dropWhile_cons_of_pos hd,
        List.takeWhile_cons_of_pos hd]
      simp [chars, Token.spelling, Nat.add_assoc]
    · rw [List.dropWhile_cons_of_neg hd, List.takeWhile_cons_of_neg hd]
      simp [chars, Token.spelling]

theorem collect_values_passed {pre : List Char} (h : Passed pre) (s : List Char) (offset : Nat)
    {fault : Located Fault} :
    collect (locate offset (values (pre ++ s))) = .error fault ↔
      collect (locate (offset + byteLength pre) (values s)) = .error fault := by
  induction h generalizing offset with
  | nil => rfl
  | blank hc _ ih => rw [List.cons_append, collect_values_cons hc, ih, byteLength_cons, Nat.add_assoc]
  | letter hc _ ih => rw [List.cons_append, collect_values_letter hc, ih, byteLength_cons, Nat.add_assoc]
  | symbol ht _ ih =>
    rw [List.append_assoc, values_of_next? (next?_symbol ht _), locate, collect_token_eq_error_iff, ih, chars,
      byteLength_append, Nat.add_assoc]

theorem exists_passed_of_collect {s : List Char} {offset : Nat} {fault : Located Fault}
    (h : collect (locate offset (values s)) = .error fault) :
    ∃ pre c post, s = pre ++ c :: post ∧ Passed pre ∧ IsStray c post ∧
      fault = ⟨.strayCharacter c, offset + byteLength pre⟩ := by
  fun_induction values s generalizing offset with
  | case1 s hs => cases h
  | case2 s p r hs _ ih =>
    have hafter : ∀ {front : List Char}, p.chars = front → (∀ {t}, Passed t → Passed (front ++ t)) →
        collect (locate (offset + byteLength front) (values r)) = .error fault →
        ∃ pre c post, s = pre ++ c :: post ∧ Passed pre ∧ IsStray c post ∧
          fault = ⟨.strayCharacter c, offset + byteLength pre⟩ := by
      rintro front rfl hfront hr
      obtain ⟨pre, c, post, rfl, hpre, hc, hfault⟩ := ih hr
      refine ⟨p.chars ++ pre, c, post, by rw [next?_eq_some hs, List.append_assoc], hfront hpre, hc, ?_⟩
      rw [hfault, byteLength_append, Nat.add_assoc]
    obtain ⟨t, ht, rfl, -⟩ | ⟨v, hv, -, rfl, -⟩ | ⟨run, hrun, rfl, -⟩ | ⟨c, rfl, -⟩ := next?_cases hs
    · exact hafter rfl (.symbol ht) (collect_token_eq_error_iff.mp h)
    · exact hafter rfl (.run fun c hc => .inr (hv.2 c hc)) (collect_token_eq_error_iff.mp h)
    · exact hafter rfl (.run fun c hc => .inl (hrun c hc)) h
    · obtain ⟨rfl, hc⟩ := isStray_of_next? hs
      cases h
      exact ⟨[], c, r, rfl, .nil, hc, rfl⟩

end Piece

open Piece

/-- A text has no tokens when its scan gets to a stray character, and this is its fault. -/
theorem tokenize_eq_error_iff {s : List Char} {fault : Located Fault} :
    tokenize s = .error fault ↔
      ∃ pre c post, s = pre ++ c :: post ∧ Passed pre ∧ IsStray c post ∧
        fault = ⟨.strayCharacter c, byteLength pre⟩ := by
  rw [tokenize_eq_collect, split_eq]
  constructor
  · intro h
    obtain ⟨pre, c, post, hs, hpre, hc, hfault⟩ := exists_passed_of_collect h
    exact ⟨pre, c, post, hs, hpre, hc, by rw [hfault, Nat.zero_add]⟩
  · rintro ⟨pre, c, post, rfl, hpre, hc, rfl⟩
    rw [collect_values_passed hpre, values_of_next? (next?_stray hc), locate, collect, Nat.zero_add]

/-! ### Texts with tokens -/

/-- The characters of a lexeme; the end has none. -/
def written : Option Token → List Char
  | some t => t.spelling.toList
  | none => []

/-- The token may stand in front of `post`: a name has letters, and goes on as long as there are letters. -/
def Token.EndsAt (post : List Char) : Token → Prop
  | .name v => IsName v ∧ EndsName post
  | _ => True

/-- No name ends in front of another one. -/
theorem IsName.not_endsName_append {v : String} (hv : IsName v) (post : List Char) : ¬EndsName (v.toList ++ post) := by
  obtain ⟨c, run, hrun, hc⟩ := hv.exists_cons
  intro h
  rw [h c (by rw [hrun]; rfl)] at hc
  cases hc

theorem Token.EndsAt.of_isSymbol {post : List Char} {t : Token} (ht : t.isSymbol = true) : t.EndsAt post := by
  cases t with
  | name v => cases ht
  | _ => trivial

theorem Token.EndsAt.byteLength_pos {post : List Char} {t : Token} (h : t.EndsAt post) :
    0 < byteLength (written (some t)) := by
  cases t with
  | name v =>
    obtain ⟨c, run, hv, -⟩ := h.1.exists_cons
    rw [written, Token.spelling, hv, byteLength_cons]
    exact Nat.add_pos_left c.utf8Size_pos _
  | _ => simp [written, Token.spelling, Char.utf8Size]

/-- Between the lexeme and the next one the text has white space only, and has some if both are names. -/
def Gap (text : List Char) (l next : Located (Option Token)) : Prop :=
  ∃ pre gap post, text = pre ++ written l.value ++ gap ++ written next.value ++ post ∧ byteLength pre = l.offset ∧
    byteLength (pre ++ written l.value ++ gap) = next.offset ∧ (∀ c ∈ gap, isBlank c = true) ∧
    ∀ v w, l.value = some (.name v) → next.value = some (.name w) → gap ≠ []

/-- The text `s`, which begins at the offset, is made of the lexemes and of white space in front of each. -/
inductive Laid : Nat → List Char → List (Located (Option Token)) → Prop where
  | done {offset : Nat} {gap : List Char} :
    (∀ c ∈ gap, isBlank c = true) → Laid offset gap [⟨none, offset + byteLength gap⟩]
  | token {offset : Nat} {gap s : List Char} {t : Token} {ls : List (Located (Option Token))} :
    (∀ c ∈ gap, isBlank c = true) → t.EndsAt s → Laid (offset + byteLength (gap ++ written (some t))) s ls →
    Laid offset (gap ++ written (some t) ++ s) (⟨some t, offset + byteLength gap⟩ :: ls)

namespace Laid
variable {offset : Nat} {s : List Char} {ls : List (Located (Option Token))}

theorem blanks {run : List Char} (hrun : ∀ c ∈ run, isBlank c = true) (h : Laid (offset + byteLength run) s ls) :
    Laid offset (run ++ s) ls := by
  have hgap : ∀ {gap : List Char}, (∀ c ∈ gap, isBlank c = true) → ∀ c ∈ run ++ gap, isBlank c = true := by
    intro gap hgap c hc
    exact (List.mem_append.mp hc).elim (hrun c) (hgap c)
  cases h with
  | done h =>
    rw [Nat.add_assoc, ← byteLength_append]
    exact .done (hgap h)
  | token h ht hrest =>
    rw [Nat.add_assoc, ← byteLength_append, ← List.append_assoc, ← List.append_assoc]
    refine .token (hgap h) ht ?_
    rwa [List.append_assoc, byteLength_append, ← Nat.add_assoc]

/-- What stands in front of the first lexeme. -/
theorem exists_head (h : Laid offset s ls) :
    ∃ gap l rest, ls = l :: rest ∧ l.offset = offset + byteLength gap ∧ (∀ c ∈ gap, isBlank c = true) ∧
      (∃ post, s = gap ++ written l.value ++ post) ∧ ∀ v, l.value = some (.name v) → IsName v := by
  cases h with
  | done hgap => exact ⟨s, _, [], rfl, rfl, hgap, ⟨[], by simp [written]⟩, fun v hv => by cases hv⟩
  | @token _ gap s t ls hgap ht _ =>
    refine ⟨gap, _, ls, rfl, rfl, hgap, ⟨s, rfl⟩, fun v hv => ?_⟩
    cases hv
    exact ht.1

theorem offset_le (h : Laid offset s ls) : ∀ l ∈ ls, offset ≤ l.offset := by
  induction h with
  | done _ => simp
  | token _ _ _ ih =>
    refine List.forall_mem_cons.mpr ⟨Nat.le_add_right _ _, fun l hl => ?_⟩
    exact Nat.le_trans (Nat.le_add_right _ _) (ih l hl)

theorem ascending (h : Laid offset s ls) : ls.Pairwise (·.offset < ·.offset) := by
  induction h with
  | done _ => exact List.pairwise_singleton _ _
  | @token offset gap s t ls _ ht hrest ih =>
    refine List.pairwise_cons.mpr ⟨fun l hl => ?_, ih⟩
    have hpos := ht.byteLength_pos
    have hle := hrest.offset_le l hl
    rw [byteLength_append] at hle
    dsimp only
    omega

/-- What stands between one lexeme and the next, in a text with `pre` in front of `s`. -/
theorem gaps {pre : List Char} (h : Laid (byteLength pre) s ls) : ls.IsChain (Gap (pre ++ s)) := by
  generalize hoffset : byteLength pre = offset at h
  induction h generalizing pre with
  | done _ => exact List.IsChain.singleton _
  | @token offset gap s t ls _ ht hrest ih =>
    obtain ⟨gap', l, rest, rfl, hl, hgap', ⟨post, rfl⟩, hname⟩ := hrest.exists_head
    have hpre : byteLength (pre ++ gap ++ written (some t)) = offset + byteLength (gap ++ written (some t)) := by
      rw [List.append_assoc, byteLength_append, hoffset]
    have htail := ih hpre
    refine List.isChain_cons_cons.mpr ⟨⟨pre ++ gap, gap', post, ?_, ?_, ?_, hgap', ?_⟩, ?_⟩
    · simp
    · rw [byteLength_append, hoffset]
    · rw [byteLength_append, hpre, hl]
    · intro v w hv hw hnil
      cases hv
      rw [hw, hnil] at ht
      exact (hname w hw).not_endsName_append post ht.2
    · simpa using htail

end Laid

theorem collect_token_eq_ok_iff {t : Token} {offset : Nat} {ps : List (Located Piece)} {tokens : List (Located Token)} :
    collect (⟨.token t, offset⟩ :: ps) = .ok tokens ↔ ∃ rest, collect ps = .ok rest ∧ ⟨t, offset⟩ :: rest = tokens := by
  rw [collect]
  cases collect ps <;> simp [Except.map]

theorem laid_of_collect {s : List Char} {offset : Nat} {tokens : List (Located Token)}
    (h : collect (locate offset (values s)) = .ok tokens) : Laid offset s (closed (offset + byteLength s) tokens) := by
  fun_induction values s generalizing offset tokens with
  | case1 s hs =>
    cases h
    rw [next?_eq_none hs]
    exact .done (List.forall_mem_nil _)
  | case2 s p r hs _ ih =>
    have htoken : ∀ {t : Token}, p = .token t → t.EndsAt r →
        Laid offset s (closed (offset + byteLength s) tokens) := by
      rintro t rfl ht
      obtain ⟨rest, hrest, rfl⟩ := collect_token_eq_ok_iff.mp h
      have hgap : ∀ c ∈ ([] : List Char), isBlank c = true := List.forall_mem_nil _
      have hlaid : Laid offset ([] ++ written (some t) ++ r) _ := .token hgap ht (ih hrest)
      obtain rfl : s = written (some t) ++ r := next?_eq_some hs
      simpa [closed, lexeme, Nat.add_assoc] using hlaid
    obtain ⟨t, ht, hp, -⟩ | ⟨v, hv, hr, hp, -⟩ | ⟨run, hrun, rfl, rfl⟩ | ⟨c, rfl, -⟩ := next?_cases hs
    · exact htoken hp (.of_isSymbol ht)
    · exact htoken hp ⟨hv, hr⟩
    · rw [byteLength_append, ← Nat.add_assoc]
      exact .blanks hrun (ih h)
    · cases h

/-- The lexemes cover the text: they stand in it one behind the other, with nothing but white space around them, and
    the last one is its end. -/
structure Covers (text : List Char) (ls : List (Located (Option Token))) : Prop where
  ends : ∃ tokens, ls = closed (byteLength text) tokens
  ascending : ls.Pairwise (·.offset < ·.offset)
  stands : ∀ l ∈ ls, ∃ pre, StandsBehind pre text l.value ∧ byteLength pre = l.offset
  front : ∀ l ∈ ls.head?, ∃ gap post, text = gap ++ post ∧ byteLength gap = l.offset ∧ ∀ c ∈ gap, isBlank c = true
  gaps : ls.IsChain (Gap text)

theorem covers_of_lexemes {text : List Char} {ls : List (Located (Option Token))} (h : lexemes text = .ok ls) :
    Covers text ls := by
  obtain ⟨tokens, ht, rfl⟩ := lexemes_eq_ok_iff.mp h
  rw [tokenize_eq_collect, split_eq] at ht
  have hlaid : Laid (byteLength []) text (closed (byteLength text) tokens) := by
    simpa using laid_of_collect ht
  refine ⟨⟨tokens, rfl⟩, hlaid.ascending, fun l hl => exists_standsBehind h hl, ?_, hlaid.gaps⟩
  obtain ⟨gap, first, rest, hls, hoffset, hgap, ⟨post, htext⟩, -⟩ := hlaid.exists_head
  rw [hls]
  intro l hl
  cases hl
  exact ⟨gap, _, by rw [htext, List.append_assoc], by rw [hoffset, byteLength_nil, Nat.zero_add], hgap⟩

/-- The lexemes of a text cover it. A text has none exactly if its scan gets to a stray character, and then the error
    is this character at its position. -/
theorem lexemes_scan (text : List Char) :
    (∀ ls, lexemes text = .ok ls → Covers text ls) ∧
      ∀ fault, lexemes text = .error fault ↔
        ∃ pre c post, text = pre ++ c :: post ∧ Passed pre ∧ IsStray c post ∧
          fault = ⟨.strayCharacter c, byteLength pre⟩ ∧
          SyntaxError.ofLocated text fault = ⟨.strayCharacter c, .after pre⟩ := by
  refine ⟨fun ls h => covers_of_lexemes h, fun fault => ?_⟩
  rw [lexemes_eq_error_iff, tokenize_eq_error_iff]
  refine exists_congr fun pre => exists_congr fun c => exists_congr fun post => ?_
  refine and_congr_right fun htext => and_congr_right fun _ => and_congr_right fun _ => ?_
  refine ⟨fun hfault => ⟨hfault, ?_⟩, fun h => h.1⟩
  rw [hfault, htext, SyntaxError.ofLocated, ofOffset_byteLength]

theorem lexemes_scan_spaced :
    lexemes "a b".toList = .ok [⟨some (.name "a"), 0⟩, ⟨some (.name "b"), 2⟩, ⟨none, 3⟩] ∧
      Covers "a b".toList [⟨some (.name "a"), 0⟩, ⟨some (.name "b"), 2⟩, ⟨none, 3⟩] ∧
      lexemes "&&&".toList = .error ⟨.strayCharacter '&', 2⟩ := by
  have hlexemes : lexemes "a b".toList = .ok [⟨some (.name "a"), 0⟩, ⟨some (.name "b"), 2⟩, ⟨none, 3⟩] := by
    decide +kernel
  have hstray : IsStray '&' [] := by
    unfold IsStray
    decide +kernel
  refine ⟨hlexemes, (lexemes_scan _).1 _ hlexemes, ((lexemes_scan _).2 _).mpr ?_⟩
  exact ⟨"&&".toList, '&', [], rfl, .symbol (t := .and) rfl .nil, hstray, rfl, rfl⟩

end Propositional
