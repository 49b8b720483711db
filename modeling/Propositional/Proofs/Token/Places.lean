import Propositional.Token.Lexer

/-! Where the pieces of a text stand. The offset of a piece counts the bytes in front of it, so the pieces, the tokens
    and a stray character are found in the text where their offsets say. -/

namespace Propositional
open Text

/-- The characters stand in the text at the byte offset. -/
def Stands (text chars : List Char) (offset : Nat) : Prop :=
  ∃ pre post, text = pre ++ chars ++ post ∧ byteLength pre = offset

namespace Piece

theorem stands_splitFrom {text pre s : List Char} {done : List (Located Piece)} (htext : text = pre ++ s)
    (hdone : ∀ p ∈ done, Stands text p.value.chars p.offset) :
    ∀ p ∈ splitFrom (byteLength pre) done s, Stands text p.value.chars p.offset := by
  generalize hoffset : byteLength pre = offset
  fun_induction splitFrom offset done s generalizing pre with
  | case1 offset done s hs =>
    intro p hp
    exact hdone p (List.mem_reverse.mp hp)
  | case2 offset done s p r hs _ ih =>
    have htext' : text = (pre ++ p.chars) ++ r := by
      rw [htext, next?_eq_some hs, List.append_assoc]
    have hoffset' : byteLength (pre ++ p.chars) = offset + byteLength p.chars := by
      rw [byteLength_append, hoffset]
    refine ih htext' ?_ hoffset'
    intro q hq
    rcases List.mem_cons.mp hq with rfl | hq
    · exact ⟨pre, r, htext', hoffset⟩
    · exact hdone q hq

theorem stands_of_mem_split {text : List Char} {p : Located Piece} (hp : p ∈ split text) :
    Stands text p.value.chars p.offset := by
  have htext : text = [] ++ text := rfl
  have hdone : ∀ q ∈ ([] : List (Located Piece)), Stands text q.value.chars q.offset := by
    intro q hq
    cases hq
  exact stands_splitFrom htext hdone p hp

end Piece

theorem stands_of_tokenize {text : List Char} {tokens : List (Located Token)} {t : Located Token}
    (h : tokenize text = .ok tokens) (ht : t ∈ tokens) : Stands text t.value.spelling.toList t.offset := by
  rw [tokenize] at h
  split at h
  · cases h
  · cases h
    obtain ⟨p, hp, hpt⟩ := List.mem_filterMap.mp ht
    have hstands := Piece.stands_of_mem_split hp
    obtain ⟨piece, offset⟩ := p
    cases piece with
    | token token =>
      cases hpt
      exact hstands
    | blank run => cases hpt
    | stray c => cases hpt

theorem stands_of_tokenize_error {text : List Char} {fault : Located Fault} (h : tokenize text = .error fault) :
    ∃ c, fault.value = .strayCharacter c ∧ Stands text [c] fault.offset := by
  rw [tokenize] at h
  split at h
  next c hc =>
    cases h
    obtain ⟨p, hp, hpc⟩ := List.exists_of_findSome?_eq_some hc
    have hstands := Piece.stands_of_mem_split hp
    obtain ⟨piece, offset⟩ := p
    cases piece with
    | stray c =>
      cases hpc
      exact ⟨c, rfl, hstands⟩
    | token token => cases hpc
    | blank run => cases hpc
  · cases h

/-! ### Lexemes -/

/-- The token as a lexeme. -/
def lexeme (t : Located Token) : Located (Option Token) := ⟨some t.value, t.offset⟩

/-- The lexemes of a text of `length` bytes: its tokens and its end. -/
def closed (length : Nat) (tokens : List (Located Token)) : List (Located (Option Token)) :=
  tokens.map lexeme ++ [⟨none, length⟩]

theorem lexemes_eq_ok_iff {s : List Char} {ls : List (Located (Option Token))} :
    lexemes s = .ok ls ↔ ∃ tokens, tokenize s = .ok tokens ∧ closed (byteLength s) tokens = ls := by
  have hbind : lexemes s = tokenize s >>= fun tokens => .ok (closed (byteLength s) tokens) := rfl
  rw [hbind]
  cases tokenize s with
  | error fault => simp [bind, Except.bind]
  | ok tokens => simp [bind, Except.bind]

theorem lexemes_eq_error_iff {s : List Char} {fault : Located Fault} :
    lexemes s = .error fault ↔ tokenize s = .error fault := by
  have hbind : lexemes s = tokenize s >>= fun tokens => .ok (closed (byteLength s) tokens) := rfl
  rw [hbind]
  cases tokenize s <;> simp [bind, Except.bind]

theorem map_value_lexeme (tokens : List (Located Token)) :
    (tokens.map lexeme).map (·.value) = (tokens.map (·.value)).map some := by
  simp [lexeme]

theorem map_value_closed (length : Nat) (tokens : List (Located Token)) :
    (closed length tokens).map (·.value) = (tokens.map (·.value)).map some ++ [none] := by
  rw [closed, List.map_append, map_value_lexeme]
  rfl

/-- The lexeme stands in the text behind `pre`: a token with all its characters, the end with nothing after it. -/
def StandsBehind (pre text : List Char) : Option Token → Prop
  | some token => ∃ post, text = pre ++ token.spelling.toList ++ post
  | none => text = pre

theorem exists_standsBehind {text : List Char} {ls : List (Located (Option Token))} {l : Located (Option Token)}
    (h : lexemes text = .ok ls) (hl : l ∈ ls) : ∃ pre, StandsBehind pre text l.value ∧ byteLength pre = l.offset := by
  obtain ⟨tokens, ht, rfl⟩ := lexemes_eq_ok_iff.mp h
  rcases List.mem_append.mp hl with hl | hl
  · obtain ⟨t, hmem, rfl⟩ := List.mem_map.mp hl
    obtain ⟨pre, post, htext, hoffset⟩ := stands_of_tokenize ht hmem
    exact ⟨pre, ⟨post, htext⟩, hoffset⟩
  · obtain rfl := List.mem_singleton.mp hl
    exact ⟨text, rfl, rfl⟩

theorem StandsBehind.ofOffset_eq {pre text : List Char} {k : Option Token} (h : StandsBehind pre text k) :
    Position.ofOffset text (byteLength pre) = .after pre := by
  cases k with
  | none =>
    obtain rfl : text = pre := h
    have hend := ofOffset_byteLength text []
    rwa [List.append_nil] at hend
  | some token =>
    obtain ⟨post, rfl⟩ := h
    rw [List.append_assoc, ofOffset_byteLength]

end Propositional
