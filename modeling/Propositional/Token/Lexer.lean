import Propositional.Fault
import Propositional.Text.Blank

/-! A text as pieces: tokens, white space between them, and characters that belong to no token. A text has tokens when
    it has no stray character. -/

namespace Propositional
open Text

inductive Piece where
  | token (t : Token)
  | blank (run : List Char)
  | stray (c : Char)
deriving DecidableEq, Repr

namespace Piece

def chars : Piece → List Char
  | .token t => t.spelling.toList
  | .blank run => run
  | .stray c => [c]

def token? : Piece → Option Token
  | .token t => some t
  | _ => none

def stray? : Piece → Option Char
  | .stray c => some c
  | _ => none

/-- The first piece of a text and what follows it. Names and white space reach as far as they can. -/
def next? : List Char → Option (Piece × List Char)
  | [] => none
  | '&' :: '&' :: s => some (.token .and, s)
  | '|' :: '|' :: s => some (.token .or, s)
  | '!' :: s => some (.token .not, s)
  | '(' :: s => some (.token .openParen, s)
  | ')' :: s => some (.token .closeParen, s)
  | c :: s =>
    if isAlphabetic c then
      some (.token (.name (String.ofList (c :: s.takeWhile isAlphabetic))), s.dropWhile isAlphabetic)
    else if isBlank c then some (.blank (c :: s.takeWhile isBlank), s.dropWhile isBlank)
    else some (.stray c, s)

theorem next?_eq_some {s r : List Char} {p : Piece} (h : next? s = some (p, r)) : s = p.chars ++ r := by
  revert h
  fun_cases next? s <;> intro h <;> simp at h <;> obtain ⟨rfl, rfl⟩ := h <;>
    simp [chars, Token.spelling, String.toList_ofList]

theorem chars_ne_nil {s r : List Char} {p : Piece} (h : next? s = some (p, r)) : p.chars ≠ [] := by
  revert h
  fun_cases next? s <;> intro h <;> simp at h <;> obtain ⟨rfl, rfl⟩ := h <;>
    simp [chars, Token.spelling, String.toList_ofList]

theorem length_lt_of_next? {s r : List Char} {p : Piece} (h : next? s = some (p, r)) : r.length < s.length := by
  have := List.length_pos_iff.mpr (chars_ne_nil h)
  rw [next?_eq_some h, List.length_append]
  omega

/-- The pieces of the text `s` that begins at `offset`, after the pieces in `done`, last one first. -/
def splitFrom (offset : Nat) (done : List (Located Piece)) (s : List Char) : List (Located Piece) :=
  match h : next? s with
  | none => done.reverse
  | some (p, r) =>
    have := length_lt_of_next? h
    splitFrom (offset + byteLength p.chars) (⟨p, offset⟩ :: done) r
termination_by s.length

/-- The pieces of a text from left to right. -/
def split (s : List Char) : List (Located Piece) := splitFrom 0 [] s

end Piece

/-! ### Tokens -/

/-- The tokens of a text, unless it has a stray character: then the first of these is the fault. -/
def tokenize (s : List Char) : Except (Located Fault) (List (Located Token)) :=
  let pieces := Piece.split s
  match pieces.findSome? fun p => p.value.stray?.map fun c => Located.mk c p.offset with
  | some c => .error ⟨.strayCharacter c.value, c.offset⟩
  | none => .ok (pieces.filterMap fun p => p.value.token?.map fun token => ⟨token, p.offset⟩)

/-- The tokens of a text, closed by its end. -/
def lexemes (s : List Char) : Except (Located Fault) (List (Located (Option Token))) := do
  let tokens ← tokenize s
  return tokens.map (fun t => ⟨some t.value, t.offset⟩) ++ [⟨none, byteLength s⟩]

end Propositional
