import Propositional.Text.Alphabetic
import Propositional.Text.WordRanges

/-! Words, the longest runs of word characters in a text, and the search for names: words of letters only. A match is a run of letters from one word boundary to another: it takes as
    many letters as it can, and gives letters back while it does not end at a boundary. The search goes from left to
    right, and behind a match it goes on where the match ends. -/

namespace Propositional.Text

/-! ### Words -/

/-- Letters, marks, decimal digits, connector punctuation and join controls. -/
def isWordChar (c : Char) : Bool := isAlphabetic c || inRanges c.toNat joiningRanges

theorem isWordChar_of_isAlphabetic {c : Char} (h : isAlphabetic c = true) : isWordChar c = true := by
  rw [isWordChar, h, Bool.true_or]

/-- The longest nonempty runs of characters that satisfy `p`, from left to right. -/
def runs (p : Char → Bool) (s : List Char) : List (List Char) :=
  (s.splitOnP fun c => !p c).filter fun run => !run.isEmpty

def words (s : List Char) : List (List Char) := runs isWordChar s

/-! ### Matches -/

/-- Between the two characters, or an end of the text, is a word boundary: exactly one of them is a word character. -/
def isBoundary (previous next : Option Char) : Bool := previous.any isWordChar != next.any isWordChar

/-- The letters at the front of the text up to a word boundary, as many as possible but at least one, and what
    follows them. -/
def lettersToBoundary? : List Char → Option (List Char × List Char)
  | [] => none
  | c :: s =>
    if isAlphabetic c then
      match lettersToBoundary? s with
      | some (run, rest) => some (c :: run, rest)
      | none => if isBoundary (some c) s.head? then some ([c], s) else none
    else none

/-- The match that begins at the front of the text, behind the character `previous`, and what follows it. -/
def letterWord? (previous : Option Char) (s : List Char) : Option (List Char × List Char) :=
  if isBoundary previous s.head? then lettersToBoundary? s else none

theorem lettersToBoundary?_eq_some {s run rest : List Char} (h : lettersToBoundary? s = some (run, rest)) :
    run ≠ [] ∧ s = run ++ rest := by
  induction s generalizing run with
  | nil => cases h
  | cons c s ih =>
    rw [lettersToBoundary?] at h
    split at h
    · split at h
      next run' rest' hs =>
        cases h
        exact ⟨List.cons_ne_nil _ _, congrArg (c :: ·) (ih hs).2⟩
      next hs =>
        split at h
        · cases h
          exact ⟨List.cons_ne_nil _ _, rfl⟩
        · cases h
    · cases h

theorem length_lt_of_letterWord? {previous : Option Char} {s run rest : List Char}
    (h : letterWord? previous s = some (run, rest)) : rest.length < s.length := by
  rw [letterWord?] at h
  split at h
  · obtain ⟨hne, rfl⟩ := lettersToBoundary?_eq_some h
    have hpos := List.length_pos_iff.mpr hne
    rw [List.length_append]
    omega
  · cases h

/-- The matches in the text, which stands behind the character `previous`, from left to right. -/
def letterWords (previous : Option Char) (s : List Char) : List (List Char) :=
  match h : letterWord? previous s with
  | some (run, rest) =>
    have := length_lt_of_letterWord? h
    run :: letterWords run.getLast? rest
  | none =>
    match s with
    | [] => []
    | c :: s => letterWords (some c) s
termination_by s.length

theorem letterWords_of_some {previous : Option Char} {s run rest : List Char}
    (h : letterWord? previous s = some (run, rest)) :
    letterWords previous s = run :: letterWords run.getLast? rest := by
  rw [letterWords]
  split
  next run' rest' h' =>
    rw [h] at h'
    cases h'
    rfl
  next h' =>
    rw [h] at h'
    cases h'

theorem letterWords_of_none {previous : Option Char} {c : Char} {s : List Char}
    (h : letterWord? previous (c :: s) = none) : letterWords previous (c :: s) = letterWords (some c) s := by
  rw [letterWords]
  split
  next run rest h' =>
    rw [h] at h'
    cases h'
  next => rfl

@[simp] theorem letterWords_nil (previous : Option Char) : letterWords previous [] = [] := by
  have h : letterWord? previous [] = none := by
    rw [letterWord?, lettersToBoundary?, ite_self]
  rw [letterWords]
  split
  next run rest h' =>
    rw [h] at h'
    cases h'
  next => rfl

end Propositional.Text

namespace Propositional
open Text

/-- The words of letters in the text, which need not be a formula, in order of first occurrence. -/
def namesIn (s : List Char) : List String :=
  ((letterWords none s).map String.ofList).eraseDups

end Propositional
