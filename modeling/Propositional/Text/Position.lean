/-! Places in a text. An offset counts the bytes of the UTF-8 form before a place; a position counts lines and,
    within the line, code points, both from one. -/

namespace Propositional.Text

structure Position where
  line : Nat
  column : Nat
deriving DecidableEq, Repr

/-- A value with the byte offset at which it begins. -/
structure Located (α : Type) where
  value : α
  offset : Nat
deriving DecidableEq, Repr

/-- The number of bytes of the text's UTF-8 form. -/
def byteLength (s : List Char) : Nat := s.foldr (fun c n => c.utf8Size + n) 0

/-- The characters that begin below the offset. -/
def before : Nat → List Char → List Char
  | 0, _ => []
  | _, [] => []
  | offset + 1, c :: s => c :: before (offset + 1 - c.utf8Size) s

/-- The position reached after the text `s`. -/
def Position.after (s : List Char) : Position where
  line := s.count '\n' + 1
  column := (s.reverse.takeWhile (· ≠ '\n')).length + 1

/-- The position of the byte offset in the text. -/
def Position.ofOffset (s : List Char) (offset : Nat) : Position := .after (before offset s)

/-! ### Offsets between characters -/

@[simp] theorem byteLength_nil : byteLength [] = 0 := rfl

@[simp] theorem byteLength_cons (c : Char) (s : List Char) : byteLength (c :: s) = c.utf8Size + byteLength s := rfl

@[simp] theorem byteLength_append (s t : List Char) : byteLength (s ++ t) = byteLength s + byteLength t := by
  induction s with
  | nil => simp
  | cons c s ih => simp [ih, Nat.add_assoc]

/-- At an offset between two characters, what begins below it is what stands before it. -/
theorem before_byteLength (s t : List Char) : before (byteLength s) (s ++ t) = s := by
  induction s with
  | nil => simp [before]
  | cons c s ih =>
    obtain ⟨k, hk⟩ : ∃ k, c.utf8Size + byteLength s = k + 1 := ⟨c.utf8Size + byteLength s - 1, by
      have := c.utf8Size_pos
      omega⟩
    rw [byteLength_cons, hk, List.cons_append, before, ← hk, Nat.add_sub_cancel_left, ih]

theorem ofOffset_byteLength (s t : List Char) : Position.ofOffset (s ++ t) (byteLength s) = .after s := by
  rw [Position.ofOffset, before_byteLength]

end Propositional.Text
