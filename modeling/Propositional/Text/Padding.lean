/-! Text set into a field: cut to a largest length, then filled with spaces to a smallest one. Lengths count code
    points. A width and a limit are numbers of 16 bits, so a field for which a larger one is asked takes no text. -/

namespace Propositional.Text

inductive Alignment where
  | left
  | right
  | center
deriving DecidableEq, Repr

/-- A field of a text; without a width nothing is filled, and without a limit nothing is cut. -/
structure Field where
  alignment : Alignment := .left
  width : Nat := 0
  limit : Option Nat := none
deriving DecidableEq, Repr

def spaces (n : Nat) : List Char := List.replicate n ' '

namespace Field

/-- The text in a field of any width. A space that two equal margins leave over goes to the right. -/
def fill (field : Field) (s : List Char) : List Char :=
  let s := match field.limit with
    | none => s
    | some limit => s.take limit
  let gap := field.width - s.length
  match field.alignment with
  | .left => s ++ spaces gap
  | .right => spaces gap ++ s
  | .center => spaces (gap / 2) ++ s ++ spaces (gap - gap / 2)

/-- The largest width, and the largest limit. -/
def largest : Nat := 65535

/-- A field with a width or a limit beyond the largest one. -/
structure OutOfRange where
deriving DecidableEq, Repr

def OutOfRange.message (_ : OutOfRange) : String := "Formatting argument out of range"

/-- The text in the field, if there can be such a field. -/
def set (field : Field) (s : List Char) : Except OutOfRange (List Char) :=
  if field.width ≤ largest ∧ field.limit.getD 0 ≤ largest then .ok (field.fill s) else .error {}

/-- Without a limit a field is as long as its width, or as its text where that is longer. -/
theorem length_fill (alignment : Alignment) (width : Nat) (s : List Char) :
    (fill ⟨alignment, width, none⟩ s).length = max width s.length := by
  cases alignment <;> simp [fill, spaces] <;> omega

theorem set_eq_ok {width : Nat} (h : width ≤ largest) (s : List Char) : set { width } s = .ok (fill { width } s) :=
  if_pos ⟨h, Nat.zero_le _⟩

theorem set_eq_error {width : Nat} (h : largest < width) (s : List Char) : set { width } s = .error {} :=
  if_neg fun hrange => Nat.not_le_of_lt h hrange.1

end Field

end Propositional.Text
