import Propositional.Text.Padding

/-! The cells of a truth table: labels in the heading, truth values below. -/

namespace Propositional

/-! ### Spellings of truth values -/

def trueSpellings : List String := ["true", "True", "t", "T", "1"]

def falseSpellings : List String := ["false", "False", "f", "F", "0"]

/-- The truth value that the text spells. -/
def readTruth? (s : String) : Option Bool :=
  if s ∈ trueSpellings then some true else if s ∈ falseSpellings then some false else none

/-- How a single truth value is printed. -/
def renderTruth (compact : Bool) : Bool → String
  | true => if compact then "T" else "true"
  | false => if compact then "F" else "false"

/-! ### Cells -/

inductive Cell where
  | label (text : String)
  | value (b : Bool)
deriving DecidableEq, Repr

namespace Cell

def value? : Cell → Option Bool
  | .label _ => none
  | .value b => some b

/-- The cell's text, where a truth value takes one letter. -/
def short : Cell → String
  | .label text => text
  | .value true => "T"
  | .value false => "F"

def long : Cell → String
  | .label text => text
  | .value true => "True"
  | .value false => "False"

def render (compact : Bool) (cell : Cell) : String := if compact then cell.short else cell.long

/-- The long text of the cell set into a field. -/
def set (field : Text.Field) (cell : Cell) : Except Text.Field.OutOfRange String :=
  (field.set cell.long.toList).map String.ofList

/-- The cell that the text spells. -/
def read? (s : String) : Option Cell := (readTruth? s).map .value

/-- The message for a text that spells no truth value. -/
def unreadable (s : String) : String := s!"cannot parse {s} as truth-table entry"

end Cell

/-- A value is read as it is printed. -/
theorem readTruth?_render (compact x : Bool) : readTruth? ((Cell.value x).render compact) = some x := by
  cases compact <;> cases x <;> decide +kernel

end Propositional
