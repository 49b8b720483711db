import Propositional.Cell
import Propositional.Text.Blank
import Propositional.Text.Quoted
import Propositional.Valuation

/-! Valuations from a text such as `a=true, b=0`: assignments between commas, with any white space around names,
    values and commas. Blank pieces between the commas are skipped. -/

namespace Propositional
open Text

namespace Valuation

/-- Why a text gives no valuation. -/
inductive ReadError where
  | noValue (piece : List Char)
  | notAName (text : List Char)
  | notATruthValue (text : List Char)
  | repeated (v : String)
deriving DecidableEq, Repr

def ReadError.message : ReadError → String
  | .noValue piece => s!"expected name=value, got {String.ofList piece}"
  | .notAName text => s!"{String.ofList (quoted text)} is not a valid variable name"
  | .notATruthValue text => Cell.unreadable (String.ofList text)
  | .repeated v => s!"variable {v} is assigned more than once"

/-- The trimmed pieces between commas that are not blank. -/
def pieces (text : List Char) : List (List Char) :=
  ((text.splitOn ',').map trim).filter fun piece => !piece.isEmpty

/-- The text can name a variable. Not every such name can stand in a formula, whose letters are fewer. -/
def isName (text : List Char) : Bool := !text.isEmpty && text.all isNameLetter

/-- The name and the value of one assignment, which stand before and after the first equals sign. -/
def readPiece (piece : List Char) : Except ReadError (String × Bool) :=
  match piece.dropWhile (· ≠ '=') with
  | [] => .error (.noValue piece)
  | _ :: value =>
    let name := trim (piece.takeWhile (· ≠ '='))
    if !isName name then .error (.notAName name)
    else match readTruth? (String.ofList (trim value)) with
      | none => .error (.notATruthValue (trim value))
      | some x => .ok (String.ofList name, x)

/-- The valuation with one more assignment, of a name that has no value yet. -/
def assign (b : Valuation) (piece : List Char) : Except ReadError Valuation := do
  let (v, x) ← readPiece piece
  let (before?, b) := b.exchange v x
  if before?.isSome then throw (.repeated v)
  return b

/-- The valuation that the text gives. -/
def read (text : String) : Except ReadError Valuation := (pieces text.toList).foldlM assign empty

end Valuation

end Propositional
