import Propositional.Text.Position
import Propositional.Token

/-! Why a text is not a formula, and where. -/

namespace Propositional
open Text

/-- Largest number of parentheses that may be open at once. -/
def maxNesting : Nat := 256

inductive Fault where
  | strayCharacter (c : Char)
  | operandExpected (found : Option Token)
  | closeExpected (found : Option Token)
  | endExpected (found : Token)
  | nestedTooDeeply
deriving DecidableEq, Repr

def Fault.message : Fault → String
  | .strayCharacter c => s!"Unexpected character `{c}`"
  | .operandExpected found => s!"Expected a variable, `!` or `(`, got {Token.describeFound found}"
  | .closeExpected found => s!"Expected `)`, got {Token.describeFound found}"
  | .endExpected found => s!"Expected end of input, got {found.describe}"
  | .nestedTooDeeply => s!"Expression nested too deeply (more than {maxNesting} levels)"

/-- A fault at a position of the text. -/
structure SyntaxError where
  fault : Fault
  position : Position
deriving DecidableEq, Repr

namespace SyntaxError

def ofLocated (text : List Char) (fault : Located Fault) : SyntaxError where
  fault := fault.value
  position := .ofOffset text fault.offset

def message (e : SyntaxError) : String :=
  s!"Line {e.position.line}, col {e.position.column}: {e.fault.message}"

end SyntaxError

end Propositional
