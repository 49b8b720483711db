import Propositional.Formula.Parser
import Propositional.Token.Lexer

/-! A statement: a formula together with the text it was read from. -/

namespace Propositional
open Text

/-- A text, its formula and the formula's variables. -/
structure Statement where
  source : String
  vars : List String
  formula : Formula
deriving DecidableEq, Repr

/-- Why no statement could be read from bytes. -/
inductive ReadError where
  | notUtf8
  | syntactic (e : SyntaxError)
deriving DecidableEq, Repr

def ReadError.message : ReadError → String
  | .notUtf8 => "stream did not contain valid UTF-8"
  | .syntactic e => e.message

namespace Statement

/-- The statement that the text makes. -/
def parse (source : String) : Except SyntaxError Statement :=
  let text := source.toList
  match tokenize text >>= Formula.ofTokens (byteLength text) with
  | .error fault => .error (.ofLocated text fault)
  | .ok formula => .ok { source, vars := formula.vars, formula }

/-- The statement made by a text that is given by its bytes, without the white space around the text. Positions in
    an error count from the first character that is not white space. -/
def read (bytes : ByteArray) : Except ReadError Statement :=
  match String.fromUTF8? bytes with
  | none => .error .notUtf8
  | some text => (parse (String.ofList (trim text.toList))).mapError .syntactic

end Statement

end Propositional
