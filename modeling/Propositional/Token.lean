/-! The tokens of a formula's text. -/

namespace Propositional

inductive Token where
  | name (v : String)
  | and
  | or
  | not
  | openParen
  | closeParen
deriving DecidableEq, Repr

namespace Token

/-- How the token is written in a formula's text. -/
def spelling : Token → String
  | .name v => v
  | .and => "&&"
  | .or => "||"
  | .not => "!"
  | .openParen => "("
  | .closeParen => ")"

/-- How a message names the token. -/
def describe : Token → String
  | .name v => s!"variable `{v}`"
  | token => s!"`{token.spelling}`"

/-- How a message names what was found at a place, `none` being the end of the text. -/
def describeFound : Option Token → String
  | some token => token.describe
  | none => "end of input"

/-- The variable that the token names, if it names one. -/
def name? : Token → Option String
  | .name v => some v
  | _ => none

theorem name?_eq_some {token : Token} {v : String} : token.name? = some v ↔ token = .name v := by
  cases token <;> simp [name?]

theorem mem_filterMap_name? {tokens : List Token} {v : String} : v ∈ tokens.filterMap name? ↔ .name v ∈ tokens := by
  simp only [List.mem_filterMap, name?_eq_some, exists_eq_right]

end Token

end Propositional
