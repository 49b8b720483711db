import Propositional.Cell
import Propositional.Enumeration
import Propositional.Formula.Evaluation
import Propositional.Statement
import Propositional.Text.Search

/-! Truth tables: a row for each valuation of the variables, with the values of the variables and then the value of
    the formula. -/

namespace Propositional

structure Table where
  vars : List String
  expression : String
  rows : List (List Bool)
deriving DecidableEq, Repr

namespace Table

/-! ### Building -/

/-- The largest number of variables, if nothing else is asked for. -/
def defaultMaxVars : Nat := 20

/-- How a table is built: with how many variables at most, and whether its rows are evaluated side by side. -/
structure Options where
  maxVars : Nat := defaultMaxVars
  parallel : Bool := false
deriving DecidableEq, Repr

/-- The largest number of variables whose valuations can be counted. -/
def largestWidth : Nat := wordBits - 1

/-- The largest number that a count of variables can be given as. -/
def largestCount : Nat := (1 <<< wordBits) - 1

/-- Only the number of rows limits the number of variables. -/
def Options.unbounded : Options := { maxVars := largestCount }

def Options.limit (options : Options) : Nat := min options.maxVars largestWidth

/-- Row `index`: the values of the variables, then the value of the formula. -/
def row (vars : List String) (formula : Formula) (index : Nat) : Except EvalError (List Bool) := do
  let values := bits index vars.length
  return values ++ [← formula.eval (.ofList (vars.zip values))]

/-- All rows, in the order of their numbers; if rows fail, the first of these decides the error. -/
def rowsOf (parallel : Bool) (vars : List String) (formula : Formula) : Except EvalError (List (List Bool)) :=
  let indices := List.range (valuationCount vars.length)
  if parallel then (indices.map fun i => Task.spawn fun _ => row vars formula i).mapM Task.get
  else indices.mapM (row vars formula)

/-- The truth table of a statement, whose variables are the names in its text. -/
def ofStatement (s : Statement) (options : Options) : Except EvalError Table := do
  let vars := namesIn s.source.toList
  if vars.length > options.limit then throw (.tooManyVariables vars.length options.limit)
  return { vars, expression := s.source, rows := ← rowsOf options.parallel vars s.formula }

/-- The truth table of the statement that the text makes. -/
def ofText (text : String) (options : Options) : Except EvalError Table :=
  match Statement.parse text with
  | .error e => .error (.syntactic e)
  | .ok s => ofStatement s options

/-! ### Reading off -/

/-- The labels over the columns. -/
def header (table : Table) : List Cell := (table.vars ++ [table.expression]).map .label

/-- The number of rows, with the heading. -/
def numRows (table : Table) : Nat := table.rows.length + 1

/-- The rows in which the formula has the value `result`. -/
def models (table : Table) (result : Bool) : List (List Bool) :=
  table.rows.filter fun row => row.getLast? == some result

def isTautology (table : Table) : Bool := (table.models false).isEmpty

def isContradiction (table : Table) : Bool := (table.models true).isEmpty

end Table

/-- The truth value of the formula that the text makes. -/
def evaluate (text : String) (b : Valuation) : Except EvalError Bool :=
  match Statement.parse text with
  | .error e => .error (.syntactic e)
  | .ok s => s.formula.eval b

end Propositional
