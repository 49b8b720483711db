import Propositional.Cell
import Propositional.Command.Directory
import Propositional.Command.Options
import Propositional.Command.Run
import Propositional.Diagram
import Propositional.Enumeration
import Propositional.Fault
import Propositional.Formula
import Propositional.Formula.Evaluation
import Propositional.Formula.Grammar
import Propositional.Formula.Parser
import Propositional.Formula.Preorder
import Propositional.Main
import Propositional.Proofs.Enumeration
import Propositional.Proofs.Formula.RoundTrip
import Propositional.Proofs.Formula.Shape
import Propositional.Proofs.Grammar.Acceptance
import Propositional.Proofs.Grammar.Nesting
import Propositional.Proofs.Grammar.Reader
import Propositional.Proofs.Names
import Propositional.Proofs.Occurrences
import Propositional.Proofs.Table.Building
import Propositional.Proofs.Token.Scans
import Propositional.Proofs.Valuation
import Propositional.Statement
import Propositional.Table
import Propositional.Table.Layout
import Propositional.Text.Alphabetic
import Propositional.Text.Blank
import Propositional.Text.Csv
import Propositional.Text.Padding
import Propositional.Text.Position
import Propositional.Text.Quoted
import Propositional.Text.Ranges
import Propositional.Text.Search
import Propositional.Text.WordRanges
import Propositional.Token
import Propositional.Token.Lexer
import Propositional.Valuation
import Propositional.Valuation.Reading
import Propositional.Proofs.Grammar.Viable
import Propositional.Proofs.Grammar.Rejection
import Propositional.Proofs.Command.Files
import Propositional.Proofs.Statement.Places
import Propositional.Proofs.Table.Verdict
import Propositional.Proofs.Text.Csv
import Propositional.Proofs.Statement.Reading
import Propositional.Proofs.Text.Trim
import Propositional.Proofs.Valuation.Reading
import Propositional.Proofs.Command.Arguments
import Propositional.Proofs.Command.Channels
import Propositional.Proofs.Table.Assignments
import Propositional.Proofs.Formula.Evaluation
import Propositional.Proofs.Collecting
import Propositional.Proofs.Table.Orders
import Propositional.Proofs.Token.Coverage
import Propositional.Diagram.Reader
import Propositional.Proofs.Diagram.Labels
import Propositional.Proofs.Diagram.Lines
import Propositional.Proofs.Diagram.Reading
import Propositional.Proofs.Enumeration.Requests
import Propositional.Proofs.Valuation.Pieces
import Propositional.Proofs.Table.Columns
import Propositional.Proofs.Table.Lines
import Propositional.Proofs.Text.Words
import Propositional.Proofs.Token.Spacing
import Propositional.Proofs.Statement.Spacing
import Propositional.Proofs.Statement.Composition
import Propositional.Proofs.Text.Positions
import Propositional.Proofs.Statement.Positions
import Propositional.Proofs.Formula.Names
import Propositional.Proofs.Diagram.Paths
import Propositional.Proofs.Diagram.Numbering
import Propositional.Proofs.Statement.Expectations
import Propositional.Proofs.Table.Filters
import Propositional.Proofs.Valuation.Writes
import Propositional.Command.Machine
import Propositional.Proofs.Command.Runs
