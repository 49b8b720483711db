import Propositional.Table
import Propositional.Text.Blank
import Propositional.Text.Csv

/-! Printed tables: all rows, or those with one result, as aligned columns or as comma-separated values. -/

namespace Propositional
open Text

namespace Table

/-- Which rows are printed, and whether a truth value takes one letter. -/
structure Layout where
  filter : Option Bool := none
  compact : Bool := false
deriving DecidableEq, Repr

namespace Layout

def selects (layout : Layout) (row : List Bool) : Bool := layout.filter.isNone || row.getLast? == layout.filter

/-- The heading, then the selected rows. -/
def cells (layout : Layout) (table : Table) : List (List Cell) :=
  table.header :: (table.rows.filter layout.selects).map fun row => row.map .value

/-- The texts of the cells. -/
def records (layout : Layout) (table : Table) : List Csv.Record :=
  (layout.cells table).map fun row => row.map fun cell => (cell.render layout.compact).toList

/-! ### Aligned columns -/

/-- The width that every truth value fits into. -/
def valueWidth (layout : Layout) : Nat := if layout.compact then 1 else 5

/-- The width of each column: its label and every truth value fit. -/
def widths (layout : Layout) (table : Table) : List Nat :=
  table.header.map fun label => max label.short.length layout.valueWidth

/-- A record as one line; cells beyond the last column are left out. -/
def line (widths : List Nat) (record : Csv.Record) : Except Field.OutOfRange (List Char) := do
  let fields ← (widths.zip record).mapM fun column => Field.set { width := column.1 } column.2
  return trimEnd (" | ".toList.intercalate fields) ++ ['\n']

/-- The table as columns of equal width. The heading has a field of every width, so if there is no field of one of
    them, there is no line in front of the one that fails. -/
def text (layout : Layout) (table : Table) : Except Field.OutOfRange String := do
  let lines ← (layout.records table).mapM (line (layout.widths table))
  return String.ofList lines.flatten

/-! ### Comma-separated values -/

def csv (layout : Layout) (table : Table) : Except Csv.UnequalLengths String :=
  (Csv.write (layout.records table)).map String.ofList

end Layout

end Table

end Propositional
