import Propositional.Text.Csv

/-! Reading comma-separated values. A field goes up to a comma or to the end of its line; one that begins with a
    double quote goes up to the quote that closes it, and two quotes inside it stand for one. A field without quotes
    has neither a quote nor a carriage return in it, and behind a closing quote the field ends. An empty line is no
    record, and a text ends with the end of a line. -/

namespace Propositional.Text.Csv

/-- Where the reader stands: at the beginning of a field, in a field without quotes, in one with quotes, or behind a
    quote in the latter, which closes it unless a second quote follows. -/
inductive Place where
  | beginning
  | plain
  | quoted
  | behindQuote
deriving DecidableEq, Repr

/-- What has been read: the records, the fields of the record that is not at its end, and the field that is not. -/
structure Reader where
  records : List Record := []
  fields : Record := []
  field : List Char := []
  place : Place := .beginning
deriving DecidableEq, Repr

namespace Reader

def endField (r : Reader) : Reader := { records := r.records, fields := r.fields ++ [r.field] }

def endRecord (r : Reader) : Reader := { records := r.records ++ [r.fields ++ [r.field]] }

/-- Nothing of a record has been read. -/
def isBetweenRecords (r : Reader) : Bool := r.place = .beginning && r.fields.isEmpty

/-- The place after one more character, unless it cannot stand there. -/
def step (r : Reader) (c : Char) : Option Reader :=
  match r.place, c with
  | .quoted, '"' => some { r with place := .behindQuote }
  | .quoted, c => some { r with field := r.field ++ [c] }
  | .behindQuote, '"' => some { r with field := r.field ++ ['"'], place := .quoted }
  | .beginning, '"' => some { r with place := .quoted }
  | _, ',' => some r.endField
  | _, '\n' => some (if r.isBetweenRecords then r else r.endRecord)
  | .behindQuote, _ => none
  | _, '"' => none
  | _, '\r' => none
  | _, c => some { r with field := r.field ++ [c], place := .plain }

def run (r : Reader) (s : List Char) : Option Reader := s.foldlM step r

end Reader

/-- The records that the text holds. -/
def read (text : List Char) : Option (List Record) :=
  match Reader.run {} text with
  | some r => if r.isBetweenRecords then some r.records else none
  | none => none

end Propositional.Text.Csv
