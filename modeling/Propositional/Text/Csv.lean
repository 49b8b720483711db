/-! Comma-separated values. A field that holds a comma, a double quote or a line break stands between double
    quotes, a quote inside it written twice; a record ends with a line feed. A record of one empty field would be
    an empty line, so it is written as a pair of quotes. All records have the length of the first one. -/

namespace Propositional.Text.Csv

abbrev Record := List (List Char)

/-- The field has a character that would end it. -/
def needsQuotes (field : List Char) : Bool := field.any fun c => c = ',' || c = '"' || c = '\n' || c = '\r'

def quoteChar (c : Char) : List Char := if c = '"' then ['"', '"'] else [c]

def writeField (field : List Char) : List Char :=
  if needsQuotes field then '"' :: field.flatMap quoteChar ++ ['"'] else field

def writeFields (record : Record) : List Char := List.intercalate [','] (record.map writeField)

def writeRecord (record : Record) : List Char :=
  match writeFields record with
  | [] => ['"', '"', '\n']
  | line => line ++ ['\n']

/-- A record that is not as long as the first one, and what stands written when it is met: the records before it,
    and its own fields without an end of line. -/
structure UnequalLengths where
  found : Nat
  expected : Nat
  written : List Char
deriving DecidableEq, Repr

def UnequalLengths.message (e : UnequalLengths) : String :=
  s!"CSV error: found record with {e.found} fields, but the previous record has {e.expected} fields"

/-- The text of the records. -/
def write : List Record → Except UnequalLengths (List Char)
  | [] => .ok []
  | first :: records =>
    let equal := fun record : Record => record.length == first.length
    let text := (first :: records.takeWhile equal).flatMap writeRecord
    match records.dropWhile equal with
    | [] => .ok text
    | record :: _ => .error ⟨record.length, first.length, text ++ writeFields record⟩

end Propositional.Text.Csv
