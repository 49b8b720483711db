import Propositional.Diagram

/-! Reading a graph in the DOT language, with one line for each node and each edge, and the formula that it shows. A
    label goes up to the first quote without a backslash in front of it; a backslash goes together with the character
    behind it. -/

namespace Propositional

/-- The node that has the label. -/
def Node.ofLabel? : String → Option Node
  | "Not" => some .not
  | "And" => some .and
  | "Or" => some .or
  | "Group" => some .group
  | label => ("Var ".toList.isPrefixOf? label.toList).map fun v => .var (String.ofList v)

namespace Diagram

/-! ### Following the edges -/

/-- The operand of the node with the number `id` to which the edge with the label leads. The formulas are those of the nodes
    behind it. -/
def operandBehind? (edges : List Edge) (id : Nat) (formulas : List (Option Formula)) (label : String) :
    Option Formula := do
  let e ← edges.find? fun e => e.source == id && e.label == label
  if id < e.target then ← formulas[e.target - (id + 1)]? else none

/-- The formula with the node at the top and the operands that the edges with the labels give. -/
def build? (operand? : String → Option Formula) : Node → Option Formula
  | .var v => some (.var v)
  | .not => (operand? "").map .not
  | .and => do return .and (← operand? "L") (← operand? "R")
  | .or => do return .or (← operand? "L") (← operand? "R")
  | .group => (operand? "").map .group

/-- The formulas that the nodes show whose numbers start at `id`. Edges lead from a node to one behind it. -/
def shownFrom (edges : List Edge) : Nat → List String → List (Option Formula)
  | _, [] => []
  | id, label :: labels =>
    let formulas := shownFrom edges (id + 1) labels
    (Node.ofLabel? label).bind (build? (operandBehind? edges id formulas)) :: formulas

/-- The formula that the graph shows: that of the first node. -/
def shown? (d : Diagram) : Option Formula := (shownFrom d.edges 0 d.labels).head?.join

/-! ### Numbers and labels -/

def digitValue (c : Char) : Nat := if c.isDigit then c.toNat - '0'.toNat else c.toNat - 'a'.toNat + 10

/-- The number that the digits are to the base. -/
def ofDigits (base : Nat) (digits : List Char) : Nat := digits.foldl (fun n c => base * n + digitValue c) 0

/-- The number in front of a text, in decimal digits, and what follows it. -/
def readNumber (s : List Char) : Nat × List Char := (ofDigits 10 (s.takeWhile Char.isDigit), s.dropWhile Char.isDigit)

/-- The first character of a label and what follows it, unless the label ends here. -/
def readChar? : List Char → Option (Char × List Char)
  | [] => none
  | '"' :: _ => none
  | '\\' :: 't' :: s => some ('\t', s)
  | '\\' :: 'r' :: s => some ('\r', s)
  | '\\' :: 'n' :: s => some ('\n', s)
  | '\\' :: 'u' :: '\x7b' :: s =>
    some (.ofNat (ofDigits 16 (s.takeWhile (· ≠ '\x7d'))), (s.dropWhile (· ≠ '\x7d')).tail)
  | '\\' :: c :: s => some (c, s)
  | c :: s => some (c, s)

theorem length_lt_of_readChar? {s r : List Char} {c : Char} (h : readChar? s = some (c, r)) :
    r.length < s.length := by
  revert h
  fun_cases readChar? s <;> intro h <;> cases h
  case case6 s =>
    have hdrop := (List.dropWhile_sublist (l := s) (· ≠ '\x7d')).length_le
    simp only [List.length_cons, List.length_tail]
    omega
  all_goals
    simp only [List.length_cons]
    omega

/-- The label in front of a text and what follows it. -/
def readLabel (s : List Char) : List Char × List Char :=
  match h : readChar? s with
  | none => ([], s)
  | some (c, r) =>
    have := length_lt_of_readChar? h
    let (label, rest) := readLabel r
    (c :: label, rest)
termination_by s.length

/-! ### Lines -/

/-- What a line says of the graph. -/
inductive Entry where
  | node (id : Nat) (label : String)
  | edge (e : Edge)
deriving DecidableEq, Repr

namespace Entry

def node? : Entry → Option (Nat × String)
  | .node id label => some (id, label)
  | .edge _ => none

def edge? : Entry → Option Edge
  | .node _ _ => none
  | .edge e => some e

/-- What stands in front of the number of a node, at the beginning of a line and behind its first number. -/
def nodeMark : List Char := "    n_".toList

def arrowMark : List Char := " -> n_".toList

/-- What stands around a label. -/
def labelOpen : List Char := "[label=\"".toList

def labelClose : List Char := "\"];".toList

/-- The label that the attribute gives; nothing may follow the attribute. -/
def readLabelled? (s : List Char) : Option String := do
  let (label, rest) := readLabel (← labelOpen.isPrefixOf? s)
  if rest = labelClose then some (String.ofList label) else none

/-- The entry that the line holds. -/
def read? (line : List Char) : Option Entry := do
  let (id, rest) := readNumber (← nodeMark.isPrefixOf? line)
  match arrowMark.isPrefixOf? rest with
  | none => return .node id (← readLabelled? rest)
  | some rest =>
    let (target, rest) := readNumber rest
    return .edge ⟨id, ← readLabelled? rest, target⟩

end Entry

/-- The first line of a graph. -/
def firstLine : List Char := "digraph parse_tree \x7b".toList

/-- The last line of a graph. -/
def lastLine : List Char := ['\x7d']

/-- The entries up to the last line, behind which nothing follows. -/
def readEntries? : List (List Char) → Option (List Entry)
  | [] => none
  | [['\x7d'], []] => some []
  | line :: lines => do return (← Entry.read? line) :: (← readEntries? lines)

/-! ### Texts -/

/-- The graph that the text holds; its nodes are numbered in their order. -/
def read? (text : List Char) : Option Diagram := do
  let lines := text.splitOn '\n'
  let entries ← if lines.head? = some firstLine then readEntries? lines.tail else none
  let nodes := entries.filterMap Entry.node?
  if nodes.map (·.1) = List.range nodes.length then some ⟨nodes.map (·.2), entries.filterMap Entry.edge?⟩ else none

/-- The formula whose graph the text holds. -/
def formula? (text : List Char) : Option Formula := do
  let d ← read? text
  let f ← Formula.ofPreorder? (← d.labels.mapM Node.ofLabel?)
  if ofFormula f = d then some f else none

end Diagram

end Propositional
