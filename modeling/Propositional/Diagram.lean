import Propositional.Formula.Preorder

/-! A formula as a directed graph, and the graph in the DOT language. A loop draws the formulas on a stack and gives each
    the next number. -/

namespace Propositional

structure Edge where
  source : Nat
  label : String
  target : Nat
deriving DecidableEq, Repr

structure Diagram where
  labels : List String
  edges : List Edge
deriving DecidableEq, Repr

namespace Node

def label : Node → String
  | .var v => s!"Var {v}"
  | .not => "Not"
  | .and => "And"
  | .or => "Or"
  | .group => "Group"

end Node

namespace Formula

/-- The node at the top of the formula. -/
def root : Formula → Node
  | .var v => .var v
  | .not _ => .not
  | .and _ _ => .and
  | .or _ _ => .or
  | .group _ => .group

end Formula

namespace Diagram

/-! ### Drawing a formula -/

/-- A formula without a number so far, with the number of the formula that it is an operand of, unless it is no operand,
    and the label of the edge between the two. -/
structure Pending where
  formula : Formula
  parent : Option Nat
  label : String
deriving DecidableEq, Repr

/-- The operands of the formula with the number `id`, from left to right. -/
def operands (id : Nat) : Formula → List Pending
  | .var _ => []
  | .not f => [⟨f, some id, ""⟩]
  | .and l r => [⟨l, some id, "L"⟩, ⟨r, some id, "R"⟩]
  | .or l r => [⟨l, some id, "L"⟩, ⟨r, some id, "R"⟩]
  | .group f => [⟨f, some id, ""⟩]

/-- A graph in the making: the formulas that wait for their number, next one first, and what is drawn already. -/
structure Drawing where
  pending : List Pending
  labels : Array String
  edges : Array Edge
deriving DecidableEq, Repr

namespace Drawing

def start (f : Formula) : Drawing := ⟨[⟨f, none, ""⟩], #[], #[]⟩

/-- The drawing with a formula taken from the stack and drawn. It has the next number, and its operands come next. -/
def step (p : Pending) (d : Drawing) : Drawing where
  pending := operands d.labels.size p.formula ++ d.pending
  labels := d.labels.push p.formula.root.label
  edges :=
    match p.parent with
    | some parent => d.edges.push ⟨parent, p.label, d.labels.size⟩
    | none => d.edges

/-- The number of nodes that are still to be drawn. -/
def effort (d : Drawing) : Nat := d.pending.foldr (fun p n => p.formula.size + n) 0

theorem effort_step (p : Pending) (d : Drawing) : (step p d).effort + 1 = p.formula.size + d.effort := by
  obtain ⟨f, parent, label⟩ := p
  cases f <;> simp [step, effort, operands, Formula.size] <;> omega

/-- The graph when nothing is left to be drawn. -/
def run : Drawing → Diagram
  | ⟨[], labels, edges⟩ => ⟨labels.toList, edges.toList⟩
  | ⟨p :: pending, labels, edges⟩ =>
    have : (step p ⟨pending, labels, edges⟩).effort < effort ⟨p :: pending, labels, edges⟩ :=
      Nat.lt_of_succ_le (Nat.le_of_eq (effort_step p ⟨pending, labels, edges⟩))
    run (step p ⟨pending, labels, edges⟩)
termination_by d => d.effort

end Drawing

def ofFormula (f : Formula) : Diagram := (Drawing.start f).run

/-! ### The DOT language -/

/-- How a character stands in a label. -/
def labelChar (c : Char) : List Char :=
  match c with
  | '\t' => ['\\', 't']
  | '\r' => ['\\', 'r']
  | '\n' => ['\\', 'n']
  | '\'' => ['\\', '\'']
  | '"' => ['\\', '"']
  | '\\' => ['\\', '\\']
  | c =>
    if 0x20 ≤ c.toNat && c.toNat ≤ 0x7e then [c]
    else '\\' :: 'u' :: '\x7b' :: Nat.toDigits 16 c.toNat ++ ['\x7d']

/-- The attribute that gives a node or an edge its label, and the end of the line. -/
def labelled (label : String) : String :=
  "[label=\"" ++ String.ofList (label.toList.flatMap labelChar) ++ "\"];\n"

def nodeLine (id : Nat) (label : String) : String := s!"    n_{id}" ++ labelled label

def edgeLine (e : Edge) : String := s!"    n_{e.source} -> n_{e.target}" ++ labelled e.label

/-- The graph in the DOT language: its nodes, then its edges. -/
def dot (d : Diagram) : String :=
  "digraph parse_tree \x7b\n" ++ String.join (d.labels.mapIdx nodeLine) ++ String.join (d.edges.map edgeLine) ++
    "\x7d\n"

end Diagram

end Propositional
