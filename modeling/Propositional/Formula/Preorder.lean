import Propositional.Formula

/-! A formula as the list of its nodes, each before its operands, the left operand before the right one. The list
    determines the formula. -/

namespace Propositional

inductive Node where
  | var (v : String)
  | not
  | and
  | or
  | group
deriving DecidableEq, Repr

namespace Formula

/-- The nodes of the formula in preorder, then `rest`. -/
def preorderOnto : Formula → List Node → List Node
  | .var v, rest => .var v :: rest
  | .not f, rest => .not :: f.preorderOnto rest
  | .and l r, rest => .and :: l.preorderOnto (r.preorderOnto rest)
  | .or l r, rest => .or :: l.preorderOnto (r.preorderOnto rest)
  | .group f, rest => .group :: f.preorderOnto rest

def preorder (f : Formula) : List Node := f.preorderOnto []

/-- A node on top of the formulas that follow it, the first of which are its operands. -/
def graft : Node → List Formula → Option (List Formula)
  | .var v, fs => some (.var v :: fs)
  | .not, f :: fs => some (.not f :: fs)
  | .group, f :: fs => some (.group f :: fs)
  | .and, l :: r :: fs => some (.and l r :: fs)
  | .or, l :: r :: fs => some (.or l r :: fs)
  | _, _ => none

/-- The formulas that a list of nodes puts one after another. -/
def forest (nodes : List Node) : Option (List Formula) :=
  nodes.foldr (fun node fs => fs.bind (graft node)) (some [])

/-- The formula with the given preorder, if there is one. -/
def ofPreorder? (nodes : List Node) : Option Formula :=
  match forest nodes with
  | some [f] => some f
  | _ => none

theorem forest_preorderOnto (f : Formula) (rest : List Node) :
    forest (f.preorderOnto rest) = (forest rest).map (f :: ·) := by
  have hcons (node : Node) (rest : List Node) : forest (node :: rest) = (forest rest).bind (graft node) := rfl
  induction f generalizing rest with
  | var v => cases h : forest rest <;> simp [preorderOnto, hcons, h, graft]
  | not f ih => cases h : forest rest <;> simp [preorderOnto, hcons, ih, h, graft]
  | and l r ihl ihr => cases h : forest rest <;> simp [preorderOnto, hcons, ihl, ihr, h, graft]
  | or l r ihl ihr => cases h : forest rest <;> simp [preorderOnto, hcons, ihl, ihr, h, graft]
  | group f ih => cases h : forest rest <;> simp [preorderOnto, hcons, ih, h, graft]

/-- The preorder of a formula determines it. -/
theorem ofPreorder?_preorder (f : Formula) : ofPreorder? f.preorder = some f := by
  rw [ofPreorder?, preorder, forest_preorderOnto]
  rfl

end Formula

end Propositional
