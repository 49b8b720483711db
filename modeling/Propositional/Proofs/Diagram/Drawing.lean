import Propositional.Diagram

/-! The graph that the loop draws. A formula on the stack is drawn with all its operands before the next one, so its nodes
    have consecutive numbers, in preorder. -/

namespace Propositional

/-! ### The nodes and edges of a formula -/

namespace Formula

/-- The edges from each node to its operands, in preorder, when the node at the top has the number `id`. -/
def edges : Formula → Nat → List Edge
  | .var _, _ => []
  | .not f, id => ⟨id, "", id + 1⟩ :: f.edges (id + 1)
  | .and l r, id => ⟨id, "L", id + 1⟩ :: l.edges (id + 1) ++ ⟨id, "R", id + 1 + l.size⟩ :: r.edges (id + 1 + l.size)
  | .or l r, id => ⟨id, "L", id + 1⟩ :: l.edges (id + 1) ++ ⟨id, "R", id + 1 + l.size⟩ :: r.edges (id + 1 + l.size)
  | .group f, id => ⟨id, "", id + 1⟩ :: f.edges (id + 1)

theorem preorderOnto_eq (f : Formula) (rest : List Node) : f.preorderOnto rest = f.preorder ++ rest := by
  induction f generalizing rest with
  | var v => rfl
  | not f ih | group f ih => exact congrArg (_ :: ·) (ih rest)
  | and l r ihl ihr | or l r ihl ihr =>
    have honto : l.preorderOnto (r.preorderOnto rest) = l.preorderOnto r.preorder ++ rest := by
      rw [ihl, ihr, ihl r.preorder, List.append_assoc]
    exact congrArg (_ :: ·) honto

theorem preorder_and (l r : Formula) : (and l r).preorder = .and :: (l.preorder ++ r.preorder) :=
  congrArg (_ :: ·) (l.preorderOnto_eq r.preorder)

theorem preorder_or (l r : Formula) : (or l r).preorder = .or :: (l.preorder ++ r.preorder) :=
  congrArg (_ :: ·) (l.preorderOnto_eq r.preorder)

theorem preorder_not (f : Formula) : (not f).preorder = .not :: f.preorder := rfl

theorem preorder_group (f : Formula) : (group f).preorder = .group :: f.preorder := rfl

theorem length_preorder (f : Formula) : f.preorder.length = f.size := by
  induction f with
  | var v => rfl
  | not f ih | group f ih => simp only [preorder_not, preorder_group, List.length_cons, size, ih]; omega
  | and l r ihl ihr | or l r ihl ihr =>
    simp only [preorder_and, preorder_or, List.length_cons, List.length_append, size, ihl, ihr]
    omega

/-- Each node but the one at the top has one edge into it. -/
theorem length_edges (f : Formula) (id : Nat) : (f.edges id).length + 1 = f.size := by
  induction f generalizing id with
  | var v => rfl
  | not f ih | group f ih => simp only [edges, List.length_cons, size, ih]; omega
  | and l r ihl ihr | or l r ihl ihr =>
    have hl := ihl (id + 1)
    have hr := ihr (id + 1 + l.size)
    simp only [edges, List.length_append, List.length_cons, size]
    omega

end Formula

namespace Diagram

/-- The edge into the node with the number `id`, if it is an operand. -/
def Pending.edge (p : Pending) (id : Nat) : List Edge := (p.parent.map fun parent => ⟨parent, p.label, id⟩).toList

theorem Pending.edge_some (f : Formula) (parent : Nat) (label : String) (id : Nat) :
    Pending.edge ⟨f, some parent, label⟩ id = [⟨parent, label, id⟩] := rfl

/-- One round of the loop. -/
theorem Drawing.run_step (p : Pending) (pending : List Pending) (labels : Array String) (edges : Array Edge) :
    Drawing.run ⟨p :: pending, labels, edges⟩ =
      Drawing.run ⟨operands labels.size p.formula ++ pending, labels ++ [p.formula.root.label].toArray,
        edges ++ (p.edge labels.size).toArray⟩ := by
  obtain ⟨f, parent, label⟩ := p
  rw [Drawing.run]
  cases parent <;> simp [Drawing.step, Pending.edge]

/-- A formula on the stack is drawn as a whole before the next one. -/
theorem Drawing.run_cons (p : Pending) (pending : List Pending) (labels : Array String) (edges : Array Edge) :
    Drawing.run ⟨p :: pending, labels, edges⟩ =
      Drawing.run ⟨pending, labels ++ (p.formula.preorder.map Node.label).toArray,
        edges ++ (p.edge labels.size ++ p.formula.edges labels.size).toArray⟩ := by
  obtain ⟨f, parent, label⟩ := p
  induction f generalizing parent label pending labels edges with
  | var v =>
    rw [Drawing.run_step]
    simp [operands, Formula.preorder, Formula.preorderOnto, Formula.root, Formula.edges]
  | not f ih | group f ih =>
    rw [Drawing.run_step, operands, List.singleton_append, ih]
    simp [Formula.preorder_not, Formula.preorder_group, Formula.root, Formula.edges, Pending.edge_some]
  | and l r ihl ihr | or l r ihl ihr =>
    rw [Drawing.run_step, operands, List.cons_append, List.singleton_append, ihl, ihr]
    simp [Formula.preorder_and, Formula.preorder_or, Formula.root, Formula.edges, Pending.edge_some,
      Formula.length_preorder, Nat.add_assoc, Nat.add_comm]

/-- The nodes are numbered in preorder, and the edges are those of the formula. -/
theorem ofFormula_eq (f : Formula) : ofFormula f = ⟨f.preorder.map Node.label, f.edges 0⟩ := by
  rw [ofFormula, Drawing.start, Drawing.run_cons, Drawing.run]
  simp [Pending.edge]

end Diagram

end Propositional
