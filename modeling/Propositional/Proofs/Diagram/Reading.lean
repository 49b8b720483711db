import Propositional.Proofs.Diagram.Drawing
import Propositional.Proofs.Diagram.Lines

/-! A formula is read again from its graph in the DOT language. The graph has a line for each node of the formula and for
    each step from a node to an operand, and nothing else. -/

namespace Propositional
open Diagram

theorem Node.ofLabel?_label (node : Node) : ofLabel? node.label = some node := by
  cases node with
  | var v =>
    have hlabel : (label (.var v)).toList = "Var ".toList ++ v.toList := by simp [label, toString]
    have hne : ∀ s : String, s.toList.head? ≠ some 'V' → label (.var v) ≠ s := by
      rintro s hs rfl
      exact hs (by rw [hlabel]; rfl)
    rw [ofLabel?]
    · rw [hlabel, isPrefixOf?_append, Option.map_some, String.ofList_toList]
    all_goals exact hne _ (by decide)
  | _ => rfl

namespace Diagram

theorem mapM_ofLabel? (nodes : List Node) : (nodes.map Node.label).mapM Node.ofLabel? = some nodes := by
  induction nodes with
  | nil => rfl
  | cons node nodes ih => simp [Node.ofLabel?_label, ih]

theorem readEntries?_cons {line : List Char} {entry : Entry} (h : Entry.read? line = some entry)
    (lines : List (List Char)) : readEntries? (line :: lines) = (readEntries? lines).map (entry :: ·) := by
  rw [readEntries?, h]
  · cases readEntries? lines <;> rfl
  · rintro rfl -
    cases h

theorem readEntries?_lines (entries : List Entry) :
    readEntries? (entries.map Entry.text ++ [lastLine, []]) = some entries := by
  induction entries with
  | nil => rfl
  | cons entry entries ih =>
    rw [List.map_cons, List.cons_append, readEntries?_cons entry.read?_text, ih, Option.map_some]

/-- A graph is read from its text. -/
theorem read?_dot (d : Diagram) : read? d.dot.toList = some d := by
  have hnodes : d.entries.filterMap Entry.node? = d.labels.zipIdx.map fun node => (node.2, node.1) := by
    simp [entries, Entry.node?, Function.comp_def]
  have hedges : d.entries.filterMap Entry.edge? = d.edges := by
    simp [entries, Entry.edge?, Function.comp_def]
  have hids : d.labels.zipIdx.map (·.2) = List.range d.labels.length := by
    rw [List.range_eq_range']
    exact List.zipIdx_map_snd 0 d.labels
  rw [read?, splitOn_dot]
  simp [readEntries?_lines, hnodes, hedges, hids, Function.comp_def]

/-- A formula is read from the text of its graph. -/
theorem formula?_dot (f : Formula) : formula? (ofFormula f).dot.toList = some f := by
  have hnodes : (ofFormula f).labels.mapM Node.ofLabel? = some f.preorder := by rw [ofFormula_eq, mapM_ofLabel?]
  simp [formula?, read?_dot, hnodes, Formula.ofPreorder?_preorder]

/-- No two formulas have graphs with the same text. Between its first line and its last one, the text has one line for
    each node of the formula and one for each edge, and whatever a label holds, the line is read as this node or edge. -/
theorem dot_lossless :
    (Function.Injective fun f : Formula => (ofFormula f).dot) ∧
      (∀ f : Formula,
        (ofFormula f).dot.toList.splitOn '\n' =
            firstLine ::
              ((f.preorder.mapIdx fun id node => Entry.node id node.label) ++ (f.edges 0).map Entry.edge).map
                Entry.text ++
              [lastLine, []] ∧
          f.preorder.length = f.size ∧ (f.edges 0).length + 1 = f.size) ∧
      ∀ entry : Entry, Entry.read? entry.text = some entry := by
  refine ⟨?_, fun f => ⟨?_, f.length_preorder, f.length_edges 0⟩, Entry.read?_text⟩
  · intro f g h
    have hformula : formula? (ofFormula f).dot.toList = formula? (ofFormula g).dot.toList :=
      congrArg (fun text : String => formula? text.toList) h
    rw [formula?_dot, formula?_dot] at hformula
    exact Option.some.inj hformula
  · have hnodes : (f.preorder.map Node.label).zipIdx.map (fun node => Entry.node node.2 node.1) =
        f.preorder.mapIdx fun id node => Entry.node id node.label := by
      rw [List.mapIdx_eq_zipIdx_map, List.zipIdx_map, List.map_map]
      rfl
    rw [splitOn_dot, entries, ofFormula_eq, hnodes]

/-- A name that is made to look like another node stays a name. -/
theorem dot_lossless_crafted :
    (ofFormula (.var "a\"];\n    n_1[label=\"Var b")).dot ≠ (ofFormula (.and (.var "a") (.var "b"))).dot ∧
      ((ofFormula (.var "a\"];\n    n_1[label=\"Var b")).dot.toList.splitOn '\n').length = 4 := by
  refine ⟨dot_lossless.1.ne (by decide), ?_⟩
  rw [(dot_lossless.2.1 _).1]
  rfl

end Diagram

end Propositional
