import Mathlib.Data.List.Infix
import Propositional.Proofs.Diagram.Labels
import Propositional.Proofs.Text.Separated

/-! The lines of a graph in the DOT language. Each node and each edge has one line, from which it is read again, and no
    label can make a line end or another one begin. -/

namespace Propositional.Diagram

/-! ### Single lines -/

theorem isPrefixOf?_append (s t : List Char) : s.isPrefixOf? (s ++ t) = some t :=
  List.isPrefixOf?_eq_some_iff_append_eq.mpr rfl

namespace Entry

/-- The attribute that gives the label. -/
def labelText (label : String) : List Char := labelOpen ++ (label.toList.flatMap labelChar ++ labelClose)

/-- The line of the entry, without its end. -/
def text : Entry → List Char
  | .node id label => nodeMark ++ (Nat.toDigits 10 id ++ labelText label)
  | .edge e =>
    nodeMark ++ (Nat.toDigits 10 e.source ++ (arrowMark ++ (Nat.toDigits 10 e.target ++ labelText e.label)))

theorem readLabelled?_labelText (label : String) : readLabelled? (labelText label) = some label := by
  have hlabel : readLabel (label.toList.flatMap labelChar ++ labelClose) = (label.toList, labelClose) :=
    readLabel_written label.toList "];".toList
  rw [readLabelled?, labelText, isPrefixOf?_append]
  simp [hlabel]

theorem readNumber_labelText (n : Nat) (label : String) :
    readNumber (Nat.toDigits 10 n ++ labelText label) = (n, labelText label) := by
  refine readNumber_toDigits n fun c hc => ?_
  cases hc
  rfl

theorem readNumber_arrowMark (n : Nat) (s : List Char) :
    readNumber (Nat.toDigits 10 n ++ (arrowMark ++ s)) = (n, arrowMark ++ s) := by
  refine readNumber_toDigits n fun c hc => ?_
  cases hc
  rfl

/-- The entry is read from its line. -/
theorem read?_text (entry : Entry) : read? entry.text = some entry := by
  cases entry with
  | node id label =>
    have hnode : arrowMark.isPrefixOf? (labelText label) = none := rfl
    simp [read?, text, isPrefixOf?_append, readNumber_labelText, hnode, readLabelled?_labelText]
  | edge e =>
    simp [read?, text, isPrefixOf?_append, readNumber_arrowMark, readNumber_labelText, readLabelled?_labelText]

theorem lineFeed_notMem_text (entry : Entry) : '\n' ∉ entry.text := by
  have hmarks : '\n' ∉ nodeMark ∧ '\n' ∉ arrowMark ∧ '\n' ∉ labelOpen ∧ '\n' ∉ labelClose := by decide
  have hdigits : ∀ n, '\n' ∉ Nat.toDigits 10 n := fun n => notMem_toDigits (by decide) (by decide) rfl
  cases entry <;> simp [text, labelText, hmarks, hdigits, lineFeed_notMem_labelChar]

example : (node 1 "Var \"];\n").text = "    n_1[label=\"Var \\\"];\\n\"];".toList := by decide +kernel

end Entry

/-! ### The whole text -/

/-- What the lines between the first one and the last one say. -/
def entries (d : Diagram) : List Entry :=
  (d.labels.zipIdx.map fun node => .node node.2 node.1) ++ d.edges.map .edge

theorem toList_labelled (label : String) : (labelled label).toList = Entry.labelText label ++ ['\n'] := by
  have hclose : "\"];\n".toList = Entry.labelClose ++ ['\n'] := rfl
  simp only [labelled, String.toList_append, String.toList_ofList, hclose, Entry.labelText, List.append_assoc]
  rfl

theorem toList_nodeLine (id : Nat) (label : String) :
    (nodeLine id label).toList = (Entry.node id label).text ++ ['\n'] := by
  rw [nodeLine, Nat.toString_eq_ofList_toDigits]
  simp only [toString, String.toList_append, String.toList_ofList, toList_labelled, Entry.text, List.append_assoc]
  rfl

theorem toList_edgeLine (e : Edge) : (edgeLine e).toList = (Entry.edge e).text ++ ['\n'] := by
  rw [edgeLine, Nat.toString_eq_ofList_toDigits, Nat.toString_eq_ofList_toDigits]
  simp only [toString, String.toList_append, String.toList_ofList, toList_labelled, Entry.text, List.append_assoc]
  rfl

theorem toList_dot (d : Diagram) :
    d.dot.toList = (firstLine :: d.entries.map Entry.text ++ [lastLine]).flatMap (· ++ ['\n']) := by
  have hnodes : (d.labels.mapIdx nodeLine).flatMap String.toList =
      d.labels.zipIdx.flatMap fun node => (Entry.node node.2 node.1).text ++ ['\n'] := by
    rw [List.mapIdx_eq_zipIdx_map, List.flatMap_map]
    exact List.flatMap_congr fun node _ => toList_nodeLine node.2 node.1
  have hedges : (d.edges.map edgeLine).flatMap String.toList =
      d.edges.flatMap fun e => (Entry.edge e).text ++ ['\n'] := by
    rw [List.flatMap_map]
    exact List.flatMap_congr fun e _ => toList_edgeLine e
  have hdot : d.dot = "digraph parse_tree \x7b\n" ++ String.join (d.labels.mapIdx nodeLine) ++
      String.join (d.edges.map edgeLine) ++ "\x7d\n" := rfl
  have hfirst : "digraph parse_tree \x7b\n".toList = firstLine ++ ['\n'] := rfl
  rw [hdot, String.toList_append, String.toList_append, String.toList_append, String.toList_join, String.toList_join,
    hfirst, hnodes, hedges, entries]
  simp only [List.map_append, List.map_map, List.flatMap_append, List.flatMap_map, List.flatMap_cons, List.append_assoc,
    List.cons_append, List.flatMap_nil]
  rfl

/-- The lines of a graph: the first one, a line for each node and each edge, and the last one. -/
theorem splitOn_dot (d : Diagram) :
    d.dot.toList.splitOn '\n' = firstLine :: d.entries.map Entry.text ++ [lastLine, []] := by
  rw [toList_dot, ← List.append_nil (List.flatMap _ _), Text.splitOn_flatMap_append]
  · simp
  · intro line hline
    simp only [List.mem_append, List.mem_cons, List.mem_map, List.not_mem_nil, or_false] at hline
    obtain (rfl | ⟨entry, -, rfl⟩) | rfl := hline
    · decide
    · exact entry.lineFeed_notMem_text
    · decide

end Propositional.Diagram
