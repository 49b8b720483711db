import Propositional.Diagram.Reader
import Propositional.Proofs.Diagram.Paths
import Propositional.Proofs.Diagram.Reading

/-! The numbers of the nodes. The graph has a node for each path of the formula, numbered in preorder, and behind the first
    one an edge into each node from the one above it. A graph with this numbering shows the formula: the edges lead to
    the operands, one after the other, and the labels say what is done with them. No other graph has it. -/

namespace Propositional

theorem Side.label_injective : Function.Injective Side.label := by
  intro side side'
  cases side <;> cases side' <;> decide

/-! ### The edges of a formula -/

namespace Formula

/-- The edge leads into the node with the path number `k + 1` from the node above it, when the first node has the number
    `id`. -/
def EdgeInto (paths : List (List Side)) (id k : Nat) (e : Edge) : Prop :=
  ∃ i path side, i ≤ k ∧ paths[i]? = some path ∧ paths[k + 1]? = some (path ++ [side]) ∧
    e = ⟨id + i, side.label, id + k + 1⟩

/-- The nodes of the operand at the side, the first of them `n` places behind the one that follows the top. -/
def Placed (f : Formula) (side : Side) (n : Nat) (paths : List (List Side)) : Prop :=
  ∀ i < f.size, paths[n + i + 1]? = f.paths[i]?.map (side :: ·)

section
variable {f : Formula} {paths : List (List Side)} {side : Side} {id k n : Nat} {e : Edge}

/-- The edge from the top to the operand. -/
theorem Placed.edgeInto_top (h : f.Placed side n paths) (htop : paths[0]? = some []) (id : Nat) :
    EdgeInto paths id n ⟨id, side.label, id + n + 1⟩ := by
  have hfirst := h 0 (f.length_edges 0 ▸ Nat.succ_pos _)
  rw [getElem?_zero_paths] at hfirst
  exact ⟨0, [], side, Nat.zero_le n, htop, hfirst, rfl⟩

/-- An edge between nodes of the operand. -/
theorem Placed.edgeInto_within (h : f.Placed side n paths) (he : EdgeInto f.paths (id + n + 1) k e) :
    EdgeInto paths id (n + k + 1) e := by
  obtain ⟨i, path, side', hi, hsource, htarget, rfl⟩ := he
  have hk : k + 1 < f.size := f.length_paths ▸ (List.getElem?_eq_some_iff.mp htarget).1
  refine ⟨n + i + 1, side :: path, side', by omega, ?_, ?_, ?_⟩
  · rw [h i (by omega), hsource]
    rfl
  · rw [Nat.add_assoc n, h (k + 1) hk, htarget]
    rfl
  · simp only [Edge.mk.injEq, true_and]
    omega

/-- The edges that the operand brings along. -/
theorem Placed.edgeInto (h : f.Placed side n paths) (htop : paths[0]? = some []) (id : Nat)
    (ih : ∀ {k e}, (f.edges (id + n + 1))[k]? = some e → EdgeInto f.paths (id + n + 1) k e)
    (he : (⟨id, side.label, id + n + 1⟩ :: f.edges (id + n + 1))[k]? = some e) : EdgeInto paths id (n + k) e := by
  cases k with
  | zero =>
    cases he
    exact h.edgeInto_top htop id
  | succ k => exact h.edgeInto_within (ih he)

theorem placed_only (f : Formula) : f.Placed .only 0 ([] :: f.paths.map (.only :: ·)) := by
  intro i _
  rw [Nat.zero_add, List.getElem?_cons_succ, List.getElem?_map]

theorem placed_left (l r : Formula) :
    l.Placed .left 0 ([] :: (l.paths.map (.left :: ·) ++ r.paths.map (.right :: ·))) := by
  intro i hi
  rw [Nat.zero_add, List.getElem?_cons_succ,
    List.getElem?_append_left (by rwa [List.length_map, length_paths]), List.getElem?_map]

theorem placed_right (l r : Formula) :
    r.Placed .right l.size ([] :: (l.paths.map (.left :: ·) ++ r.paths.map (.right :: ·))) := by
  intro i _
  rw [List.getElem?_cons_succ, List.getElem?_append_right (by rw [List.length_map, length_paths]; omega),
    List.length_map, length_paths, Nat.add_sub_cancel_left, List.getElem?_map]

end

/-- The edges are those into the nodes behind the first one, in the order of the nodes. -/
theorem edgeInto_of_edges {f : Formula} {id k : Nat} {e : Edge} (h : (f.edges id)[k]? = some e) :
    EdgeInto f.paths id k e := by
  induction f generalizing id k e with
  | var v => cases h
  | not f ih | group f ih =>
    have hinto := f.placed_only.edgeInto rfl id ih h
    rwa [Nat.zero_add] at hinto
  | and l r ihl ihr | or l r ihl ihr =>
    have hlength : (⟨id, "L", id + 1⟩ :: l.edges (id + 1) : List Edge).length = l.size := l.length_edges (id + 1)
    simp only [edges] at h
    rw [← Nat.add_right_comm] at h
    rcases Nat.lt_or_ge k l.size with hk | hk
    · rw [List.getElem?_append_left (hlength ▸ hk)] at h
      have hinto := (placed_left l r).edgeInto rfl id ihl h
      rwa [Nat.zero_add] at hinto
    · rw [List.getElem?_append_right (hlength ▸ hk)] at h
      have hinto := (placed_right l r).edgeInto rfl id ihr h
      rwa [hlength, Nat.add_sub_cancel' hk] at hinto

end Formula

namespace Diagram
open Formula

/-! ### The numbering -/

/-- The graph has a node for each path of the formula, at the path's place in preorder, and one edge into each node but the
    first. -/
structure Numbered (f : Formula) (d : Diagram) (paths : List (List Side)) : Prop where
  mem_iff : ∀ path, path ∈ paths ↔ (f.at? path).isSome
  preorder : paths.Pairwise Before
  labels : d.labels.map some = paths.map fun path => (f.at? path).map fun g => g.root.label
  length_edges : d.edges.length + 1 = d.labels.length
  edge : ∀ k e, d.edges[k]? = some e → ∃ i path side, i ≤ k ∧ paths[i]? = some path ∧
    paths[k + 1]? = some (path ++ [side]) ∧ e = ⟨i, side.label, k + 1⟩

theorem numbered_ofFormula (f : Formula) : Numbered f (ofFormula f) f.paths where
  mem_iff _ := mem_paths
  preorder := f.pairwise_before_paths
  labels := by
    have hroots := congrArg (List.map (Option.map Node.label)) f.map_root_paths
    simpa [ofFormula_eq, Function.comp_def] using hroots.symm
  length_edges := by rw [ofFormula_eq, List.length_map, length_preorder, f.length_edges]
  edge k e h := by
    rw [ofFormula_eq] at h
    have hinto := edgeInto_of_edges h
    simpa only [EdgeInto, Nat.zero_add] using hinto

/-! ### The formula that a numbered graph shows -/

/-- A formula is built from its node and its operands. -/
theorem build?_root {operand? : String → Option Formula} {g : Formula}
    (h : ∀ side operand, g.operand? side = some operand → operand? side.label = some operand) :
    build? operand? g.root = some g := by
  cases g with
  | var v => rfl
  | not g | group g =>
    have hoperand : operand? "" = some g := h .only g rfl
    simp [root, build?, hoperand]
  | and l r | or l r =>
    have hl : operand? "L" = some l := h .left l rfl
    have hr : operand? "R" = some r := h .right r rfl
    simp [root, build?, hl, hr]

namespace Numbered

variable {f g : Formula} {d : Diagram} {paths : List (List Side)} {path : List Side} {side : Side} {i j : Nat}

theorem length_paths (h : Numbered f d paths) : paths.length = d.labels.length := by
  simpa using (congrArg List.length h.labels).symm

theorem nodup (h : Numbered f d paths) : paths.Nodup := by
  refine h.preorder.imp ?_
  rintro path _ hbefore rfl
  exact hbefore.asymm hbefore

theorem place_unique (h : Numbered f d paths) (hi : paths[i]? = some path) (hj : paths[j]? = some path) : i = j :=
  (List.getElem?_inj (List.getElem?_eq_some_iff.mp hi).1 h.nodup).mp (hi.trans hj.symm)

theorem isSome_at? (h : Numbered f d paths) (hi : paths[i]? = some path) : (f.at? path).isSome :=
  (h.mem_iff path).mp (List.mem_of_getElem? hi)

/-- The first node is the one at the top. -/
theorem getElem?_zero (h : Numbered f d paths) : paths[0]? = some [] := by
  obtain ⟨j, hj⟩ := List.getElem?_of_mem ((h.mem_iff []).mpr rfl)
  cases j with
  | zero => exact hj
  | succ j =>
    obtain ⟨hlt, hnil⟩ := List.getElem?_eq_some_iff.mp hj
    have hbefore := List.pairwise_iff_getElem.mp h.preorder 0 (j + 1) (by omega) hlt (Nat.succ_pos j)
    exact absurd (hnil ▸ hbefore) (not_before_nil _)

/-- There is an edge from a node to each of its operands. -/
theorem getElem?_edges (h : Numbered f d paths) (hi : paths[i]? = some path) (hj : paths[j]? = some (path ++ [side])) :
    d.edges[j - 1]? = some ⟨i, side.label, j⟩ ∧ i < j := by
  have hpos : 0 < j := Nat.pos_of_ne_zero (by
    rintro rfl
    cases path <;> cases h.getElem?_zero.symm.trans hj)
  have hlength := h.length_edges
  have hbound : j < d.labels.length := h.length_paths ▸ (List.getElem?_eq_some_iff.mp hj).1
  obtain ⟨e, he⟩ : ∃ e, d.edges[j - 1]? = some e := ⟨_, List.getElem?_eq_getElem (by omega)⟩
  obtain ⟨i', path', side', hi', hsource, htarget, rfl⟩ := h.edge _ _ he
  rw [Nat.sub_add_cancel hpos] at htarget he
  obtain ⟨rfl, hside⟩ := List.append_inj' (Option.some.inj (hj.symm.trans htarget)) rfl
  cases hside
  obtain rfl := h.place_unique hi hsource
  exact ⟨he, by omega⟩

/-- The label tells the edges from one node apart. -/
theorem edge_unique (h : Numbered f d paths) (hi : paths[i]? = some path) (hj : paths[j]? = some (path ++ [side]))
    {e : Edge} (he : e ∈ d.edges) (hsource : e.source = i) (hlabel : e.label = side.label) :
    e = ⟨i, side.label, j⟩ := by
  obtain ⟨k, hk⟩ := List.getElem?_of_mem he
  obtain ⟨i', path', side', -, hi', hj', rfl⟩ := h.edge _ _ hk
  obtain rfl : i' = i := hsource
  obtain rfl := Side.label_injective hlabel
  obtain rfl := Option.some.inj (hi.symm.trans hi')
  rw [h.place_unique hj hj']

/-- The edge from a node with the label of a side leads to the operand there, whose number is greater. -/
theorem operandBehind?_eq (h : Numbered f d paths) (hi : paths[i]? = some path) (hf : f.at? path = some g)
    {operand : Formula} (hoperand : g.operand? side = some operand) :
    operandBehind? d.edges i ((paths.drop (i + 1)).map f.at?) side.label = some operand := by
  have hat : f.at? (path ++ [side]) = some operand := by rw [at?_append, hf, Option.bind_some, at?_singleton, hoperand]
  obtain ⟨j, hj⟩ := List.getElem?_of_mem ((h.mem_iff (path ++ [side])).mpr (Option.isSome_of_eq_some hat))
  obtain ⟨hedge, hlt⟩ := h.getElem?_edges hi hj
  obtain ⟨e, he⟩ := Option.isSome_iff_exists.mp
    (List.find?_isSome (p := fun e : Edge => e.source == i && e.label == side.label).mpr
      ⟨_, List.mem_of_getElem? hedge, by simp⟩)
  have hfits := List.find?_some he
  simp only [Bool.and_eq_true, beq_iff_eq] at hfits
  obtain rfl := h.edge_unique hi hj (List.mem_of_find?_eq_some he) hfits.1 hfits.2
  have hplace : i + 1 + (j - (i + 1)) = j := by omega
  simp [operandBehind?, he, hlt, List.getElem?_map, List.getElem?_drop, hplace, hj, hat]

/-- The nodes show the formulas at their paths. The induction is on the nodes from the last one to the first, since an
    operand stands behind its formula. -/
theorem shownFrom_eq (h : Numbered f d paths) {labels : List String} (hlabels : d.labels.drop i = labels) :
    shownFrom d.edges i labels = (paths.drop i).map f.at? := by
  have hlength := h.length_paths
  induction labels generalizing i with
  | nil =>
    have hi : paths.drop i = [] := List.drop_eq_nil_iff.mpr (hlength ▸ List.drop_eq_nil_iff.mp hlabels)
    rw [hi]
    rfl
  | cons label labels ih =>
    have hi : i < paths.length := by
      rw [hlength, ← Nat.not_le, ← List.drop_eq_nil_iff, hlabels]
      exact List.cons_ne_nil _ _
    rw [List.drop_eq_getElem_cons (hlength ▸ hi), List.cons.injEq] at hlabels
    have hpath : paths[i]? = some paths[i] := List.getElem?_eq_getElem hi
    obtain ⟨g, hg⟩ := Option.isSome_iff_exists.mp (h.isSome_at? hpath)
    have hlabel : label = g.root.label := by
      have hroot := congrArg (·[i]?) h.labels
      simpa [hlength ▸ hi, hi, hlabels.1, hg] using hroot
    rw [List.drop_eq_getElem_cons hi, shownFrom, ih hlabels.2, hlabel, Node.ofLabel?_label, Option.bind_some,
      build?_root fun _ _ => h.operandBehind?_eq hpath hg, List.map_cons, hg]

theorem shown?_eq (h : Numbered f d paths) : d.shown? = some f := by
  have hformulas := h.shownFrom_eq (i := 0) List.drop_zero
  rw [shown?, hformulas, List.drop_zero, List.head?_map, List.head?_eq_getElem?, h.getElem?_zero]
  rfl

/-! ### The one graph with the numbering -/

theorem paths_eq (h : Numbered f d paths) : paths = f.paths := by
  have hf := numbered_ofFormula f
  have hperm : paths.Perm f.paths := (List.perm_ext_iff_of_nodup h.nodup hf.nodup).mpr fun path =>
    (h.mem_iff path).trans (hf.mem_iff path).symm
  exact hperm.eq_of_pairwise (fun _ _ _ _ hab hba => absurd hba hab.asymm) h.preorder hf.preorder

/-- The edge into a node is determined by the paths. -/
theorem getElem?_edges_eq {d' : Diagram} (h : Numbered f d paths) (h' : Numbered f d' paths) {k : Nat} {e : Edge}
    (he : d.edges[k]? = some e) : d'.edges[k]? = some e := by
  obtain ⟨i, path, side, -, hsource, htarget, rfl⟩ := h.edge k e he
  exact (h'.getElem?_edges hsource htarget).1

theorem unique {d' : Diagram} (h : Numbered f d paths) (h' : Numbered f d' paths) : d = d' := by
  have hlabels : d.labels = d'.labels :=
    List.map_injective_iff.mpr (fun _ _ => Option.some.inj) (h.labels.trans h'.labels.symm)
  have hedges : d.edges = d'.edges := List.ext_getElem? fun k => Option.ext fun e =>
    ⟨h.getElem?_edges_eq h', h'.getElem?_edges_eq h⟩
  cases d
  cases d'
  exact congrArg₂ Diagram.mk hlabels hedges

end Numbered

/-- The graph of a formula is the one with the formula's nodes in preorder and, behind the first one, an edge into each node
    from the node above it. From its labels and edges the formula is built again. -/
theorem numbered_and_shown (f : Formula) :
    (∀ d, (∃ paths, Numbered f d paths) ↔ d = ofFormula f) ∧ (ofFormula f).shown? = some f := by
  refine ⟨fun d => ⟨?_, ?_⟩, (numbered_ofFormula f).shown?_eq⟩
  · rintro ⟨paths, h⟩
    obtain rfl := h.paths_eq
    exact h.unique (numbered_ofFormula f)
  · rintro rfl
    exact ⟨f.paths, numbered_ofFormula f⟩

example :
    ofFormula (.or (.not (.group (.and (.var "a") (.var "b")))) (.var "c")) =
      ⟨["Or", "Not", "Group", "And", "Var a", "Var b", "Var c"],
        [⟨0, "L", 1⟩, ⟨1, "", 2⟩, ⟨2, "", 3⟩, ⟨3, "L", 4⟩, ⟨3, "R", 5⟩, ⟨0, "R", 6⟩]⟩ := by
  decide +kernel

end Diagram

end Propositional
