import Propositional.Proofs.Diagram.Drawing

/-! The nodes of a formula by the paths to them from the top. In preorder a node comes before those within it, and what is
    on the left before what is on the right; the number of a node in the graph is its place in this order. -/

namespace Propositional

/-- Which operand of a formula: the only one, the left one or the right one. -/
inductive Side where
  | only
  | left
  | right
deriving DecidableEq, Repr

/-- How the edge to the operand is labelled. -/
def Side.label : Side → String
  | .only => ""
  | .left => "L"
  | .right => "R"

namespace Formula

/-- The operand of the formula at the side. -/
def operand? : Formula → Side → Option Formula
  | .not f, .only => some f
  | .group f, .only => some f
  | .and l _, .left => some l
  | .and _ r, .right => some r
  | .or l _, .left => some l
  | .or _ r, .right => some r
  | _, _ => none

/-- The formula to which the path leads. -/
def at? : Formula → List Side → Option Formula
  | f, [] => some f
  | f, side :: path => (f.operand? side).bind fun g => g.at? path

/-- The first path leads to a node with the other one below it, or the two part and it goes to the left. -/
def Before (path path' : List Side) : Prop :=
  (∃ below, below ≠ [] ∧ path' = path ++ below) ∨
    ∃ above below below', path = above ++ .left :: below ∧ path' = above ++ .right :: below'

/-- The paths to the nodes of the formula, in preorder. -/
def paths : Formula → List (List Side)
  | .var _ => [[]]
  | .not f => [] :: f.paths.map (.only :: ·)
  | .and l r => [] :: (l.paths.map (.left :: ·) ++ r.paths.map (.right :: ·))
  | .or l r => [] :: (l.paths.map (.left :: ·) ++ r.paths.map (.right :: ·))
  | .group f => [] :: f.paths.map (.only :: ·)

/-! ### The order of the paths -/

section
variable {path path' : List Side} {side side' : Side}

theorem before_nil_cons (side : Side) (path : List Side) : Before [] (side :: path) :=
  .inl ⟨side :: path, List.cons_ne_nil _ _, rfl⟩

theorem not_before_nil (path : List Side) : ¬ Before path [] := by
  rintro (⟨below, hne, hpath⟩ | ⟨above, below, below', -, hpath⟩)
  · exact hne (List.append_eq_nil_iff.mp hpath.symm).2
  · cases above <;> cases hpath

theorem before_cons_cons :
    Before (side :: path) (side' :: path') ↔ (side = side' ∧ Before path path') ∨ (side = .left ∧ side' = .right) := by
  constructor
  · rintro (⟨below, hne, hpath⟩ | ⟨above, below, below', hpath, hpath'⟩)
    · obtain ⟨rfl, rfl⟩ := List.cons.inj hpath
      exact .inl ⟨rfl, .inl ⟨below, hne, rfl⟩⟩
    · cases above with
      | nil => exact .inr ⟨(List.cons.inj hpath).1, (List.cons.inj hpath').1⟩
      | cons first above =>
        obtain ⟨rfl, rfl⟩ := List.cons.inj hpath
        obtain ⟨rfl, rfl⟩ := List.cons.inj hpath'
        exact .inl ⟨rfl, .inr ⟨above, below, below', rfl, rfl⟩⟩
  · rintro (⟨rfl, ⟨below, hne, rfl⟩ | ⟨above, below, below', rfl, rfl⟩⟩ | ⟨rfl, rfl⟩)
    · exact .inl ⟨below, hne, rfl⟩
    · exact .inr ⟨side :: above, below, below', rfl, rfl⟩
    · exact .inr ⟨[], path, path', rfl, rfl⟩

/-- Of two nodes at most one comes before the other. -/
theorem Before.asymm (h : Before path path') : ¬ Before path' path := by
  induction path generalizing path' with
  | nil => exact not_before_nil path'
  | cons side path ih =>
    cases path' with
    | nil => exact absurd h (not_before_nil _)
    | cons side' path' =>
      rw [before_cons_cons] at h ⊢
      rintro (⟨rfl, h'⟩ | ⟨rfl, rfl⟩)
      · rcases h with ⟨-, h⟩ | ⟨rfl, hright⟩
        · exact ih h h'
        · cases hright
      · rcases h with ⟨hsame, -⟩ | ⟨hleft, -⟩
        · cases hsame
        · cases hleft

theorem pairwise_map_cons {l : List (List Side)} (h : l.Pairwise Before) (side : Side) :
    (l.map (side :: ·)).Pairwise Before :=
  List.pairwise_map.mpr (h.imp fun h => before_cons_cons.mpr (.inl ⟨rfl, h⟩))

end

theorem pairwise_before_paths (f : Formula) : f.paths.Pairwise Before := by
  induction f with
  | var v => exact List.pairwise_singleton _ _
  | not f ih | group f ih =>
    refine List.pairwise_cons.mpr ⟨?_, pairwise_map_cons ih _⟩
    rintro _ hpath
    obtain ⟨path, -, rfl⟩ := List.mem_map.mp hpath
    exact before_nil_cons _ _
  | and l r ihl ihr | or l r ihl ihr =>
    refine List.pairwise_cons.mpr
      ⟨?_, List.pairwise_append.mpr ⟨pairwise_map_cons ihl _, pairwise_map_cons ihr _, ?_⟩⟩
    · rintro _ hpath
      rcases List.mem_append.mp hpath with hpath | hpath
      all_goals
        obtain ⟨path, -, rfl⟩ := List.mem_map.mp hpath
        exact before_nil_cons _ _
    · rintro _ hpath _ hpath'
      obtain ⟨path, -, rfl⟩ := List.mem_map.mp hpath
      obtain ⟨path', -, rfl⟩ := List.mem_map.mp hpath'
      exact before_cons_cons.mpr (.inr ⟨rfl, rfl⟩)

/-! ### The nodes at the paths -/

theorem at?_append (f : Formula) (path path' : List Side) :
    f.at? (path ++ path') = (f.at? path).bind fun g => g.at? path' := by
  induction path generalizing f with
  | nil => rfl
  | cons side path ih =>
    cases hg : f.operand? side with
    | none => simp [at?, hg]
    | some g => simp [at?, hg, ih]

theorem at?_singleton (f : Formula) (side : Side) : f.at? [side] = f.operand? side := by
  cases hg : f.operand? side <;> simp [at?, hg]

theorem getElem?_zero_paths (f : Formula) : f.paths[0]? = some [] := by cases f <;> rfl

theorem mem_paths {f : Formula} {path : List Side} : path ∈ f.paths ↔ (f.at? path).isSome := by
  induction f generalizing path with
  | var v => cases path <;> simp [paths, at?, operand?]
  | not f ih | group f ih =>
    cases path with
    | nil => simp [paths, at?]
    | cons side path => cases side <;> simp [paths, at?, operand?, ih]
  | and l r ihl ihr | or l r ihl ihr =>
    cases path with
    | nil => simp [paths, at?]
    | cons side path => cases side <;> simp [paths, at?, operand?, ihl, ihr]

/-- The nodes at the paths are those of the preorder. -/
theorem map_root_paths (f : Formula) : (f.paths.map fun path => (f.at? path).map root) = f.preorder.map some := by
  induction f with
  | var v => rfl
  | not f ih | group f ih =>
    simp only [preorder_not, preorder_group, paths, List.map_cons, List.map_map, ← ih]
    rfl
  | and l r ihl ihr | or l r ihl ihr =>
    simp only [preorder_and, preorder_or, paths, List.map_cons, List.map_append, List.map_map, ← ihl, ← ihr]
    rfl

theorem length_paths (f : Formula) : f.paths.length = f.size := by
  have hlength := congrArg List.length f.map_root_paths
  rwa [List.length_map, List.length_map, length_preorder] at hlength

end Formula

end Propositional
