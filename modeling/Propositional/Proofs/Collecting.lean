import Mathlib.Data.List.Perm.Basic
import Mathlib.Data.List.Range
import Mathlib.Logic.Relation
import Propositional.Proofs.Results

/-! Numbered steps, each of which can fail, that are done in any order. All results together are the outcome if no
    step fails; else it is one of the errors that were met, and steps may be left undone. -/

namespace Propositional

/-- Steps under way: the numbers of those that wait, and the results of the others. -/
structure Collecting (ε α : Type) where
  waiting : List Nat
  results : List (Nat × Except ε α)

namespace Collecting
variable {ε α : Type} {f : Nat → Except ε α} {total : Nat}

def start (total : Nat) : Collecting ε α := ⟨List.range total, []⟩

/-- Any of the steps that wait is done next. -/
inductive Next (f : Nat → Except ε α) : Collecting ε α → Collecting ε α → Prop where
  | mk (front back : List Nat) (i : Nat) (results : List (Nat × Except ε α)) :
    Next f ⟨front ++ i :: back, results⟩ ⟨front ++ back, (i, f i) :: results⟩

/-- What may be made of the results: a list by their numbers if all are there and none is an error, and any error. -/
inductive Ends : Collecting ε α → Except ε (List α) → Prop where
  | all {results : List (Nat × Except ε α)} {xs : List α} :
    (∀ i x, (i, x) ∈ results ↔ ∃ y, xs[i]? = some y ∧ x = .ok y) → Ends ⟨[], results⟩ (.ok xs)
  | error {waiting : List Nat} {results : List (Nat × Except ε α)} {i : Nat} {e : ε} :
    (i, .error e) ∈ results → Ends ⟨waiting, results⟩ (.error e)

/-- The outcome is one that an order of the steps can have. -/
def Yields (f : Nat → Except ε α) (total : Nat) (outcome : Except ε (List α)) : Prop :=
  ∃ c, Relation.ReflTransGen (Next f) (start total) c ∧ Ends c outcome

/-! ### Orders -/

/-- The results are those of different steps, and no step is forgotten. -/
structure Follows (f : Nat → Except ε α) (total : Nat) (c : Collecting ε α) : Prop where
  numbers : (c.waiting ++ c.results.map Prod.fst).Perm (List.range total)
  results : ∀ r ∈ c.results, r.2 = f r.1

theorem follows_start (f : Nat → Except ε α) (total : Nat) : Follows f total (start total) where
  numbers := by simp [start]
  results := List.forall_mem_nil _

theorem Follows.next {c c' : Collecting ε α} (h : Follows f total c) (hnext : Next f c c') : Follows f total c' := by
  obtain ⟨front, back, i, results⟩ := hnext
  refine ⟨?_, List.forall_mem_cons.mpr ⟨rfl, h.results⟩⟩
  refine List.Perm.trans ?_ h.numbers
  simp only [List.map_cons, List.append_assoc, List.cons_append]
  exact (List.perm_append_left_iff _).mpr List.perm_middle

theorem Follows.of_reflTransGen {c : Collecting ε α} (h : Relation.ReflTransGen (Next f) (start total) c) :
    Follows f total c := by
  induction h with
  | refl => exact follows_start f total
  | tail _ hnext ih => exact ih.next hnext

theorem Follows.lt_of_mem {c : Collecting ε α} (h : Follows f total c) {i : Nat} {x : Except ε α}
    (hx : (i, x) ∈ c.results) : i < total := by
  rw [← List.mem_range, ← h.numbers.mem_iff]
  exact List.mem_append_right _ (List.mem_map.mpr ⟨_, hx, rfl⟩)

/-- When no step waits, each has its result. -/
theorem Follows.mem_iff {results : List (Nat × Except ε α)} (h : Follows f total ⟨[], results⟩) {i : Nat}
    {x : Except ε α} : (i, x) ∈ results ↔ i < total ∧ x = f i := by
  constructor
  · intro hx
    exact ⟨h.lt_of_mem hx, h.results _ hx⟩
  · rintro ⟨hi, rfl⟩
    have hmem : i ∈ results.map Prod.fst := h.numbers.mem_iff.mpr (List.mem_range.mpr hi)
    obtain ⟨⟨j, y⟩, hj, rfl⟩ := List.mem_map.mp hmem
    rwa [← h.results _ hj]

/-- Whatever is done already, all steps can be done. -/
theorem exists_done (f : Nat → Except ε α) (waiting : List Nat) (results : List (Nat × Except ε α)) :
    ∃ results', Relation.ReflTransGen (Next f) ⟨waiting, results⟩ ⟨[], results'⟩ := by
  induction waiting generalizing results with
  | nil => exact ⟨results, .refl⟩
  | cons i waiting ih =>
    obtain ⟨results', h⟩ := ih ((i, f i) :: results)
    exact ⟨results', .head (.mk [] waiting i results) h⟩

/-! ### Outcomes -/

theorem map_range_eq_iff {xs : List α} :
    (List.range total).map f = xs.map .ok ↔
      ∀ i x, (i < total ∧ x = f i) ↔ ∃ y, xs[i]? = some y ∧ x = .ok y := by
  have hleft : ∀ i x, ((List.range total).map f)[i]? = some x ↔ i < total ∧ x = f i := by
    intro i x
    by_cases hi : i < total
    · simp [hi, eq_comm]
    · simp [hi]
  have hright : ∀ (i : Nat) (x : Except ε α), (xs.map Except.ok)[i]? = some x ↔ ∃ y, xs[i]? = some y ∧ x = .ok y := by
    intro i x
    rw [List.getElem?_map, Option.map_eq_some_iff]
    exact exists_congr fun y => and_congr_right fun _ => eq_comm
  constructor
  · intro h i x
    rw [← hleft, ← hright, h]
  · intro h
    refine List.ext_getElem? fun i => Option.ext fun x => ?_
    rw [hleft, hright, h]

/-- The outcome of steps that are done in some order: all their results, or the error of any step that fails. -/
theorem yields_iff {outcome : Except ε (List α)} :
    Yields f total outcome ↔
      (∃ xs, outcome = .ok xs ∧ (List.range total).map f = xs.map .ok) ∨
        ∃ i < total, ∃ e, f i = .error e ∧ outcome = .error e := by
  obtain ⟨results, hdone⟩ := exists_done f (List.range total) []
  have hfollows := Follows.of_reflTransGen hdone
  constructor
  · rintro ⟨c, hc, hend⟩
    have hfollows := Follows.of_reflTransGen hc
    cases hend with
    | all hresults =>
      refine .inl ⟨_, rfl, map_range_eq_iff.mpr fun i x => ?_⟩
      rw [← hfollows.mem_iff, hresults]
    | error he => exact .inr ⟨_, hfollows.lt_of_mem he, _, (hfollows.results _ he).symm, rfl⟩
  · rintro (⟨xs, rfl, hxs⟩ | ⟨i, hi, e, he, rfl⟩)
    · exact ⟨_, hdone, .all fun i x => hfollows.mem_iff.trans (map_range_eq_iff.mp hxs i x)⟩
    · exact ⟨_, hdone, .error (hfollows.mem_iff.mpr ⟨hi, he.symm⟩)⟩

/-- Steps that all succeed have one outcome. -/
theorem yields_iff_of_forall_ok {g : Nat → α} (h : ∀ i < total, f i = .ok (g i)) {outcome : Except ε (List α)} :
    Yields f total outcome ↔ outcome = .ok ((List.range total).map g) := by
  have hmap : (List.range total).map f = ((List.range total).map g).map .ok := by
    rw [List.map_map]
    exact List.map_congr_left fun i hi => h i (List.mem_range.mp hi)
  rw [yields_iff]
  constructor
  · rintro (⟨xs, rfl, hxs⟩ | ⟨i, hi, e, he, -⟩)
    · rw [List.map_injective_iff.mpr (fun _ _ => Except.ok.inj) (hxs.symm.trans hmap)]
    · rw [h i hi] at he
      cases he
  · rintro rfl
    exact .inl ⟨_, rfl, hmap⟩

/-- Steps that all fail in the same way have one outcome. -/
theorem yields_iff_of_forall_error {e : ε} (hpos : 0 < total) (h : ∀ i < total, f i = .error e)
    {outcome : Except ε (List α)} : Yields f total outcome ↔ outcome = .error e := by
  rw [yields_iff]
  constructor
  · rintro (⟨xs, -, hxs⟩ | ⟨i, hi, e', he, rfl⟩)
    · obtain ⟨y, -, hy⟩ := (map_range_eq_iff.mp hxs 0 (f 0)).mp ⟨hpos, rfl⟩
      rw [h 0 hpos] at hy
      cases hy
    · rw [h i hi] at he
      cases he
      rfl
  · rintro rfl
    exact .inr ⟨0, hpos, e, h 0 hpos, rfl⟩

end Collecting
end Propositional
