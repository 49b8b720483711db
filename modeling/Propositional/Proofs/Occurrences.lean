import Mathlib.Data.List.Induction
import Mathlib.Data.List.Sort

/-! Lists without repetitions, in order of first occurrence. The order is that of the places at which the entries
    occur first, so the list is determined by this. -/

namespace Propositional

/-- The entries of `xs`, each once, in the order in which they occur first. -/
structure FirstOccurrences (xs ys : List String) : Prop where
  mem_iff : ∀ v, v ∈ ys ↔ v ∈ xs
  ordered : ys.Pairwise fun v w => xs.idxOf v < xs.idxOf w

namespace FirstOccurrences
variable {xs ys zs : List String}

theorem nodup (h : FirstOccurrences xs ys) : ys.Nodup :=
  h.ordered.imp fun hlt heq => by
    rw [heq] at hlt
    exact Nat.lt_irrefl _ hlt

theorem unique (h : FirstOccurrences xs ys) (h' : FirstOccurrences xs zs) : ys = zs := by
  have hperm : ys.Perm zs := (List.perm_ext_iff_of_nodup h.nodup h'.nodup).mpr fun v =>
    (h.mem_iff v).trans (h'.mem_iff v).symm
  exact hperm.eq_of_pairwise (fun v w _ _ hvw hwv => absurd hvw (Nat.lt_asymm hwv)) h.ordered h'.ordered

theorem concat (h : FirstOccurrences xs ys) (v : String) :
    FirstOccurrences (xs ++ [v]) (if v ∈ xs then ys else ys ++ [v]) := by
  -- The places of the old entries stay as they are.
  have hold : ys.Pairwise fun w u => (xs ++ [v]).idxOf w < (xs ++ [v]).idxOf u := by
    refine h.ordered.imp_of_mem fun hw hu hlt => ?_
    rwa [List.idxOf_append_of_mem ((h.mem_iff _).mp hw), List.idxOf_append_of_mem ((h.mem_iff _).mp hu)]
  split
  next hv =>
    refine ⟨fun w => ?_, hold⟩
    rw [h.mem_iff, List.mem_append, List.mem_singleton]
    exact ⟨.inl, fun hw => hw.elim id fun hw => hw ▸ hv⟩
  next hv =>
    refine ⟨fun w => by simp [h.mem_iff], List.pairwise_append.mpr ⟨hold, List.pairwise_singleton _ _, ?_⟩⟩
    intro w hw u hu
    obtain rfl := List.mem_singleton.mp hu
    have hw := (h.mem_iff w).mp hw
    rw [List.idxOf_append_of_mem hw, List.idxOf_append_of_notMem hv]
    exact Nat.lt_of_lt_of_le (List.idxOf_lt_length_of_mem hw) (Nat.le_add_right _ _)

end FirstOccurrences

theorem eraseDups_concat (xs : List String) (v : String) :
    (xs ++ [v]).eraseDups = if v ∈ xs then xs.eraseDups else xs.eraseDups ++ [v] := by
  rw [List.eraseDups_append]
  by_cases hv : v ∈ xs
  · simp [hv, List.removeAll]
  · simp [hv, List.removeAll, List.eraseDups_cons]

theorem firstOccurrences_eraseDups (xs : List String) : FirstOccurrences xs xs.eraseDups := by
  induction xs using List.reverseRecOn with
  | nil => exact ⟨fun v => by simp, .nil⟩
  | append_singleton xs v ih =>
    rw [eraseDups_concat]
    exact ih.concat v

/-- What is found first in a list is found first without the repetitions. -/
theorem find?_eraseDups (p : String → Bool) (xs : List String) : xs.eraseDups.find? p = xs.find? p := by
  induction xs using List.reverseRecOn with
  | nil => rfl
  | append_singleton xs v ih =>
    rw [eraseDups_concat, List.find?_append, ← ih]
    split
    next hv =>
      cases hp : xs.eraseDups.find? p with
      | some w => rfl
      | none => simp [List.find?_eq_none.mp hp v (List.mem_eraseDups.mpr hv)]
    next hv => exact List.find?_append

theorem eraseDups_eraseDups (xs : List String) : xs.eraseDups.eraseDups = xs.eraseDups := by
  induction xs using List.reverseRecOn with
  | nil => rfl
  | append_singleton xs v ih =>
    rw [eraseDups_concat]
    split
    next => exact ih
    next hv => rw [eraseDups_concat, ih, if_neg (List.mem_eraseDups.not.mpr hv)]

/-- The repetitions within two lists do not matter for those in both together. -/
theorem eraseDups_append_eraseDups (xs ys : List String) :
    (xs.eraseDups ++ ys.eraseDups).eraseDups = (xs ++ ys).eraseDups := by
  induction ys using List.reverseRecOn with
  | nil => simp [eraseDups_eraseDups]
  | append_singleton ys v ih =>
    have hmem : v ∈ xs.eraseDups ++ ys.eraseDups ↔ v ∈ xs ++ ys := by simp
    rw [← List.append_assoc, eraseDups_concat, eraseDups_concat, ← ih]
    by_cases hv : v ∈ ys
    · rw [if_pos hv, if_pos (List.mem_append_right xs hv)]
    · simp only [if_neg hv, ← List.append_assoc, eraseDups_concat, hmem]

theorem firstOccurrences_iff {xs ys : List String} : FirstOccurrences xs ys ↔ ys = xs.eraseDups :=
  ⟨fun h => h.unique (firstOccurrences_eraseDups xs), fun h => h ▸ firstOccurrences_eraseDups xs⟩

end Propositional
