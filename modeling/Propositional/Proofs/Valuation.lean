import Mathlib.Data.List.Find
import Mathlib.Data.List.Nodup
import Propositional.Formula.Evaluation

/-! What a valuation that is made of pairs gives to a name, that the values it gives are all there is to it, and when
    it suffices to evaluate a formula. -/

namespace Propositional
namespace Valuation

/-! ### Entries -/

theorem lookup_eq_some_iff_mem {es : List (String × Bool)} (h : (es.map Prod.fst).Nodup) {v : String} {x : Bool} :
    es.lookup v = some x ↔ (v, x) ∈ es := by
  induction es with
  | nil => simp
  | cons e es ih =>
    obtain ⟨w, y⟩ := e
    obtain ⟨hw, hes⟩ := List.nodup_cons.mp h
    rw [lookup_cons, List.mem_cons, ← ih hes]
    by_cases hv : v = w
    · subst hv
      -- Behind its own entry a name has no other one.
      have hnot : es.lookup v ≠ some x := by
        intro hx
        exact hw (List.mem_map.mpr ⟨(v, x), (ih hes).mp hx, rfl⟩)
      simp [hnot, eq_comm]
    · simp [hv]

theorem nodup_map_fst_entries (b : Valuation) : (b.entries.map Prod.fst).Nodup := by
  rw [List.Nodup, List.pairwise_map]
  refine b.sorted.imp ?_
  intro e e' hlt heq
  exact String.lt_irrefl e.1 (heq ▸ hlt)

theorem mem_entries_iff {b : Valuation} {v : String} {x : Bool} : (v, x) ∈ b.entries ↔ b.get? v = some x :=
  (lookup_eq_some_iff_mem b.nodup_map_fst_entries).symm

/-- Valuations that give the same values are equal. -/
theorem ext_get? {b b' : Valuation} (h : ∀ v, b.get? v = b'.get? v) : b = b' := by
  have hnodup : ∀ c : Valuation, c.entries.Nodup := fun c => c.nodup_map_fst_entries.of_map _
  have hmem : ∀ e, e ∈ b.entries ↔ e ∈ b'.entries := by
    rintro ⟨v, x⟩
    rw [mem_entries_iff, mem_entries_iff, h]
  have hperm : b.entries.Perm b'.entries := (List.perm_ext_iff_of_nodup (hnodup b) (hnodup b')).mpr hmem
  have hentries : b.entries = b'.entries := by
    refine hperm.eq_of_pairwise ?_ b.sorted b'.sorted
    intro e e' _ _ hlt hgt
    exact absurd hgt (String.lt_asymm hlt)
  obtain ⟨es, hes⟩ := b
  obtain ⟨es', hes'⟩ := b'
  cases hentries
  rfl

theorem eq_iff_forall_get? {b b' : Valuation} : b = b' ↔ ∀ v, b.get? v = b'.get? v :=
  ⟨fun h _ => h ▸ rfl, ext_get?⟩

/-! ### Values of pairs -/

theorem forall_bne_fst_iff {es : List (String × Bool)} {v : String} :
    (∀ e ∈ es, (v != e.1) = true) ↔ v ∉ es.map Prod.fst := by
  simp only [bne_iff_ne, List.mem_map, not_exists, not_and]
  exact forall₂_congr fun e _ => ne_comm

/-- Of the pairs for a name the last one counts, and where there is none the valuation from before. -/
theorem get?_extend (b : Valuation) (es : List (String × Bool)) (v : String) :
    (b.extend es).get? v = (es.reverse.lookup v).or (b.get? v) := by
  induction es generalizing b with
  | nil => simp
  | cons e es ih =>
    obtain ⟨w, x⟩ := e
    rw [extend_cons, ih, get?_insert, List.reverse_cons, List.lookup_append, Option.or_assoc, lookup_cons]
    split <;> simp

theorem get?_ofList (es : List (String × Bool)) (v : String) : (ofList es).get? v = es.reverse.lookup v := by
  rw [ofList, get?_extend, get?_empty, Option.or_none]

theorem get?_ofList_eq_none_iff {es : List (String × Bool)} {v : String} :
    (ofList es).get? v = none ↔ v ∉ es.map Prod.fst := by
  rw [get?_ofList, List.lookup_eq_none_iff, forall_bne_fst_iff, List.map_reverse, List.mem_reverse]

/-- Pairs with different names are the values they give. -/
theorem get?_ofList_eq_some_iff {es : List (String × Bool)} (h : (es.map Prod.fst).Nodup) {v : String} {x : Bool} :
    (ofList es).get? v = some x ↔ (v, x) ∈ es := by
  have hreverse : (es.reverse.map Prod.fst).Nodup := by rwa [List.map_reverse, List.nodup_reverse]
  rw [get?_ofList, lookup_eq_some_iff_mem hreverse, List.mem_reverse]

/-- Pairs with different names make one valuation, whatever their order. -/
theorem ofList_eq_of_perm {es es' : List (String × Bool)} (hperm : es.Perm es')
    (hnodup : (es.map Prod.fst).Nodup) : ofList es = ofList es' := by
  have hnodup' : (es'.map Prod.fst).Nodup := (hperm.map Prod.fst).nodup_iff.mp hnodup
  refine ext_get? fun v => Option.ext fun x => ?_
  rw [get?_ofList_eq_some_iff hnodup, get?_ofList_eq_some_iff hnodup', hperm.mem_iff]

theorem isSome_get?_ofList_zip_iff {names : List String} {values : List Bool}
    (hlength : names.length = values.length) {v : String} :
    ((ofList (names.zip values)).get? v).isSome ↔ v ∈ names := by
  have hnames : (names.zip values).map Prod.fst = names := List.map_fst_zip (Nat.le_of_eq hlength)
  rw [Option.isSome_iff_ne_none, ne_eq, get?_ofList_eq_none_iff, hnames, not_not]

theorem lookup_map (names : List String) (value : String → Bool) (v : String) :
    (names.map fun w => (w, value w)).lookup v = if v ∈ names then some (value v) else none := by
  induction names with
  | nil => simp
  | cons w names ih =>
    rw [List.map_cons, lookup_cons, ih]
    by_cases hv : v = w
    · simp [hv]
    · simp [hv]

/-- Pairs that give each of the names its value, and no other name one. -/
theorem get?_ofList_zip_map (names : List String) (value : String → Bool) (v : String) :
    (ofList (names.zip (names.map value))).get? v = if v ∈ names then some (value v) else none := by
  rw [get?_ofList, ← List.map_prod_left_eq_zip, ← List.map_reverse, lookup_map]
  simp

/-- The valuation gives values to the names and to no others. -/
def Binds (b : Valuation) (names : List String) : Prop := ∀ v, (b.get? v).isSome = true ↔ v ∈ names

end Valuation

/-! ### Evaluation -/

namespace Formula

theorem unbound?_eq_none_iff {f : Formula} {b : Valuation} :
    f.unbound? b = none ↔ ∀ v ∈ f.vars, (b.get? v).isSome := by
  simp [unbound?, List.find?_eq_none, Option.isSome_iff_ne_none]

/-- The truth value depends on nothing but the values of the formula's variables. -/
theorem truth_congr {f : Formula} {value value' : String → Bool} (h : ∀ v ∈ f.vars, value v = value' v) :
    f.truth value = f.truth value' := by
  simp only [mem_vars] at h
  induction f with
  | var v => exact h v (by simp)
  | not f ih => rw [truth, truth, ih h]
  | and l r ihl ihr =>
    simp only [occurrences_and, List.mem_append] at h
    rw [truth, truth, ihl fun v hv => h v (.inl hv), ihr fun v hv => h v (.inr hv)]
  | or l r ihl ihr =>
    simp only [occurrences_or, List.mem_append] at h
    rw [truth, truth, ihl fun v hv => h v (.inl hv), ihr fun v hv => h v (.inr hv)]
  | group f ih =>
    rw [occurrences_group] at h
    exact ih h

theorem eval_of_isSome {f : Formula} {b : Valuation} (h : ∀ v ∈ f.vars, (b.get? v).isSome) :
    f.eval b = .ok (f.truth fun v => (b.get? v).getD false) := by
  rw [eval_eq, unbound?_eq_none_iff.mpr h]

/-- Evaluation asks for the values of the formula's variables and for nothing else. -/
theorem eval_congr {f : Formula} {b b' : Valuation} (h : ∀ v ∈ f.vars, b.get? v = b'.get? v) :
    f.eval b = f.eval b' := by
  have hunbound : f.unbound? b = f.unbound? b' := by
    refine List.find?_congr fun v hv => ?_
    rw [h v (mem_vars.mpr hv)]
  have htruth : (f.truth fun v => (b.get? v).getD false) = f.truth fun v => (b'.get? v).getD false := by
    refine truth_congr fun v hv => ?_
    rw [h v hv]
  rw [eval_eq, eval_eq, hunbound, htruth]

theorem eval_var_eq_ok_iff {v : String} {b : Valuation} {x : Bool} : (var v).eval b = .ok x ↔ b.get? v = some x := by
  rw [eval_eq, unbound?, occurrences_var]
  cases h : b.get? v <;> simp [truth, h]

end Formula

/-- Valuations are equal when all formulas evaluate alike under them. The variables suffice for that. -/
theorem Valuation.eq_iff_forall_eval {b b' : Valuation} : b = b' ↔ ∀ f : Formula, f.eval b = f.eval b' := by
  rw [eq_iff_forall_get?]
  constructor
  · intro h f
    exact Formula.eval_congr fun v _ => h v
  · intro h v
    refine Option.ext fun x => ?_
    rw [← Formula.eval_var_eq_ok_iff, ← Formula.eval_var_eq_ok_iff, h]

end Propositional
