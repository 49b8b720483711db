/-! Valuations: truth values for finitely many names. The entries are kept in the order of the names, one entry for
    a name, so two valuations that give the same values are equal. -/

namespace Propositional

/-- Of the pairs with one key the first counts. -/
theorem lookup_cons {κ α : Type} [DecidableEq κ] (k k' : κ) (x : α) (es : List (κ × α)) :
    ((k, x) :: es).lookup k' = if k' = k then some x else es.lookup k' := by
  by_cases h : k' = k
  · simp [h]
  · simp [List.lookup_cons, h, beq_false_of_ne h]

structure Valuation where
  entries : List (String × Bool)
  sorted : entries.Pairwise fun e e' => e.1 < e'.1
deriving DecidableEq, Repr

namespace Valuation

/-! ### Entries -/

/-- The entries with the value of `v` set to `b`. -/
def put (v : String) (b : Bool) : List (String × Bool) → List (String × Bool)
  | [] => [(v, b)]
  | e :: es => if v < e.1 then (v, b) :: e :: es else if v = e.1 then (v, b) :: es else e :: put v b es

/-- The value that is lost when the value of `v` is set. -/
def displaced? (v : String) : List (String × Bool) → Option Bool
  | [] => none
  | e :: es => if v < e.1 then none else if v = e.1 then some e.2 else displaced? v es

theorem mem_put {v : String} {b : Bool} {e : String × Bool} :
    ∀ {es : List (String × Bool)}, e ∈ put v b es → e = (v, b) ∨ e ∈ es
  | [], h => by simpa [put] using h
  | d :: es, h => by
    rw [put] at h
    split at h
    · simpa using h
    · split at h
      · rcases List.mem_cons.mp h with h | h
        · exact .inl h
        · exact .inr (List.mem_cons_of_mem _ h)
      · rcases List.mem_cons.mp h with rfl | h
        · exact .inr (by simp)
        · exact (mem_put h).imp_right (List.mem_cons_of_mem _)

theorem lt_of_not_lt_of_ne {v w : String} (h : ¬v < w) (hne : v ≠ w) : w < v :=
  Decidable.byContradiction fun h' => hne (String.le_antisymm (String.not_lt.mp h') (String.not_lt.mp h))

theorem sorted_put {v : String} {b : Bool} :
    ∀ {es : List (String × Bool)}, es.Pairwise (fun e e' => e.1 < e'.1) →
      (put v b es).Pairwise fun e e' => e.1 < e'.1
  | [], _ => by simp [put]
  | d :: es, h => by
    obtain ⟨hd, hes⟩ := List.pairwise_cons.mp h
    rw [put]
    split
    next hlt =>
      refine List.pairwise_cons.mpr ⟨fun e he => ?_, h⟩
      rcases List.mem_cons.mp he with rfl | he
      · exact hlt
      · exact String.lt_trans hlt (hd e he)
    next hlt =>
      split
      next heq => exact List.pairwise_cons.mpr ⟨fun e he => heq ▸ hd e he, hes⟩
      next hne =>
        refine List.pairwise_cons.mpr ⟨fun e he => ?_, sorted_put hes⟩
        rcases mem_put he with rfl | he
        · exact lt_of_not_lt_of_ne hlt hne
        · exact hd e he

/-! ### Operations -/

/-- The valuation without entries. -/
def empty : Valuation := ⟨[], .nil⟩

instance : Inhabited Valuation := ⟨empty⟩

/-- The value of `v`, if it has one. -/
def get? (b : Valuation) (v : String) : Option Bool := b.entries.lookup v

/-- The valuation with the value of `v` set to `x`. -/
def insert (b : Valuation) (v : String) (x : Bool) : Valuation := ⟨put v x b.entries, sorted_put b.sorted⟩

/-- The value that `v` had so far, and the valuation with the value of `v` set to `x`. -/
def exchange (b : Valuation) (v : String) (x : Bool) : Option Bool × Valuation :=
  (displaced? v b.entries, b.insert v x)

/-- The number of names that have a value. -/
def size (b : Valuation) : Nat := b.entries.length

def isEmpty (b : Valuation) : Bool := b.entries.isEmpty

/-- The valuation with the pairs inserted from left to right. -/
def extend (b : Valuation) (pairs : List (String × Bool)) : Valuation :=
  pairs.foldl (fun b e => b.insert e.1 e.2) b

/-- The valuation of the pairs, where of two pairs for a name the later one counts. -/
def ofList (pairs : List (String × Bool)) : Valuation := empty.extend pairs

/-! ### Values -/

theorem lookup_put (v w : String) (x : Bool) :
    ∀ es : List (String × Bool), (put v x es).lookup w = if w = v then some x else es.lookup w
  | [] => by simp [put, lookup_cons]
  | (u, y) :: es => by
    rw [put]
    split
    · simp only [lookup_cons]
    · split
      next heq =>
        subst heq
        simp only [lookup_cons]
        split <;> rfl
      next hne =>
        simp only [lookup_cons, lookup_put v w x es]
        by_cases hw : w = u
        · simp [hw, Ne.symm hne]
        · simp [hw]

/-- In entries that are sorted, there is none for a name behind the first greater one. -/
theorem displaced?_eq_lookup {v : String} :
    ∀ {es : List (String × Bool)}, es.Pairwise (fun e e' => e.1 < e'.1) → displaced? v es = es.lookup v
  | [], _ => rfl
  | (w, y) :: es, h => by
    obtain ⟨hw, hes⟩ := List.pairwise_cons.mp h
    rw [displaced?, lookup_cons]
    split
    next hlt =>
      have hbehind : es.lookup v = none := by
        refine List.lookup_eq_none_iff.mpr fun e he => ?_
        simpa using String.ne_of_lt (String.lt_trans hlt (hw e he))
      rw [if_neg (String.ne_of_lt hlt), hbehind]
    next hlt => rw [displaced?_eq_lookup hes]

theorem exchange_eq (b : Valuation) (v : String) (x : Bool) : b.exchange v x = (b.get? v, b.insert v x) := by
  rw [exchange, displaced?_eq_lookup b.sorted, get?]

@[simp] theorem get?_empty (v : String) : empty.get? v = none := rfl

@[simp] theorem get?_insert (b : Valuation) (v w : String) (x : Bool) :
    (b.insert v x).get? w = if w = v then some x else b.get? w :=
  lookup_put v w x b.entries

@[simp] theorem extend_nil (b : Valuation) : b.extend [] = b := rfl

@[simp] theorem extend_cons (b : Valuation) (e : String × Bool) (es : List (String × Bool)) :
    b.extend (e :: es) = (b.insert e.1 e.2).extend es := rfl

theorem extend_append (b : Valuation) (es es' : List (String × Bool)) :
    b.extend (es ++ es') = (b.extend es).extend es' :=
  List.foldl_append

end Valuation

end Propositional
