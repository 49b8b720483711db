import Mathlib.Data.Finset.Card
import Propositional.Proofs.Valuation

/-! What was written to a valuation, and what it gives. Only the pairs that are written from the latest collection on
    count, and of the pairs for a name only the last one. So a valuation is known by the values it gives, whichever way
    it was come by, and evaluation asks for nothing else. -/

namespace Propositional
namespace Valuation

/-! ### Pairs -/

/-- The valuation has the last value that the pairs give to each name, and no other. -/
structure Reflects (es : List (String × Bool)) (b : Valuation) : Prop where
  some_iff : ∀ v x, b.get? v = some x ↔ ∃ before after, es = before ++ (v, x) :: after ∧ v ∉ after.map Prod.fst
  none_iff : ∀ v, b.get? v = none ↔ v ∉ es.map Prod.fst
  size_eq : b.size = (es.map Prod.fst).toFinset.card

section
variable {es : List (String × Bool)} {v : String} {x : Bool}

theorem get?_ofList_eq_some_iff_last :
    (ofList es).get? v = some x ↔ ∃ before after, es = before ++ (v, x) :: after ∧ v ∉ after.map Prod.fst := by
  rw [get?_ofList, List.lookup_eq_some_iff]
  simp only [forall_bne_fst_iff]
  constructor
  · rintro ⟨after, before, hes, hafter⟩
    refine ⟨before.reverse, after.reverse, ?_, by simpa using hafter⟩
    rw [← List.reverse_reverse es, hes]
    simp
  · rintro ⟨before, after, rfl, hafter⟩
    exact ⟨after.reverse, before.reverse, by simp, by simpa using hafter⟩

theorem mem_map_fst_entries_iff {b : Valuation} : v ∈ b.entries.map Prod.fst ↔ b.get? v ≠ none := by
  rw [Option.ne_none_iff_exists', List.mem_map]
  constructor
  · rintro ⟨⟨v, x⟩, he, rfl⟩
    exact ⟨x, mem_entries_iff.mp he⟩
  · rintro ⟨x, hx⟩
    exact ⟨(v, x), mem_entries_iff.mpr hx, rfl⟩

/-- A name has one entry, however often it is written. -/
theorem size_ofList (es : List (String × Bool)) : (ofList es).size = (es.map Prod.fst).toFinset.card := by
  have hnames : ((ofList es).entries.map Prod.fst).toFinset = (es.map Prod.fst).toFinset := by
    ext v
    rw [List.mem_toFinset, List.mem_toFinset, mem_map_fst_entries_iff, ne_eq, get?_ofList_eq_none_iff, not_not]
  rw [← hnames, List.toFinset_card_of_nodup (nodup_map_fst_entries _), List.length_map, size]

theorem reflects_ofList (es : List (String × Bool)) : Reflects es (ofList es) where
  some_iff _ _ := get?_ofList_eq_some_iff_last
  none_iff _ := get?_ofList_eq_none_iff
  size_eq := size_ofList es

end

/-! ### Writes -/

/-- What can be written to a valuation: a value for a name, pairs from left to right, or a collection, which puts the
    valuation of the pairs in its place. -/
inductive Write where
  | insert (v : String) (x : Bool)
  | extend (es : List (String × Bool))
  | collect (es : List (String × Bool))

namespace Write

/-- The pairs that are written, in their order. -/
def pairs : Write → List (String × Bool)
  | .insert v x => [(v, x)]
  | .extend es => es
  | .collect es => es

def isCollection : Write → Bool
  | .collect _ => true
  | _ => false

/-- The pairs that are written from the latest collection on, in their order: what is written before a collection does
    not count. -/
def written : List Write → List (String × Bool)
  | [] => []
  | w :: writes => if writes.any isCollection then written writes else w.pairs ++ written writes

end Write

/-- The valuation after a write. -/
def write (b : Valuation) : Write → Valuation
  | .insert v x => (b.exchange v x).2
  | .extend es => b.extend es
  | .collect es => ofList es

/-- The valuation after the writes. -/
def run (b : Valuation) (writes : List Write) : Valuation := writes.foldl write b

theorem run_concat (b : Valuation) (writes : List Write) (w : Write) :
    b.run (writes ++ [w]) = (b.run writes).write w := by
  simp [run]

/-- What one write does: its pairs are inserted, where it is a collection into the empty valuation. -/
theorem write_eq (b : Valuation) (w : Write) :
    b.write w = (if w.isCollection then empty else b).extend w.pairs := by
  cases w with
  | insert v x =>
    rw [write, exchange_eq]
    rfl
  | extend es => rfl
  | collect es => rfl

/-- What a run of writes does: where there is a collection among them, the valuation they began with does not count. -/
theorem run_eq (b : Valuation) (writes : List Write) :
    b.run writes = (if writes.any Write.isCollection then empty else b).extend (Write.written writes) := by
  induction writes generalizing b with
  | nil => rfl
  | cons w writes ih =>
    -- The rest runs from the valuation after `w`, which matters only if there is no collection in the rest.
    have hrun : b.run (w :: writes) = (b.write w).run writes := rfl
    rw [hrun, ih, Write.written, List.any_cons]
    by_cases h : writes.any Write.isCollection
    · simp [h]
    · simp [h, write_eq, extend_append]

theorem run_empty (writes : List Write) : empty.run writes = ofList (Write.written writes) := by
  rw [run_eq, ite_self, ofList]

/-- After any writes a valuation has the value written last to each name since the latest collection, and as many
    entries as there are such names; a further insertion answers with the value so far. Two valuations are equal
    exactly when they give the same values, whatever was written to them and in whatever order, and exactly when all
    formulas evaluate alike; and for one formula it suffices that they give the same values to its variables. -/
theorem reflects_run_and_eq_iff (writes : List Write) :
    Reflects (Write.written writes) (empty.run writes) ∧
      (∀ v x, (empty.run writes).exchange v x = ((empty.run writes).get? v, empty.run (writes ++ [.insert v x]))) ∧
      ∀ others : List Write,
        ((empty.run writes == empty.run others) = true ↔
          ∀ v, (empty.run writes).get? v = (empty.run others).get? v) ∧
        ((empty.run writes == empty.run others) = true ↔
          ∀ f : Formula, f.eval (empty.run writes) = f.eval (empty.run others)) ∧
        ∀ f : Formula, (∀ v ∈ f.vars, (empty.run writes).get? v = (empty.run others).get? v) →
          f.eval (empty.run writes) = f.eval (empty.run others) := by
  refine ⟨?_, fun v x => ?_, fun others => ⟨?_, ?_, fun f h => Formula.eval_congr h⟩⟩
  · rw [run_empty]
    exact reflects_ofList _
  · rw [run_concat, write, exchange_eq]
  · rw [beq_iff_eq]
    exact eq_iff_forall_get?
  · rw [beq_iff_eq]
    exact eq_iff_forall_eval

/-- The pair for `c` stands before a collection, and of the pairs for `b` the first one is overwritten in the same
    list. -/
theorem reflects_run_and_eq_iff_collected :
    (empty.run [.insert "c" true, .collect [("b", true), ("a", true), ("b", false)], .insert "a" false]).get? "b" =
        some false ∧
      (empty.run [.insert "c" true, .collect [("b", true), ("a", true), ("b", false)], .insert "a" false]).get? "c" =
        none ∧
      (∀ f : Formula,
        f.eval (empty.run [.insert "c" true, .collect [("b", true), ("a", true), ("b", false)], .insert "a" false]) =
          f.eval (empty.run [.insert "a" false, .extend [("b", false)]])) ∧
      (Formula.or (.var "b") (.var "a")).eval
          (empty.run [.insert "c" true, .collect [("b", true), ("a", true), ("b", false)], .insert "a" false]) =
        (Formula.or (.var "b") (.var "a")).eval (empty.run [.extend [("a", false), ("c", true)], .insert "b" false]) := by
  obtain ⟨hreflects, -, hothers⟩ := reflects_run_and_eq_iff
    [.insert "c" true, .collect [("b", true), ("a", true), ("b", false)], .insert "a" false]
  refine ⟨?_, ?_, (hothers _).2.1.mp (by decide +kernel), (hothers _).2.2 _ (by decide +kernel)⟩
  · exact (hreflects.some_iff "b" false).mpr ⟨[("b", true), ("a", true)], [("a", false)], rfl, by decide⟩
  · exact (hreflects.none_iff "c").mpr (by decide)

end Valuation
end Propositional
