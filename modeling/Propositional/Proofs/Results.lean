/-! Results of several steps, each of which can fail: what is known of the steps when all of them succeed, and the result
    when one of them fails. -/

namespace Propositional
variable {α β ε : Type}

theorem bind_eq_ok_iff {x : Except ε α} {k : α → Except ε β} {b : β} :
    x >>= k = .ok b ↔ ∃ a, x = .ok a ∧ k a = .ok b := by
  cases x <;> simp [bind, Except.bind]

theorem mapM_eq_ok {f : α → Except ε β} {g : α → β} {l : List α} (h : ∀ x ∈ l, f x = .ok (g x)) :
    l.mapM f = .ok (l.map g) := by
  induction l with
  | nil => rfl
  | cons x l ih =>
    rw [List.mapM_cons, h x (by simp), ih fun y hy => h y (List.mem_cons_of_mem _ hy)]
    rfl

theorem mapM_eq_error {f : α → Except ε β} {e : ε} {l : List α} (h : ∃ x ∈ l, f x = .error e)
    (hall : ∀ x ∈ l, ∀ e', f x = .error e' → e' = e) : l.mapM f = .error e := by
  induction l with
  | nil => simp at h
  | cons x l ih =>
    obtain ⟨hx, hl⟩ := List.forall_mem_cons.mp hall
    rw [List.mapM_cons]
    cases hfirst : f x with
    | error e' =>
      rw [hx e' hfirst]
      rfl
    | ok b =>
      obtain ⟨y, hy, he⟩ := h
      rcases List.mem_cons.mp hy with rfl | hy
      · rw [hfirst] at he
        cases he
      · have htail := ih ⟨y, hy, he⟩ hl
        rw [htail]
        rfl

theorem exists_of_mem_mapM {f : α → Except ε β} {l : List α} {results : List β} (h : l.mapM f = .ok results) :
    ∀ result ∈ results, ∃ a ∈ l, f a = .ok result := by
  induction l generalizing results with
  | nil =>
    cases h
    exact List.forall_mem_nil _
  | cons a l ih =>
    rw [List.mapM_cons] at h
    obtain ⟨first, hfirst, h⟩ := bind_eq_ok_iff.mp h
    obtain ⟨rest, hrest, h⟩ := bind_eq_ok_iff.mp h
    cases h
    refine List.forall_mem_cons.mpr ⟨⟨a, List.mem_cons_self, hfirst⟩, fun result hresult => ?_⟩
    obtain ⟨b, hb, hfb⟩ := ih hrest result hresult
    exact ⟨b, List.mem_cons_of_mem _ hb, hfb⟩

end Propositional
