import Mathlib.Data.List.Induction
import Propositional.Proofs.Enumeration

/-! Going through an enumeration. Whatever is asked of it, and in whatever order, it stands at a number that begins with
    zero and never goes beyond the number of valuations. The number alone decides each reply and the next number, and no
    request ever leads back, so at the end there is no further valuation. Of a repeated name the last place decides. -/

namespace Propositional

/-! ### Repeated names -/

namespace Valuation
variable {names : List String} {v : String}

theorem bits_succ (index width : Nat) : bits index (width + 1) = bits index width ++ [index.testBit width] := by
  simp [bits, List.range_succ]

theorem get?_nth_concat (names : List String) (w v : String) (index : Nat) :
    (nth (names ++ [w]) index).get? v = if v = w then some (index.testBit names.length) else (nth names index).get? v := by
  have hzip : (names ++ [w]).zip (bits index (names ++ [w]).length) =
      names.zip (bits index names.length) ++ [(w, index.testBit names.length)] := by
    rw [List.length_append, List.length_singleton, bits_succ, List.zip_append (length_bits _ _).symm]
    rfl
  rw [nth, hzip, get?_ofList, List.reverse_append, List.reverse_singleton, List.singleton_append,
    lookup_cons, nth, get?_ofList]

theorem get?_nth_of_notMem (h : v ∉ names) (index : Nat) : (nth names index).get? v = none := by
  rw [← Option.not_isSome_iff_eq_none, nth, isSome_get?_ofList_zip_iff (length_bits _ _).symm]
  exact h

/-- The last place of a name is the bit that decides its value. -/
theorem get?_nth_of_last {j : Nat} (hj : names[j]? = some v) (hlast : ∀ k, j < k → names[k]? ≠ some v) (index : Nat) :
    (nth names index).get? v = some (index.testBit j) := by
  induction names using List.reverseRecOn with
  | nil => cases hj
  | append_singleton names w ih =>
    rw [get?_nth_concat]
    have hend : (names ++ [w])[names.length]? = some w := List.getElem?_concat_length
    have hlt := (List.getElem?_eq_some_iff.mp hj).1
    rw [List.length_append, List.length_singleton] at hlt
    rcases Nat.lt_or_eq_of_le (Nat.lt_succ_iff.mp hlt) with hj' | rfl
    · have hne : v ≠ w := fun heq => hlast _ hj' (heq ▸ hend)
      rw [if_neg hne]
      rw [List.getElem?_append_left hj'] at hj
      refine ih hj fun k hk hv => hlast k hk ?_
      rw [List.getElem?_append_left (List.getElem?_eq_some_iff.mp hv).1, hv]
    · rw [hend] at hj
      rw [if_pos (Option.some.inj hj).symm]

end Valuation

namespace Enumeration

/-! ### Requests -/

/-- What can be asked of an enumeration. A look takes the next valuation of a copy. -/
inductive Request where
  | next
  | skip (k : Nat)
  | look
  | count
  | rest

inductive Reply where
  | valuation (b : Option Valuation)
  | number (n : Nat)
  | valuations (bs : List Valuation)

/-- The reply to a request, and the place after it. -/
def answer (e : Enumeration) : Request → Reply × Enumeration
  | .next => (.valuation e.next.1, e.next.2)
  | .skip k => (.valuation (e.skip k).1, (e.skip k).2)
  | .look => (.valuation e.next.1, e)
  | .count => (.number e.remaining, e)
  | .rest => (.valuations e.drain.1, e.drain.2)

/-- The place after the requests. -/
def run (e : Enumeration) (requests : List Request) : Enumeration :=
  requests.foldl (fun e request => (e.answer request).2) e

theorem run_append (e : Enumeration) (requests more : List Request) :
    e.run (requests ++ more) = (e.run requests).run more :=
  List.foldl_append

/-! ### Numbers -/

/-- Valuation `i` of the names, if it has this number. -/
def item? (names : List String) (i : Nat) : Option Valuation :=
  if i < 2 ^ names.length then some (.nth names i) else none

theorem item?_eq_none_iff {names : List String} {i : Nat} : item? names i = none ↔ 2 ^ names.length ≤ i := by
  rw [item?]
  split <;> simp_all

/-- The number of the place after the request, where it was `p` before. -/
def Request.moved (total p : Nat) : Request → Nat
  | .next => min (p + 1) total
  | .skip k => min (p + k + 1) total
  | .look => p
  | .count => p
  | .rest => total

/-- The reply at the place with the number `p`. -/
def Request.reply (names : List String) (p : Nat) : Request → Reply
  | .next => .valuation (item? names p)
  | .skip k => .valuation (item? names (p + k))
  | .look => .valuation (item? names p)
  | .count => .number (2 ^ names.length - p)
  | .rest => .valuations ((List.range' p (2 ^ names.length - p)).map (Valuation.nth names))

theorem Request.moved_of_end (total : Nat) (request : Request) : request.moved total total = total := by
  cases request <;> simp [moved]
  omega

theorem total_eq (e : Enumeration) : e.total = 2 ^ e.names.length := valuationCount_eq _

theorem remaining_eq (e : Enumeration) : e.remaining = 2 ^ e.names.length - e.position := by
  rw [remaining, total_eq]

theorem current?_eq (e : Enumeration) : e.current? = item? e.names e.position := by
  rw [current?, item?, total_eq]

theorem current?_advance (e : Enumeration) (k : Nat) : (e.advance k).current? = item? e.names (e.position + k) := by
  rw [current?, item?, total_eq, position_advance, total_eq]
  have hnames : (e.advance k).names = e.names := rfl
  rw [hnames]
  by_cases h : e.position + k < 2 ^ e.names.length
  · rw [Nat.min_eq_left (Nat.le_of_lt h)]
  · rw [if_neg h, if_neg (by omega)]

/-- What one request does: the number of the place decides the reply, and where it leads. -/
theorem answer_eq (e : Enumeration) (request : Request) :
    (e.answer request).1 = request.reply e.names e.position ∧ (e.answer request).2.names = e.names ∧
      (e.answer request).2.position = request.moved (2 ^ e.names.length) e.position := by
  have hposition : ∀ k, (e.advance k).position = min (e.position + k) (2 ^ e.names.length) := by
    intro k
    rw [position_advance, total_eq]
  cases request with
  | next =>
    rw [answer, next_eq, current?_eq]
    exact ⟨rfl, rfl, hposition 1⟩
  | skip k =>
    rw [answer, skip_eq, current?_advance]
    exact ⟨rfl, rfl, hposition (k + 1)⟩
  | look =>
    rw [answer, next_eq, current?_eq]
    exact ⟨rfl, rfl, rfl⟩
  | count =>
    rw [answer, remaining_eq]
    exact ⟨rfl, rfl, rfl⟩
  | rest =>
    rw [answer, drain_eq]
    refine ⟨by rw [remaining_eq]; rfl, rfl, ?_⟩
    have hle := e.position_le_total
    rw [Request.moved, hposition, remaining_eq]
    rw [total_eq] at hle
    omega

/-- What a run does: the numbers move on by themselves. -/
theorem run_eq (e : Enumeration) (requests : List Request) :
    (e.run requests).names = e.names ∧
      (e.run requests).position = requests.foldl (fun p request => request.moved (2 ^ e.names.length) p) e.position := by
  induction requests generalizing e with
  | nil => exact ⟨rfl, rfl⟩
  | cons request requests ih =>
    obtain ⟨-, hnames, hposition⟩ := e.answer_eq request
    have hrun : e.run (request :: requests) = (e.answer request).2.run requests := rfl
    obtain ⟨ihnames, ihposition⟩ := ih (e.answer request).2
    rw [hnames] at ihnames ihposition
    rw [hrun, ihnames, ihposition, hposition]
    exact ⟨rfl, rfl⟩

/-- At the end every request leaves the place where it is. -/
theorem position_run_of_end {e : Enumeration} (h : e.position = 2 ^ e.names.length) (requests : List Request) :
    (e.run requests).position = 2 ^ e.names.length := by
  rw [(e.run_eq requests).2, h]
  induction requests with
  | nil => rfl
  | cons request requests ih => rw [List.foldl_cons, Request.moved_of_end, ih]

/-- At the end there is no further valuation, whatever was asked in between. -/
theorem exhausted {e : Enumeration} (h : e.position = 2 ^ e.names.length) (requests : List Request) (k : Nat) :
    (e.run requests).next.1 = none ∧ ((e.run requests).skip k).1 = none := by
  have hnames := (e.run_eq requests).1
  have hposition := position_run_of_end h requests
  constructor
  · rw [next_eq, current?_eq, hnames, hposition]
    exact item?_eq_none_iff.mpr (Nat.le_refl _)
  · rw [skip_eq, current?_advance, hnames, hposition]
    exact item?_eq_none_iff.mpr (Nat.le_add_right _ _)

theorem exists_start?_eq_some {names : List String} (h : names.length < wordBits) :
    ∃ e, start? names = some e ∧ e.names = names ∧ e.position = 0 :=
  ⟨⟨names, 0, h, Nat.zero_le _⟩, dif_pos h, rfl, rfl⟩

/-- The valuations of fewer than 64 names, where names may be repeated, are gone through by a number. Whatever was asked
    before, it is not above `2 ^ n`, so many valuations are left as it is below that, and it decides what comes next;
    once it is `2 ^ n`, there is never a valuation again. Valuation `i` gives a name the bit of `i` at the last place of
    the name. If the names are different, the valuations are, and each valuation of just these names is one of them. -/
theorem exists_start_run {names : List String} (h : names.length < 64) :
    (∃ e, start? names = some e ∧ ∀ requests : List Request, ∃ p,
      p = requests.foldl (fun p request => request.moved (2 ^ names.length) p) 0 ∧
      p ≤ 2 ^ names.length ∧ (e.run requests).remaining = 2 ^ names.length - p ∧
      (∀ request, ((e.run requests).answer request).1 = request.reply names p) ∧
      (p = 2 ^ names.length → ∀ more k, (e.run (requests ++ more)).next.1 = none ∧
        ((e.run (requests ++ more)).skip k).1 = none)) ∧
    (∀ i v, (∀ j, names[j]? = some v → (∀ k, j < k → names[k]? ≠ some v) →
        (Valuation.nth names i).get? v = some (i.testBit j)) ∧
      (v ∉ names → (Valuation.nth names i).get? v = none)) ∧
    (names.Nodup →
      (∀ i < 2 ^ names.length, ∀ j < 2 ^ names.length, Valuation.nth names i = Valuation.nth names j → i = j) ∧
      ∀ b : Valuation, b.Binds names → ∃! i, i < 2 ^ names.length ∧ Valuation.nth names i = b) := by
  refine ⟨?_, fun i v => ⟨?_, ?_⟩, fun hnodup => ⟨?_, ?_⟩⟩
  · obtain ⟨e, hstart, rfl, hzero⟩ := exists_start?_eq_some h
    refine ⟨e, hstart, fun requests => ?_⟩
    obtain ⟨hnames, hposition⟩ := e.run_eq requests
    refine ⟨(e.run requests).position, ?_, ?_, ?_, fun request => ?_, fun hend more k => ?_⟩
    · rw [hposition, hzero]
    · rw [← hnames, ← total_eq]
      exact position_le_total _
    · rw [remaining_eq, hnames]
    · rw [(answer_eq _ request).1, hnames]
    · rw [run_append]
      exact exhausted (hnames ▸ hend) more k
  · intro j hj hlast
    exact Valuation.get?_nth_of_last hj hlast i
  · intro hv
    exact Valuation.get?_nth_of_notMem hv i
  · intro i hi j hj heq
    exact Valuation.nth_injOn hnodup hi hj heq
  · intro b hb
    obtain ⟨i, hi, rfl⟩ := Valuation.exists_nth_eq hb
    exact ⟨i, ⟨hi, rfl⟩, fun j ⟨hj, heq⟩ => Valuation.nth_injOn hnodup hj hi heq⟩

/-- The name `a` stands at the places 0 and 2; the number 6 has the bits 1 and 2. -/
theorem exists_start_run_repeated :
    ∃ e, start? ["a", "b", "a"] = some e ∧ (e.run [.next, .skip 4, .look]).remaining = 2 ∧
      ((e.run [.next, .skip 4, .look]).answer .next).1 = .valuation (some (.nth ["a", "b", "a"] 6)) ∧
      (Valuation.nth ["a", "b", "a"] 6).get? "a" = some true ∧
      (e.run [.next, .skip (2 ^ 64 - 1), .look, .rest]).next.1 = none := by
  obtain ⟨⟨e, hstart, hrun⟩, hbits, -⟩ := @exists_start_run ["a", "b", "a"] (by decide)
  obtain ⟨p, hp, -, hremaining, hreply, -⟩ := hrun [.next, .skip 4, .look]
  have hsix : p = 6 := hp
  subst hsix
  obtain ⟨q, hq, -, -, -, hend⟩ := hrun [.next, .skip (2 ^ 64 - 1), .look]
  have hlast : ∀ k, 2 < k → ["a", "b", "a"][k]? ≠ some "a" := by
    intro k hk
    rw [List.getElem?_eq_none hk]
    exact nofun
  exact ⟨e, hstart, hremaining, hreply .next, (hbits 6 "a").1 2 rfl hlast, (hend hq [.rest] 0).1⟩

end Enumeration
end Propositional
