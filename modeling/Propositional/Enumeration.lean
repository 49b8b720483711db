import Propositional.Valuation

/-! All valuations of a list of names, in the order of counting: valuation `i` gives name `j` the bit `j` of `i`,
    so the first name changes fastest. -/

namespace Propositional

/-- The lowest `width` bits of `index`, the lowest one first. -/
def bits (index width : Nat) : List Bool := (List.range width).map index.testBit

@[simp] theorem length_bits (index width : Nat) : (bits index width).length = width := by
  simp [bits]

/-- Valuation `index` of the names; of a repeated name the last place counts. -/
def Valuation.nth (names : List String) (index : Nat) : Valuation :=
  .ofList (names.zip (bits index names.length))

/-- The number of valuations of `n` names: each further name doubles it. -/
def valuationCount (n : Nat) : Nat := 1 <<< n

/-- Valuations are numbered by words of this many bits, so fewer names than that can be enumerated. -/
def wordBits : Nat := 64

/-- A place in the list of all valuations of some names. -/
structure Enumeration where
  names : List String
  position : Nat
  length_names : names.length < wordBits
  position_le : position ≤ valuationCount names.length
deriving Repr

namespace Enumeration

/-- The first place, if the valuations can be counted. -/
def start? (names : List String) : Option Enumeration :=
  if h : names.length < wordBits then some ⟨names, 0, h, Nat.zero_le _⟩ else none

/-- The number of valuations of the names. -/
def total (e : Enumeration) : Nat := valuationCount e.names.length

/-- The number of valuations from the place on. -/
def remaining (e : Enumeration) : Nat := e.total - e.position

/-- The valuation at the place, and the next place. The end stays where it is. -/
def next (e : Enumeration) : Option Valuation × Enumeration :=
  if h : e.position < e.total then
    (some (.nth e.names e.position), { e with position := e.position + 1, position_le := Nat.succ_le_of_lt h })
  else (none, e)

/-- The valuation `k` further on, and the place after it. Those before it are passed over one by one, unless the end
    comes first. -/
def skip (e : Enumeration) : Nat → Option Valuation × Enumeration
  | 0 => e.next
  | k + 1 =>
    match e.next with
    | (none, e') => (none, e')
    | (some _, e') => e'.skip k

/-! ### Places -/

/-- The place `k` further on, or the end. -/
def advance (e : Enumeration) (k : Nat) : Enumeration :=
  { e with position := min (e.position + k) e.total, position_le := Nat.min_le_right _ _ }

/-- The valuation at the place, if it is not the end. -/
def current? (e : Enumeration) : Option Valuation :=
  if e.position < e.total then some (.nth e.names e.position) else none

theorem position_advance (e : Enumeration) (k : Nat) :
    (e.advance k).position = min (e.position + k) e.total := rfl

@[simp] theorem total_advance (e : Enumeration) (k : Nat) : (e.advance k).total = e.total := rfl

theorem position_le_total (e : Enumeration) : e.position ≤ e.total := e.position_le

theorem remaining_advance (e : Enumeration) (k : Nat) : (e.advance k).remaining = e.remaining - k := by
  rw [remaining, remaining, total_advance, position_advance]
  omega

theorem current?_eq_none {e : Enumeration} : e.current? = none ↔ e.remaining = 0 := by
  rw [current?, remaining]
  split
  · simp
    omega
  · simp
    omega

theorem eq_of_position {e e' : Enumeration} (hnames : e.names = e'.names) (hposition : e.position = e'.position) :
    e = e' := by
  cases e
  cases e'
  cases hnames
  cases hposition
  rfl

@[simp] theorem advance_zero (e : Enumeration) : e.advance 0 = e :=
  eq_of_position rfl (Nat.min_eq_left e.position_le)

theorem advance_advance (e : Enumeration) (k l : Nat) : (e.advance k).advance l = e.advance (k + l) := by
  refine eq_of_position rfl ?_
  simp only [position_advance, total_advance]
  omega

theorem advance_of_remaining {e : Enumeration} (h : e.remaining = 0) (k : Nat) : e.advance k = e := by
  have hle := e.position_le_total
  refine eq_of_position rfl ?_
  rw [remaining] at h
  rw [position_advance]
  omega

/-! ### What is passed over -/

theorem next_eq (e : Enumeration) : e.next = (e.current?, e.advance 1) := by
  by_cases h : e.position < e.total
  · rw [next, dif_pos h, current?, if_pos h]
    exact congrArg _ (eq_of_position rfl (Nat.min_eq_left h).symm)
  · have hend : e.remaining = 0 := by
      rw [remaining]
      omega
    rw [next, dif_neg h, current?, if_neg h, advance_of_remaining hend]

/-- Passing over one by one comes to the same place as going there at once. -/
theorem skip_eq (e : Enumeration) (k : Nat) : e.skip k = ((e.advance k).current?, e.advance (k + 1)) := by
  induction k generalizing e with
  | zero => rw [skip, next_eq, advance_zero]
  | succ k ih =>
    rw [skip, next_eq]
    cases h : e.current? with
    | none =>
      have hend := current?_eq_none.mp h
      simp only [advance_of_remaining hend, h]
    | some b =>
      have hplace : ∀ l, (e.advance 1).advance l = e.advance (l + 1) := by
        intro l
        rw [advance_advance, Nat.add_comm]
      simp only [ih, hplace]

theorem remaining_lt_of_next {e e' : Enumeration} {b : Valuation} (h : e.next = (some b, e')) :
    e'.remaining < e.remaining := by
  rw [next_eq] at h
  obtain ⟨hcurrent, rfl⟩ := Prod.mk.inj h
  have hne : e.remaining ≠ 0 := by
    rw [ne_eq, ← current?_eq_none, hcurrent]
    exact Option.some_ne_none b
  rw [remaining_advance]
  omega

/-! ### The valuations that are left -/

/-- The valuations from the place on, taken one by one, and the place where they end. -/
def drain (e : Enumeration) : List Valuation × Enumeration :=
  match h : e.next with
  | (none, e') => ([], e')
  | (some b, e') =>
    have := remaining_lt_of_next h
    let (bs, last) := e'.drain
    (b :: bs, last)
termination_by e.remaining

/-- The valuations from the place on. -/
def rest (e : Enumeration) : List Valuation := e.drain.1

theorem drain_eq (e : Enumeration) :
    e.drain = ((List.range' e.position e.remaining).map (Valuation.nth e.names), e.advance e.remaining) := by
  fun_induction drain e with
  | case1 e e' h =>
    rw [next_eq] at h
    obtain ⟨hcurrent, rfl⟩ := Prod.mk.inj h
    have hend := current?_eq_none.mp hcurrent
    simp [hend, advance_of_remaining hend]
  | case2 e b e' h hlt bs last hdrain ih =>
    rw [next_eq] at h
    obtain ⟨hcurrent, rfl⟩ := Prod.mk.inj h
    obtain ⟨n, hn⟩ : ∃ n, e.remaining = n + 1 := ⟨e.remaining - 1, by omega⟩
    have hposition : (e.advance 1).position = e.position + 1 := by
      rw [position_advance]
      rw [remaining] at hn
      omega
    have hb : Valuation.nth e.names e.position = b := by
      rw [current?, if_pos (by rw [remaining] at hn; omega)] at hcurrent
      exact Option.some.inj hcurrent
    rw [hdrain, hposition, remaining_advance, hn, Nat.add_sub_cancel, advance_advance] at ih
    obtain ⟨rfl, rfl⟩ := Prod.mk.inj ih
    rw [hn, List.range'_succ, List.map_cons, hb, Nat.add_comm n 1]
    rfl

end Enumeration

/-- All valuations of the names, if they can be counted. -/
def Valuation.all? (names : List String) : Option (List Valuation) := (Enumeration.start? names).map (·.rest)

end Propositional
