import Mathlib.Data.Nat.Bitwise
import Mathlib.Logic.ExistsUnique
import Propositional.Enumeration
import Propositional.Proofs.Valuation

/-! Counting through the valuations of some names. The lowest bits of the numbers below `2 ^ n` are all lists of `n`
    truth values, each once, so every choice of values stands at one place of the enumeration. The valuations of
    different names are then enumerated each once. -/

namespace Propositional

theorem valuationCount_eq (n : Nat) : valuationCount n = 2 ^ n := Nat.one_shiftLeft n

/-! ### Bits -/

theorem getElem?_bits {index width k : Nat} (hk : k < width) : (bits index width)[k]? = some (index.testBit k) := by
  simp [bits, hk]

theorem eq_of_bits_eq {width i j : Nat} (hi : i < 2 ^ width) (hj : j < 2 ^ width) (h : bits i width = bits j width) :
    i = j := by
  refine Nat.eq_of_testBit_eq fun k => ?_
  by_cases hk : k < width
  · have := congrArg (·[k]?) h
    simpa [getElem?_bits hk] using this
  · have hle : 2 ^ width ≤ 2 ^ k := Nat.pow_le_pow_right (by omega) (by omega)
    rw [Nat.testBit_lt_two_pow (Nat.lt_of_lt_of_le hi hle), Nat.testBit_lt_two_pow (Nat.lt_of_lt_of_le hj hle)]

theorem exists_bits_eq (values : List Bool) : ∃ i < 2 ^ values.length, bits i values.length = values := by
  refine ⟨Nat.ofBits fun k : Fin values.length => values[k], Nat.ofBits_lt_two_pow _, ?_⟩
  refine List.ext_getElem (by simp) fun k hk hk' => ?_
  simp only [bits, List.getElem_map, List.getElem_range]
  rw [Nat.testBit_ofBits_lt _ _ hk']
  rfl

theorem existsUnique_bits {width : Nat} (values : List Bool) (h : values.length = width) :
    ∃! i, i < 2 ^ width ∧ bits i width = values := by
  subst h
  obtain ⟨i, hi, hbits⟩ := exists_bits_eq values
  exact ⟨i, ⟨hi, hbits⟩, fun j ⟨hj, hj'⟩ => eq_of_bits_eq hj hi (hj'.trans hbits.symm)⟩

/-! ### Valuations -/

theorem Valuation.all?_eq {names : List String} (h : names.length < wordBits) :
    Valuation.all? names = some ((List.range (2 ^ names.length)).map (Valuation.nth names)) := by
  rw [Valuation.all?, Enumeration.start?, dif_pos h, Option.map_some, Enumeration.rest, Enumeration.drain_eq,
    Enumeration.remaining, Enumeration.total, valuationCount_eq, Nat.sub_zero, List.range_eq_range']

namespace Valuation
variable {names : List String}

theorem bits_eq_map (h : names.Nodup) (index : Nat) :
    bits index names.length = names.map fun v => index.testBit (names.idxOf v) := by
  refine List.ext_getElem (by simp) fun k hk hk' => ?_
  have hidx := h.idxOf_getElem k (by simpa using hk)
  simp [bits, hidx]

theorem get?_nth (h : names.Nodup) (index : Nat) (v : String) :
    (nth names index).get? v = if v ∈ names then some (index.testBit (names.idxOf v)) else none := by
  rw [nth, bits_eq_map h, get?_ofList_zip_map]

theorem binds_nth (h : names.Nodup) (index : Nat) : (nth names index).Binds names := by
  intro v
  rw [get?_nth h]
  split <;> simp_all

theorem nth_injOn (h : names.Nodup) {i j : Nat} (hi : i < 2 ^ names.length) (hj : j < 2 ^ names.length)
    (heq : nth names i = nth names j) : i = j := by
  refine eq_of_bits_eq hi hj ?_
  rw [bits_eq_map h, bits_eq_map h]
  refine List.map_congr_left fun v hv => ?_
  have hget := congrArg (·.get? v) heq
  simpa [get?_nth h, hv] using hget

/-- Every choice of values for the names stands in the enumeration. -/
theorem exists_nth_get? (names : List String) (value : String → Bool) :
    ∃ i < 2 ^ names.length, ∀ v, (nth names i).get? v = if v ∈ names then some (value v) else none := by
  obtain ⟨i, hi, hbits⟩ := exists_bits_eq (names.map value)
  rw [List.length_map] at hi hbits
  refine ⟨i, hi, fun v => ?_⟩
  rw [nth, hbits, get?_ofList_zip_map]

theorem exists_nth_eq {b : Valuation} (h : b.Binds names) : ∃ i < 2 ^ names.length, nth names i = b := by
  obtain ⟨i, hi, hget⟩ := exists_nth_get? names fun v => (b.get? v).getD false
  refine ⟨i, hi, ext_get? fun v => ?_⟩
  rw [hget]
  have hv := h v
  split
  next hmem =>
    obtain ⟨x, hx⟩ := Option.isSome_iff_exists.mp (hv.mpr hmem)
    rw [hx, Option.getD_some]
  next hmem =>
    have hnone := Option.not_isSome_iff_eq_none.mp (mt hv.mp hmem)
    exact hnone.symm

end Valuation

end Propositional
