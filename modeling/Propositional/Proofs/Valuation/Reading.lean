import Mathlib.Data.List.Forall2
import Propositional.Proofs.Results
import Propositional.Proofs.Text.Trim
import Propositional.Proofs.Valuation
import Propositional.Valuation.Reading

/-! Which texts give a valuation. Each piece between commas that is not blank assigns a value to a name, and the names
    are different; the valuation has these values and no others. White space around names, values and commas is
    trimmed away, and neither a name nor a value has an equals sign or a comma in it. -/

namespace Propositional
open Text

namespace Valuation

/-! ### All pieces -/

theorem assign_eq_ok_iff {b b' : Valuation} {piece : List Char} :
    assign b piece = .ok b' ↔ ∃ e, readPiece piece = .ok e ∧ b.get? e.1 = none ∧ b.insert e.1 e.2 = b' := by
  rw [assign, bind_eq_ok_iff]
  refine exists_congr fun e => and_congr_right fun _ => ?_
  simp only [exchange_eq]
  cases b.get? e.1 with
  | some y => simp [bind, Except.bind, throw, throwThe, MonadExceptOf.throw]
  | none => simp [pure, Except.pure]

theorem foldlM_assign_cons_eq_ok_iff {p : List Char} {ps : List (List Char)} {b b' : Valuation} :
    (p :: ps).foldlM assign b = .ok b' ↔
      ∃ e, readPiece p = .ok e ∧ b.get? e.1 = none ∧ ps.foldlM assign (b.insert e.1 e.2) = .ok b' := by
  rw [List.foldlM_cons, bind_eq_ok_iff]
  simp only [assign_eq_ok_iff]
  constructor
  · rintro ⟨_, ⟨e, he, hnone, rfl⟩, hrest⟩
    exact ⟨e, he, hnone, hrest⟩
  · rintro ⟨e, he, hnone, hrest⟩
    exact ⟨_, ⟨e, he, hnone, rfl⟩, hrest⟩

theorem forall_get?_insert_eq_none_iff {b : Valuation} {e : String × Bool} {es : List (String × Bool)} :
    (∀ e' ∈ es, (b.insert e.1 e.2).get? e'.1 = none) ↔ e.1 ∉ es.map Prod.fst ∧ ∀ e' ∈ es, b.get? e'.1 = none := by
  simp only [get?_insert, List.mem_map, not_exists, not_and, ← forall_and]
  refine forall₂_congr fun e' _ => ?_
  by_cases h : e'.1 = e.1 <;> simp [h]

/-- The assignments are made when all pieces can be read and no name gets a second value. -/
theorem foldlM_assign_eq_ok_iff {ps : List (List Char)} {b b' : Valuation} :
    ps.foldlM assign b = .ok b' ↔
      ∃ es, List.Forall₂ (fun p e => readPiece p = .ok e) ps es ∧ (es.map Prod.fst).Nodup ∧
        (∀ e ∈ es, b.get? e.1 = none) ∧ b' = b.extend es := by
  induction ps generalizing b with
  | nil => simp [pure, Except.pure, eq_comm]
  | cons p ps ih =>
    rw [foldlM_assign_cons_eq_ok_iff]
    simp only [ih]
    constructor
    · rintro ⟨e, he, hnone, es, hes, hnodup, hfresh, rfl⟩
      obtain ⟨hnotin, hfresh⟩ := forall_get?_insert_eq_none_iff.mp hfresh
      exact ⟨e :: es, .cons he hes, List.nodup_cons.mpr ⟨hnotin, hnodup⟩, List.forall_mem_cons.mpr ⟨hnone, hfresh⟩, rfl⟩
    · rintro ⟨_, hall, hnodup, hfresh, rfl⟩
      obtain ⟨e, es, he, hes, rfl⟩ := List.forall₂_cons_left_iff.mp hall
      obtain ⟨hnotin, hnodup⟩ := List.nodup_cons.mp hnodup
      obtain ⟨hnone, hfresh⟩ := List.forall_mem_cons.mp hfresh
      exact ⟨e, he, hnone, es, hes, hnodup, forall_get?_insert_eq_none_iff.mpr ⟨hnotin, hfresh⟩, rfl⟩

theorem read_eq_ok_iff {text : String} {b : Valuation} :
    read text = .ok b ↔
      ∃ es, List.Forall₂ (fun p e => readPiece p = .ok e) (pieces text.toList) es ∧ (es.map Prod.fst).Nodup ∧
        b = ofList es := by
  rw [read, foldlM_assign_eq_ok_iff]
  simp [ofList]

/-! ### One piece -/

theorem isNameLetter_eq_false_of_isBlank {c : Char} (h : isBlank c = true) : isNameLetter c = false := by
  rw [isNameLetter, isAlphabetic_eq_false_of_isBlank h, inRanges_eq_false h (by decide +kernel), Bool.or_false]

/-- The characters of names and of values: no white space, and none of the marks between them. -/
def IsPlain (text : List Char) : Prop := ∀ c ∈ text, isBlank c = false ∧ c ≠ '=' ∧ c ≠ ','

theorem isPlain_of_isName {text : List Char} (h : isName text = true) : text ≠ [] ∧ IsPlain text := by
  simp only [isName, Bool.and_eq_true, Bool.not_eq_true', List.all_eq_true] at h
  refine ⟨by simpa using h.1, fun c hc => ?_⟩
  have hletter := h.2 c hc
  have hmarks : isNameLetter '=' = false ∧ isNameLetter ',' = false := by decide +kernel
  refine ⟨Bool.eq_false_iff.mpr fun hblank => ?_, ?_, ?_⟩
  · rw [isNameLetter_eq_false_of_isBlank hblank] at hletter
    cases hletter
  · rintro rfl
    rw [hmarks.1] at hletter
    cases hletter
  · rintro rfl
    rw [hmarks.2] at hletter
    cases hletter

theorem isPlain_of_readTruth? {value : String} {x : Bool} (h : readTruth? value = some x) :
    value.toList ≠ [] ∧ IsPlain value.toList := by
  have hmem : value ∈ trueSpellings ++ falseSpellings := by
    rw [readTruth?] at h
    split at h
    next htrue => exact List.mem_append_left _ htrue
    next =>
      split at h
      next hfalse => exact List.mem_append_right _ hfalse
      next => cases h
  have hall : (trueSpellings ++ falseSpellings).all (fun s => !s.toList.isEmpty &&
      s.toList.all fun c => !isBlank c && c != '=' && c != ',') = true := by decide +kernel
  have hvalue := List.all_eq_true.mp hall value hmem
  simpa [IsPlain, and_assoc] using hvalue

/-- The characters assign the value to the name, with any white space around both. -/
def Assigns (chars : List Char) (v value : String) : Prop :=
  ∃ w₁ w₂ w₃ w₄, (∀ c ∈ w₁ ++ w₂ ++ w₃ ++ w₄, isBlank c = true) ∧
    chars = w₁ ++ v.toList ++ w₂ ++ ['='] ++ w₃ ++ value.toList ++ w₄

section
variable {chars : List Char} {v value : String} {x : Bool}

theorem Assigns.exists_trim_eq (h : Assigns chars v value) (hv : isName v.toList = true)
    (hvalue : readTruth? value = some x) :
    ∃ w₂ w₃, (∀ c ∈ w₂, isBlank c = true) ∧ (∀ c ∈ w₃, isBlank c = true) ∧
      trim chars = v.toList ++ w₂ ++ '=' :: (w₃ ++ value.toList) := by
  obtain ⟨w₁, w₂, w₃, w₄, hw, rfl⟩ := h
  simp only [List.forall_mem_append] at hw
  obtain ⟨⟨⟨hw₁, hw₂⟩, hw₃⟩, hw₄⟩ := hw
  obtain ⟨hvne, hvplain⟩ := isPlain_of_isName hv
  obtain ⟨hvaluene, hvalueplain⟩ := isPlain_of_readTruth? hvalue
  have hcore : IsTrimmed (v.toList ++ (w₂ ++ '=' :: w₃) ++ value.toList) :=
    isTrimmed_surrounded hvne hvaluene (fun c hc => (hvplain c hc).1) (fun c hc => (hvalueplain c hc).1) _
  refine ⟨w₂, w₃, hw₂, hw₃, ?_⟩
  simpa using hcore.trim_surrounded hw₁ hw₄

/-- An assignment is read at its first equals sign, for there is none in the name. -/
theorem Assigns.readPiece_trim (h : Assigns chars v value) (hv : isName v.toList = true)
    (hvalue : readTruth? value = some x) : trim chars ≠ [] ∧ readPiece (trim chars) = .ok (v, x) := by
  obtain ⟨w₂, w₃, hw₂, hw₃, htrim⟩ := h.exists_trim_eq hv hvalue
  obtain ⟨-, hvplain⟩ := isPlain_of_isName hv
  obtain ⟨-, hvalueplain⟩ := isPlain_of_readTruth? hvalue
  have hsign : ∀ c ∈ v.toList ++ w₂, decide (c ≠ '=') = true := by
    intro c hc
    refine decide_eq_true ?_
    rcases List.mem_append.mp hc with hc | hc
    · exact (hvplain c hc).2.1
    · rintro rfl
      exact absurd (hw₂ '=' hc) (by decide +kernel)
  have hname : trim (v.toList ++ w₂) = v.toList :=
    (isTrimmed_of_forall fun c hc => (hvplain c hc).1).trim_append hw₂
  have hrest : trim (w₃ ++ value.toList) = value.toList :=
    (isTrimmed_of_forall fun c hc => (hvalueplain c hc).1).append_trim hw₃
  constructor
  · rw [htrim]
    simp
  · rw [htrim, readPiece, List.dropWhile_append_of_pos hsign, List.takeWhile_append_of_pos hsign]
    simp [hname, hv, hrest, hvalue]

theorem Assigns.notMem (h : Assigns chars v value) (hv : isName v.toList = true) (hvalue : readTruth? value = some x) :
    ',' ∉ chars := by
  obtain ⟨w₁, w₂, w₃, w₄, hw, rfl⟩ := h
  have hblank : ∀ w : List Char, (∀ c ∈ w, isBlank c = true) → ',' ∉ w := by
    intro w hw hc
    exact absurd (hw ',' hc) (by decide +kernel)
  simp only [List.forall_mem_append] at hw
  obtain ⟨⟨⟨hw₁, hw₂⟩, hw₃⟩, hw₄⟩ := hw
  have hname : ',' ∉ v.toList := fun hc => ((isPlain_of_isName hv).2 ',' hc).2.2 rfl
  have hspelling : ',' ∉ value.toList := fun hc => ((isPlain_of_readTruth? hvalue).2 ',' hc).2.2 rfl
  simp [hblank w₁ hw₁, hblank w₂ hw₂, hblank w₃ hw₃, hblank w₄ hw₄, hname, hspelling]

end

/-! ### Texts of assignments -/

theorem pieces_intercalate {parts : List (List Char)} (h : ∀ part ∈ parts, ',' ∉ part) :
    pieces ([','].intercalate parts) = (parts.map trim).filter fun piece => !piece.isEmpty := by
  cases parts with
  | nil => rfl
  | cons part parts => rw [pieces, List.splitOn_intercalate ',' h (List.cons_ne_nil _ _)]

/-- Assignments to different names, with commas between them, give the valuation that they make. -/
theorem read_intercalate {parts : List (List Char)} {es : List (String × Bool)}
    (hparts : List.Forall₂ (fun part e =>
      isName e.1.toList = true ∧ ∃ value, readTruth? value = some e.2 ∧ Assigns part e.1 value) parts es)
    (hnodup : (es.map Prod.fst).Nodup) : read (String.ofList ([','].intercalate parts)) = .ok (ofList es) := by
  have hread : List.Forall₂ (fun part e => (',' ∉ part ∧ trim part ≠ []) ∧ readPiece (trim part) = .ok e) parts es := by
    refine hparts.imp ?_
    rintro part e ⟨hname, value, hvalue, hassigns⟩
    obtain ⟨hne, hpiece⟩ := hassigns.readPiece_trim hname hvalue
    exact ⟨⟨hassigns.notMem hname hvalue, hne⟩, hpiece⟩
  obtain ⟨hall, hpieces⟩ := (List.forall₂_and_left _ _).mp hread
  have hfilter : ((parts.map trim).filter fun piece => !piece.isEmpty) = parts.map trim := by
    refine List.filter_eq_self.mpr fun piece hpiece => ?_
    obtain ⟨part, hpart, rfl⟩ := List.mem_map.mp hpiece
    simpa using (hall part hpart).2
  refine read_eq_ok_iff.mpr ⟨es, ?_, hnodup, rfl⟩
  rw [String.toList_ofList, pieces_intercalate fun part hpart => (hall part hpart).1, hfilter, List.forall₂_map_left_iff]
  exact hpieces

end Valuation
end Propositional
