import Mathlib.Data.List.Perm.Basic
import Mathlib.Data.List.TakeWhile
import Propositional.Proofs.Token.Scans
import Propositional.Proofs.Valuation.Reading

/-! Which texts give a valuation, said of the text as it stands. Between its commas, blank pieces apart, stand
    assignments to different names, with any white space around names and values. So the order of the pieces, blank
    pieces and white space make no difference, neither to whether the text gives a valuation nor to which one. -/

namespace Propositional
open Text

/-! ### Blank text -/

theorem Text.trim_eq_nil_iff {s : List Char} : trim s = [] ↔ ∀ c ∈ s, isBlank c = true := by
  constructor
  · intro h
    obtain ⟨t, u, ht, hu, hs⟩ := exists_append_trim_append s
    rw [hs, h, List.append_nil]
    exact List.forall_mem_append.mpr ⟨ht, hu⟩
  · intro h
    rw [trim, dropWhile_isBlank_eq_nil h]
    rfl

namespace Valuation

/-! ### Names -/

/-- The text is a name of assignments. -/
def Assignable (v : String) : Prop := isName v.toList = true

theorem isName_toList {v : String} (h : IsName v) : isName v.toList = true := by
  obtain ⟨hne, hletters⟩ := h
  simp only [isName, Bool.and_eq_true, Bool.not_eq_true', List.isEmpty_eq_false_iff, List.all_eq_true]
  exact ⟨fun hnil => hne (String.toList_eq_nil_iff.mp hnil), fun c hc => isNameLetter_of_isAlphabetic (hletters c hc)⟩

/-- The text is one token, a name. -/
def IsToken (v : String) : Prop := ∃ offset, tokenize v.toList = .ok [⟨.name v, offset⟩]

theorem isToken_iff_isName {v : String} : IsToken v ↔ IsName v := by
  constructor
  · rintro ⟨offset, htokens⟩
    have hscans : Scans v.toList [.name v] := scans_iff.mpr ⟨_, htokens, rfl⟩
    exact hscans.isName (List.mem_singleton.mpr rfl)
  · intro hv
    have hscans : Scans (v.toList ++ []) [.name v] := .name hv (by simp [EndsName]) .nil
    rw [List.append_nil] at hscans
    obtain ⟨tokens, htokens, hvalues⟩ := scans_iff.mp hscans
    obtain ⟨⟨token, offset⟩, rfl, htoken⟩ := List.map_eq_singleton_iff.mp hvalues
    cases htoken
    exact ⟨offset, htokens⟩

/-- The tokens among the names of assignments are those with no other letters than formulas have. -/
theorem isToken_iff {v : String} : IsToken v ↔ Assignable v ∧ ∀ c ∈ v.toList, isAlphabetic c = true := by
  rw [isToken_iff_isName]
  constructor
  · intro h
    exact ⟨isName_toList h, h.2⟩
  · rintro ⟨hname, hletters⟩
    obtain ⟨hne, -⟩ := isPlain_of_isName hname
    exact ⟨fun hv => hne (String.toList_eq_nil_iff.mpr hv), hletters⟩

/-! ### The sides of a piece -/

theorem sign_notMem {w : List Char} (hw : ∀ c ∈ w, isBlank c = true) : '=' ∉ w :=
  fun h => absurd (hw '=' h) (by decide +kernel)

theorem ne_sign {front : List Char} (h : '=' ∉ front) : ∀ c ∈ front, decide (c ≠ '=') = true := by
  intro c hc
  refine decide_eq_true ?_
  rintro rfl
  exact h hc

/-- What stands before and after the first equals sign, without white space at the ends. -/
def sides? (piece : List Char) : Option (List Char × List Char) :=
  match piece.dropWhile (· ≠ '=') with
  | [] => none
  | _ :: back => some (trim (piece.takeWhile (· ≠ '=')), trim back)

theorem sides?_of_notMem {piece : List Char} (h : '=' ∉ piece) : sides? piece = none := by
  rw [sides?, List.dropWhile_eq_nil_iff.mpr (ne_sign h)]

theorem sides?_sign {front : List Char} (h : '=' ∉ front) (back : List Char) :
    sides? (front ++ '=' :: back) = some (trim front, trim back) := by
  rw [sides?, List.dropWhile_append_of_pos (ne_sign h), List.takeWhile_append_of_pos (ne_sign h)]
  simp

theorem sides?_eq_some_iff {piece name value : List Char} :
    sides? piece = some (name, value) ↔
      ∃ front back, piece = front ++ '=' :: back ∧ '=' ∉ front ∧ trim front = name ∧ trim back = value := by
  constructor
  · intro h
    by_cases hsign : '=' ∈ piece
    · obtain ⟨front, back, rfl, hfront⟩ := List.eq_append_cons_of_mem hsign
      rw [sides?_sign hfront] at h
      obtain ⟨hname, hvalue⟩ := Prod.mk.inj (Option.some.inj h)
      exact ⟨front, back, rfl, hfront, hname, hvalue⟩
    · rw [sides?_of_notMem hsign] at h
      cases h
  · rintro ⟨front, back, rfl, hfront, rfl, rfl⟩
    exact sides?_sign hfront back

section
variable {w w' : List Char} (hw : ∀ c ∈ w, isBlank c = true) (hw' : ∀ c ∈ w', isBlank c = true)
include hw hw'

theorem sides?_around (piece : List Char) : sides? (w ++ piece ++ w') = sides? piece := by
  by_cases h : '=' ∈ piece
  · obtain ⟨front, back, rfl, hfront⟩ := List.eq_append_cons_of_mem h
    have hname : trim (w ++ front) = trim front := by
      simpa using trim_surrounded hw (List.forall_mem_nil _) front
    have hvalue : trim (back ++ w') = trim back := by
      simpa using trim_surrounded (List.forall_mem_nil _) hw' back
    have hleft : '=' ∉ w ++ front := by
      simp [sign_notMem hw, hfront]
    have hpiece : w ++ (front ++ '=' :: back) ++ w' = (w ++ front) ++ '=' :: (back ++ w') := by
      simp
    rw [hpiece, sides?_sign hleft, sides?_sign hfront, hname, hvalue]
  · have hnot : '=' ∉ w ++ piece ++ w' := by
      simp [sign_notMem hw, sign_notMem hw', h]
    rw [sides?_of_notMem h, sides?_of_notMem hnot]

theorem sides?_around_sign {front : List Char} (hfront : '=' ∉ front) (back : List Char) :
    sides? (front ++ w ++ '=' :: (w' ++ back)) = sides? (front ++ '=' :: back) := by
  have hname : trim (front ++ w) = trim front := by
    simpa using trim_surrounded (List.forall_mem_nil _) hw front
  have hvalue : trim (w' ++ back) = trim back := by
    simpa using trim_surrounded hw' (List.forall_mem_nil _) back
  have hleft : '=' ∉ front ++ w := by
    simp [sign_notMem hw, hfront]
  rw [sides?_sign hleft, sides?_sign hfront, hname, hvalue]

end

theorem sides?_trim (piece : List Char) : sides? (trim piece) = sides? piece := by
  obtain ⟨t, u, ht, hu, hpiece⟩ := exists_append_trim_append piece
  nth_rewrite 2 [hpiece]
  exact (sides?_around ht hu (trim piece)).symm

/-! ### Assignments -/

/-- The piece assigns the value to the name: the name stands before its first equals sign and a spelling of the value
    behind, with any white space around them. Which texts are names is left open. -/
def Gives (named : String → Prop) (piece : List Char) (e : String × Bool) : Prop :=
  ∃ front back, piece = front ++ '=' :: back ∧ '=' ∉ front ∧ trim front = e.1.toList ∧ named e.1 ∧
    String.ofList (trim back) ∈ if e.2 then trueSpellings else falseSpellings

theorem readTruth?_eq_some_iff {s : String} {x : Bool} :
    readTruth? s = some x ↔ s ∈ if x then trueSpellings else falseSpellings := by
  have hdisjoint : ∀ s ∈ falseSpellings, s ∉ trueSpellings := by decide
  cases x with
  | true => simp [readTruth?]
  | false =>
    by_cases hs : s ∈ trueSpellings
    · have hnot : s ∉ falseSpellings := fun h => hdisjoint s h hs
      simp [readTruth?, hs, hnot]
    · simp [readTruth?, hs]

theorem gives_iff {named : String → Prop} {piece : List Char} {e : String × Bool} :
    Gives named piece e ↔ ∃ value, sides? piece = some (e.1.toList, value) ∧ named e.1 ∧
      readTruth? (String.ofList value) = some e.2 := by
  simp only [sides?_eq_some_iff, readTruth?_eq_some_iff, Gives]
  constructor
  · rintro ⟨front, back, hpiece, hfront, hname, hnamed, hvalue⟩
    exact ⟨_, ⟨front, back, hpiece, hfront, hname, rfl⟩, hnamed, hvalue⟩
  · rintro ⟨_, ⟨front, back, hpiece, hfront, hname, rfl⟩, hnamed, hvalue⟩
    exact ⟨front, back, hpiece, hfront, hname, hnamed, hvalue⟩

theorem readPiece_eq_ok_iff {piece : List Char} {e : String × Bool} :
    readPiece piece = .ok e ↔ ∃ value, sides? piece = some (e.1.toList, value) ∧ Assignable e.1 ∧
      readTruth? (String.ofList value) = some e.2 := by
  obtain ⟨v, x⟩ := e
  rw [readPiece, sides?]
  cases piece.dropWhile (· ≠ '=') with
  | nil => simp
  | cons c back =>
    generalize trim (piece.takeWhile (· ≠ '=')) = name
    constructor
    · intro h
      dsimp only at h
      split at h
      · cases h
      next hname =>
        split at h
        · cases h
        next y hvalue =>
          cases h
          exact ⟨trim back, by simp, by simpa [Assignable] using hname, hvalue⟩
    · rintro ⟨value, hsides, hname, hvalue⟩
      obtain ⟨rfl, rfl⟩ := Prod.mk.inj (Option.some.inj hsides)
      rw [Assignable] at hname
      simp [hname, hvalue]

theorem readPiece_trim_eq_ok_iff {piece : List Char} {e : String × Bool} :
    readPiece (trim piece) = .ok e ↔ Gives Assignable piece e := by
  rw [readPiece_eq_ok_iff, sides?_trim, gives_iff]

/-! ### Lists of pieces -/

/-- The pieces that are not blank give values to different names, and the valuation gives these names these values. -/
def Makes (named : String → Prop) (pieces : List (List Char)) (b : Valuation) : Prop :=
  ∃ es, List.Forall₂ (Gives named) (pieces.filter fun piece => !piece.all isBlank) es ∧ (es.map Prod.fst).Nodup ∧
    ∀ v x, b.get? v = some x ↔ (v, x) ∈ es

theorem eq_ofList_iff {es : List (String × Bool)} (h : (es.map Prod.fst).Nodup) {b : Valuation} :
    b = ofList es ↔ ∀ v x, b.get? v = some x ↔ (v, x) ∈ es := by
  constructor
  · rintro rfl v x
    exact get?_ofList_eq_some_iff h
  · intro hget
    refine ext_get? fun v => Option.ext fun x => ?_
    rw [hget, get?_ofList_eq_some_iff h]

theorem pieces_eq (text : List Char) :
    pieces text = ((text.splitOn ',').filter fun piece => !piece.all isBlank).map trim := by
  rw [pieces, List.filter_map]
  refine congrArg _ (List.filter_congr fun piece _ => ?_)
  rw [Function.comp_apply, Bool.not_inj_iff, Bool.eq_iff_iff, List.isEmpty_iff, trim_eq_nil_iff, List.all_eq_true]

theorem read_eq_ok_iff_makes {text : String} {b : Valuation} :
    read text = .ok b ↔ Makes Assignable (text.toList.splitOn ',') b := by
  rw [read_eq_ok_iff, pieces_eq]
  simp only [List.forall₂_map_left_iff, readPiece_trim_eq_ok_iff, Makes]
  exact exists_congr fun es => and_congr_right fun _ => and_congr_right fun hnodup => eq_ofList_iff hnodup

/-- The same pieces, but for their order, blank pieces, and white space around names, values and commas. -/
inductive Alike : List (List Char) → List (List Char) → Prop where
  | perm {ps qs : List (List Char)} : ps.Perm qs → Alike ps qs
  | blank {w : List Char} {ps : List (List Char)} : (∀ c ∈ w, isBlank c = true) → Alike ps (w :: ps)
  | around {w w' p : List Char} {ps : List (List Char)} : (∀ c ∈ w, isBlank c = true) → (∀ c ∈ w', isBlank c = true) →
    Alike (p :: ps) ((w ++ p ++ w') :: ps)
  | sign {w w' front back : List Char} {ps : List (List Char)} : (∀ c ∈ w, isBlank c = true) →
    (∀ c ∈ w', isBlank c = true) → '=' ∉ front →
    Alike ((front ++ '=' :: back) :: ps) ((front ++ w ++ '=' :: (w' ++ back)) :: ps)
  | symm {ps qs : List (List Char)} : Alike ps qs → Alike qs ps
  | trans {ps qs rs : List (List Char)} : Alike ps qs → Alike qs rs → Alike ps rs

section
variable {named : String → Prop} {ps qs : List (List Char)} {b : Valuation}

theorem Makes.of_perm (hperm : ps.Perm qs) (h : Makes named ps b) : Makes named qs b := by
  obtain ⟨es, hes, hnodup, hget⟩ := h
  obtain ⟨es', hes', hperm'⟩ := List.perm_comp_forall₂ (hperm.symm.filter _) hes
  refine ⟨es', hes', (hperm'.map Prod.fst).nodup_iff.mpr hnodup, fun v x => ?_⟩
  rw [hget, hperm'.mem_iff]

/-- A piece may be put in the place of another one that gives the same. -/
theorem makes_cons_congr {p q : List Char} (hblank : p.all isBlank = q.all isBlank) (hsides : sides? p = sides? q) :
    Makes named (p :: ps) b ↔ Makes named (q :: ps) b := by
  simp only [Makes, List.filter_cons, hblank]
  split
  · simp only [List.forall₂_cons_left_iff, gives_iff, hsides]
  · rfl

theorem Alike.makes_iff (h : Alike ps qs) : Makes named ps b ↔ Makes named qs b := by
  induction h with
  | perm hperm => exact ⟨.of_perm hperm, .of_perm hperm.symm⟩
  | blank hw => simp [Makes, List.all_eq_true.mpr hw]
  | around hw hw' =>
    refine makes_cons_congr ?_ (sides?_around hw hw' _).symm
    simp [List.all_append, List.all_eq_true.mpr hw, List.all_eq_true.mpr hw']
  | sign hw hw' hfront =>
    refine makes_cons_congr ?_ (sides?_around_sign hw hw' hfront _).symm
    simp [List.all_append, List.all_eq_true.mpr hw, List.all_eq_true.mpr hw']
  | symm _ ih => exact ih.symm
  | trans _ _ ih ih' => exact ih.trans ih'

end

/-- A text gives a valuation when the pieces between its commas that are not blank assign values to different names,
    and the valuation has these values and no others. A name of an assignment is a token of a formula when all its
    letters are letters of formulas. The order of the pieces, blank pieces, and white space around names, values and
    commas make no difference. -/
theorem read_iff_makes (text : String) :
    (∀ b, read text = .ok b ↔ Makes Assignable (text.toList.splitOn ',') b) ∧
      (∀ v, IsToken v ↔ Assignable v ∧ ∀ c ∈ v.toList, isAlphabetic c = true) ∧
      ∀ text' : String, Alike (text.toList.splitOn ',') (text'.toList.splitOn ',') →
        ∀ b, read text = .ok b ↔ read text' = .ok b := by
  refine ⟨fun b => read_eq_ok_iff_makes, fun v => isToken_iff, fun text' halike b => ?_⟩
  rw [read_eq_ok_iff_makes, read_eq_ok_iff_makes, halike.makes_iff]

/-- The assignments in the other order, with a blank piece between them and a space in front of a sign. -/
theorem read_iff_makes_spread : ∃ b, read "a=1,b=0" = .ok b ∧ read "b =0, ,a=1" = .ok b := by
  obtain ⟨-, -, halike⟩ := read_iff_makes "a=1,b=0"
  have hpieces : "a=1,b=0".toList.splitOn ',' = ["a=1".toList, "b=0".toList] := by decide +kernel
  have hpieces' : "b =0, ,a=1".toList.splitOn ',' = ["b =0".toList, [' '], "a=1".toList] := by decide +kernel
  have hspace : ∀ c ∈ [' '], isBlank c = true := List.all_eq_true.mp (by decide +kernel)
  have hsign : Alike ["b=0".toList, "a=1".toList] ["b =0".toList, "a=1".toList] :=
    @Alike.sign [' '] [] ['b'] ['0'] _ hspace (List.forall_mem_nil _) (by decide)
  have hgap : Alike ["a=1".toList, "b=0".toList] ["b =0".toList, [' '], "a=1".toList] :=
    .trans (.perm (.swap _ _ _)) (.trans hsign (.trans (.blank hspace) (.perm (.swap _ _ _))))
  have hread : read "a=1,b=0" = .ok (.ofList [("a", true), ("b", false)]) := by decide +kernel
  rw [hpieces] at halike
  exact ⟨_, hread, (halike _ (hpieces' ▸ hgap) _).mp hread⟩

/-- The letter U+0C5C is one of those that names of assignments have and formulas do not have. -/
theorem not_forall_read_iff_makes :
    ¬∀ (text : String) (b : Valuation), read text = .ok b ↔ Makes IsToken (text.toList.splitOn ',') b := by
  intro h
  have hread : read "\u0c5c=1" = .ok (ofList [("\u0c5c", true)]) := by decide +kernel
  obtain ⟨es, hes, -, hget⟩ := (h _ _).mp hread
  have hpieces : (("\u0c5c=1".toList.splitOn ',').filter fun piece => !piece.all isBlank) = [['\u0c5c', '=', '1']] := by
    decide +kernel
  rw [hpieces] at hes
  obtain ⟨e, es, hgives, hnil, rfl⟩ := List.forall₂_cons_left_iff.mp hes
  cases hnil
  have he := (hget "\u0c5c" true).mp (by decide +kernel)
  obtain rfl := List.mem_singleton.mp he
  obtain ⟨front, back, -, -, -, htoken, -⟩ := hgives
  exact absurd ((isToken_iff.mp htoken).2 '\u0c5c' (by decide +kernel)) (by decide +kernel)

end Valuation
end Propositional
