import Mathlib.Data.List.Chain
import Propositional.Proofs.Token.Coverage

/-! White space between tokens. Added where no token is broken it leaves the tokens as they are; and where no two names
    stand next to each other, the text without any white space has the same tokens too. -/

namespace Propositional
open Text

/-! ### Texts one behind the other -/

section
variable {s s' : List Char} {ts us : List Token} {t : Token}

theorem endsName_blanks {run : List Char} (hrun : ∀ c ∈ run, isBlank c = true) : EndsName run :=
  fun c hc => isAlphabetic_eq_false_of_isBlank (hrun c (List.mem_of_mem_head? hc))

theorem Scans.token (ht : t.EndsAt s) (h : Scans s ts) : Scans (written (some t) ++ s) (t :: ts) := by
  cases t with
  | name v => exact .name ht.1 ht.2 h
  | _ => exact .symbol rfl h

/-! ### Texts without white space -/

/-- No two names stand next to each other. -/
def NamesApart (ts : List Token) : Prop := ts.IsChain fun t u => t.isSymbol = true ∨ u.isSymbol = true

theorem Scans.endsName (h : Scans s ts) (hts : ∀ t ∈ ts.head?, t.isSymbol = true) : EndsName s := by
  cases h with
  | nil => exact fun c hc => by cases hc
  | blank hc _ =>
    intro d hd
    cases hd
    exact isAlphabetic_eq_false_of_isBlank hc
  | symbol ht _ => exact endsName_symbol ht _
  | name _ _ _ => cases hts _ rfl

theorem isBlank_eq_false_of_isAlphabetic {c : Char} (h : isAlphabetic c = true) : isBlank c = false := by
  refine Bool.eq_false_iff.mpr fun hc => ?_
  rw [isAlphabetic_eq_false_of_isBlank hc] at h
  cases h

theorem filter_not_isBlank_eq_self (h : ∀ c ∈ s, isBlank c = false) : s.filter (fun c => !isBlank c) = s :=
  List.filter_eq_self.mpr fun c hc => by rw [h c hc, Bool.not_false]

/-- White space can be left out where no two names stand next to each other. -/
theorem Scans.filter (h : Scans s ts) (hts : NamesApart ts) : Scans (s.filter fun c => !isBlank c) ts := by
  induction h with
  | nil => exact .nil
  | blank hc _ ih =>
    rw [List.filter_cons_of_neg (by simp [hc])]
    exact ih hts
  | symbol ht _ ih =>
    rw [List.filter_append, filter_not_isBlank_eq_self fun c hc => isBlank_symbol (spelling_subset ht hc)]
    exact .symbol ht (ih (List.isChain_cons.mp hts).2)
  | name hv _ _ ih =>
    obtain ⟨hnext, hts⟩ := List.isChain_cons.mp hts
    rw [List.filter_append, filter_not_isBlank_eq_self fun c hc => isBlank_eq_false_of_isAlphabetic (hv.2 c hc)]
    exact .name hv ((ih hts).endsName fun t ht => (hnext t ht).resolve_left nofun) (ih hts)

end

/-! ### White space added -/

/-- No token begins before the offset and ends behind it. -/
def IsBetween (tokens : List (Located Token)) (offset : Nat) : Prop :=
  ∀ t ∈ tokens, offset ≤ t.offset ∨ t.offset + byteLength t.value.spelling.toList ≤ offset

/-- The second text is the first one, which begins at the offset, with white space added between the tokens. -/
inductive Widens (tokens : List (Located Token)) : Nat → List Char → List Char → Prop where
  | nil {offset : Nat} : Widens tokens offset [] []
  | keep {offset : Nat} {c : Char} {s s' : List Char} :
    Widens tokens (offset + c.utf8Size) s s' → Widens tokens offset (c :: s) (c :: s')
  | blank {offset : Nat} {c : Char} {s s' : List Char} :
    isBlank c = true → IsBetween tokens offset → Widens tokens offset s s' → Widens tokens offset s (c :: s')

namespace Widens
variable {tokens : List (Located Token)} {offset : Nat} {s s' t u run : List Char}

theorem refl (tokens : List (Located Token)) (offset : Nat) (s : List Char) : Widens tokens offset s s := by
  induction s generalizing offset with
  | nil => exact .nil
  | cons c s ih => exact .keep (ih _)

/-- White space can be added at any one place between the tokens. -/
theorem insert (pre post : List Char) (hrun : ∀ c ∈ run, isBlank c = true)
    (h : IsBetween tokens (offset + byteLength pre)) : Widens tokens offset (pre ++ post) (pre ++ run ++ post) := by
  induction pre generalizing offset with
  | nil =>
    induction run with
    | nil => exact refl tokens offset post
    | cons c run ih =>
      obtain ⟨hc, hrun⟩ := List.forall_mem_cons.mp hrun
      exact .blank hc h (ih hrun)
  | cons c pre ih =>
    rw [byteLength_cons, ← Nat.add_assoc] at h
    exact .keep (ih h)

theorem append_inv (h : Widens tokens offset (s ++ t) u) :
    ∃ s' t', u = s' ++ t' ∧ Widens tokens offset s s' ∧ Widens tokens (offset + byteLength s) t t' := by
  generalize hst : s ++ t = w at h
  induction h generalizing s with
  | nil =>
    obtain ⟨rfl, rfl⟩ := List.append_eq_nil_iff.mp hst
    exact ⟨[], [], rfl, .nil, .nil⟩
  | @keep offset c w u h ih =>
    cases s with
    | nil =>
      obtain rfl : t = c :: w := hst
      exact ⟨[], c :: u, rfl, .nil, .keep h⟩
    | cons d s =>
      obtain ⟨rfl, hrest⟩ := List.cons.inj hst
      obtain ⟨s', t', rfl, hs, ht⟩ := ih hrest
      refine ⟨d :: s', t', rfl, .keep hs, ?_⟩
      rwa [byteLength_cons, ← Nat.add_assoc]
  | blank hc hoffset _ ih =>
    obtain ⟨s', t', rfl, hs, ht⟩ := ih hst
    exact ⟨_ :: s', t', rfl, .blank hc hoffset hs, ht⟩

theorem endsName (h : Widens tokens offset s s') (hs : EndsName s) : EndsName s' := by
  cases h with
  | nil => exact hs
  | keep _ =>
    intro c hc
    exact hs c hc
  | blank hc _ _ =>
    intro c hc'
    cases hc'
    exact isAlphabetic_eq_false_of_isBlank hc

theorem isBlank_of_mem (h : Widens tokens offset run s') (hrun : ∀ c ∈ run, isBlank c = true) :
    ∀ c ∈ s', isBlank c = true := by
  induction h with
  | nil => exact hrun
  | keep _ ih =>
    obtain ⟨hc, hrun⟩ := List.forall_mem_cons.mp hrun
    exact List.forall_mem_cons.mpr ⟨hc, ih hrun⟩
  | blank hc _ _ ih => exact List.forall_mem_cons.mpr ⟨hc, ih hrun⟩

/-- Where nothing can be added, it is added behind the text. -/
theorem exists_behind (h : Widens tokens offset s s')
    (hs : ∀ n, offset ≤ n → n < offset + byteLength s → ¬IsBetween tokens n) :
    ∃ back, (∀ c ∈ back, isBlank c = true) ∧ s' = s ++ back := by
  induction h with
  | nil => exact ⟨[], List.forall_mem_nil _, rfl⟩
  | @keep offset c s s' _ ih =>
    have hrest : ∀ n, offset + c.utf8Size ≤ n → n < offset + c.utf8Size + byteLength s → ¬IsBetween tokens n := by
      intro n hle hlt
      refine hs n (Nat.le_of_add_right_le hle) ?_
      rwa [byteLength_cons, ← Nat.add_assoc]
    obtain ⟨back, hback, rfl⟩ := ih hrest
    exact ⟨back, hback, rfl⟩
  | @blank offset c s s' hc hoffset _ ih =>
    cases s with
    | nil =>
      obtain ⟨back, hback, hs'⟩ := ih hs
      exact ⟨c :: back, List.forall_mem_cons.mpr ⟨hc, hback⟩, congrArg (c :: ·) hs'⟩
    | cons d s =>
      refine absurd hoffset (hs offset (Nat.le_refl _) ?_)
      have hpos := d.utf8Size_pos
      rw [byteLength_cons]
      omega

theorem exists_around (h : Widens tokens offset s s') (hne : s ≠ [])
    (hs : ∀ n, offset < n → n < offset + byteLength s → ¬IsBetween tokens n) :
    ∃ front back, (∀ c ∈ front, isBlank c = true) ∧ (∀ c ∈ back, isBlank c = true) ∧ s' = front ++ s ++ back := by
  induction h with
  | nil => exact absurd rfl hne
  | @keep offset c s s' h _ =>
    have hrest : ∀ n, offset + c.utf8Size ≤ n → n < offset + c.utf8Size + byteLength s → ¬IsBetween tokens n := by
      intro n hle hlt
      refine hs n (Nat.lt_of_lt_of_le (Nat.lt_add_of_pos_right c.utf8Size_pos) hle) ?_
      rwa [byteLength_cons, ← Nat.add_assoc]
    obtain ⟨back, hback, rfl⟩ := h.exists_behind hrest
    exact ⟨[], back, List.forall_mem_nil _, hback, rfl⟩
  | @blank offset c s s' hc _ _ ih =>
    obtain ⟨front, back, hfront, hback, rfl⟩ := ih hne hs
    exact ⟨c :: front, back, List.forall_mem_cons.mpr ⟨hc, hfront⟩, hback, rfl⟩

end Widens

/-- No place inside of a token is between the tokens. -/
theorem not_isBetween {tokens : List (Located Token)} {t : Located Token} (ht : t ∈ tokens) {n : Nat}
    (hlt : t.offset < n) (hlt' : n < t.offset + byteLength t.value.spelling.toList) : ¬IsBetween tokens n := by
  intro h
  have hn := h t ht
  omega

theorem Laid.scans_of_widens {tokens : List (Located Token)} {offset : Nat} {s s' : List Char}
    {ls : List (Located (Option Token))} (h : Laid offset s ls)
    (hls : ∀ l ∈ ls, ∀ t, l.value = some t → ⟨t, l.offset⟩ ∈ tokens) (hw : Widens tokens offset s s') :
    Scans s' (ls.filterMap (·.value)) := by
  induction h generalizing s' with
  | done hgap =>
    have hscans := Scans.blanks (hw.isBlank_of_mem hgap) .nil
    rwa [List.append_nil] at hscans
  | @token offset gap s t ls hgap ht hlaid ih =>
    obtain ⟨ht', hls⟩ := List.forall_mem_cons.mp hls
    have htoken := ht' t rfl
    obtain ⟨u, rest', rfl, hu, hrest⟩ := hw.append_inv
    obtain ⟨gap', w', rfl, hgap', hw'⟩ := hu.append_inv
    have hne : written (some t) ≠ [] := by
      intro hnil
      have hpos := ht.byteLength_pos
      rw [hnil, byteLength_nil] at hpos
      cases hpos
    obtain ⟨front, back, hfront, hback, rfl⟩ := hw'.exists_around hne fun n hlt hlt' => not_isBetween htoken hlt hlt'
    have hrest' : Scans (back ++ rest') (ls.filterMap (·.value)) := .blanks hback (ih hls hrest)
    have hends : t.EndsAt (back ++ rest') := by
      cases t with
      | name v => exact ⟨ht.1, endsName_append (endsName_blanks hback) (hrest.endsName ht.2)⟩
      | _ => trivial
    have hscans := Scans.blanks (hgap'.isBlank_of_mem hgap) (.blanks hfront (.token hends hrest'))
    simpa using hscans

/-- White space added between its tokens leaves a text its tokens. -/
theorem scans_of_widens {tokens : List (Located Token)} {s s' : List Char} (ht : tokenize s = .ok tokens)
    (hw : Widens tokens 0 s s') : Scans s' (tokens.map (·.value)) := by
  rw [Piece.tokenize_eq_collect, Piece.split_eq] at ht
  have hclosed : ∀ l ∈ closed (byteLength s) tokens, ∀ t, l.value = some t → ⟨t, l.offset⟩ ∈ tokens := by
    intro l hl t hlt
    rcases List.mem_append.mp hl with hl | hl
    · obtain ⟨u, hu, rfl⟩ := List.mem_map.mp hl
      cases hlt
      exact hu
    · obtain rfl := List.mem_singleton.mp hl
      cases hlt
  have hscans := (laid_of_collect ht).scans_of_widens (by simpa using hclosed) hw
  simpa [closed, lexeme, List.filterMap_map, Function.comp_def] using hscans

end Propositional
