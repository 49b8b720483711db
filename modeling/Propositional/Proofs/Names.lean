import Propositional.Text.Search
import Propositional.Proofs.Grammar.Acceptance
import Propositional.Proofs.Text.Words
import Propositional.Proofs.Token.Scans

/-! The names that are found in a text without reading it as a formula: the words that have letters only. A text that has
    tokens is made of letters, white space and symbols; none but the letters are word characters, so all words of the
    text are names, those of its tokens. -/

namespace Propositional
open Text

/-! ### Word characters -/

theorem isWordChar_of_isBlank {c : Char} (h : isBlank c = true) : isWordChar c = false := by
  rw [isWordChar, isAlphabetic_eq_false_of_isBlank h, inRanges_eq_false h (by decide +kernel), Bool.or_false]

theorem isWordChar_spelling {t : Token} (ht : t.isSymbol = true) : ∀ c ∈ t.spelling.toList, isWordChar c = false := by
  intro c hc
  exact isWordChar_symbol (spelling_subset ht hc)

theorem Scans.endsWord {s : List Char} {ts : List Token} (h : Scans s ts) (he : EndsName s) :
    ∀ c ∈ s.head?, isWordChar c = false := by
  intro c hc
  cases h with
  | nil => simp at hc
  | blank hb _ =>
    cases hc
    exact isWordChar_of_isBlank hb
  | symbol ht _ =>
    obtain ⟨d, rest, hspelling, hd⟩ := exists_cons_spelling ht
    rw [hspelling] at hc
    cases hc
    exact isWordChar_symbol hd
  | name hv _ _ =>
    obtain ⟨d, run, hrun, hd⟩ := hv.exists_cons
    rw [hrun] at hc he
    cases hc
    rw [he c rfl] at hd
    cases hd

/-! ### Words of letters -/

theorem namesIn_eq (s : List Char) :
    namesIn s = (((words s).filter fun word => word.all isAlphabetic).map String.ofList).eraseDups := by
  rw [namesIn, letterWords_eq s rfl]

/-- The names in a text, which need not be a formula, are its words that have letters only: there is a list of all
    of these words, each at its place and in the order in which they stand, and the names are its entries, each once and
    in the order in which they occur first. -/
theorem exists_words_firstOccurrences_namesIn (s : List Char) :
    ∃ spans : List Span, (∀ w, w ∈ spans ↔ IsWord s w ∧ ∀ c ∈ w.part, isAlphabetic c = true) ∧
      spans.Pairwise (fun w w' => w.front.length < w'.front.length) ∧
      FirstOccurrences (spans.map fun w => String.ofList w.part) (namesIn s) := by
  obtain ⟨spans, hparts, hsorted, hspans⟩ := exists_words s
  refine ⟨spans.filter fun w => w.part.all isAlphabetic, fun w => ?_, hsorted.filter _, firstOccurrences_iff.mpr ?_⟩
  · rw [List.mem_filter, hspans, List.all_eq_true]
  · rw [namesIn_eq, ← hparts, List.filter_map, List.map_map]
    rfl

/-- A word that goes on with a digit, an underscore or a mark is no name, and neither are the letters in it. -/
example : namesIn "a1 snake_case b\u0301 x b x".toList = ["x", "b"] := by decide +kernel

/-! ### Names of tokens -/

theorem words_of_scans {s : List Char} {ts : List Token} (h : Scans s ts) :
    words s = (ts.filterMap Token.name?).map String.toList := by
  induction h with
  | nil => simp [words]
  | @blank c s ts hb _ ih =>
    rw [← ih, words, runs_cons_of_neg (isWordChar_of_isBlank hb), words]
  | @symbol t s ts ht _ ih =>
    have hname : t.name? = none := by
      cases t with
      | name v => simp [Token.isSymbol] at ht
      | _ => rfl
    rw [words, runs_append_of_neg (isWordChar_spelling ht), List.filterMap_cons_none hname]
    exact ih
  | @name v s ts hv he hs ih =>
    -- Behind the name stands no letter, and in a text with tokens then no other word character either.
    have hword : ∀ c ∈ v.toList, isWordChar c = true := fun c hc => isWordChar_of_isAlphabetic (hv.2 c hc)
    have hname : (Token.name v).name? = some v := rfl
    rw [words, runs_append (by simpa using hv.1) hword (hs.endsWord he), List.filterMap_cons_some hname, List.map_cons,
      ← ih, words]

theorem namesIn_of_scans {s : List Char} {ts : List Token} (h : Scans s ts) :
    namesIn s = (ts.filterMap Token.name?).eraseDups := by
  have hletters : ∀ word ∈ (ts.filterMap Token.name?).map String.toList, word.all isAlphabetic = true := by
    intro word hword
    obtain ⟨v, hv, rfl⟩ := List.mem_map.mp hword
    exact List.all_eq_true.mpr (h.isName (Token.mem_filterMap_name?.mp hv)).2
  rw [namesIn_eq, words_of_scans h, List.filter_eq_self.mpr hletters, List.map_map]
  congr 1
  exact (List.map_congr_left fun v _ => String.ofList_toList).trans (List.map_id _)

theorem namesIn_source {source : String} {s : Statement} (h : Statement.parse source = .ok s) :
    namesIn source.toList = s.formula.vars := by
  obtain ⟨⟨tokens, ht, hd⟩, -, -⟩ := Statement.parse_eq_ok_iff.mp h
  rw [namesIn_of_scans (scans_iff.mpr ⟨tokens, ht, rfl⟩), hd.eq_tokens, Formula.vars_eq, Formula.occurrences]

/-- In a text with tokens the names found are those of the tokens, each once and in the order in which they occur first;
    so in a text that makes a statement they are the statement's variables. -/
theorem namesIn_firstOccurrences :
    (∀ s tokens, tokenize s = .ok tokens → FirstOccurrences (tokens.filterMap (·.value.name?)) (namesIn s)) ∧
      ∀ source s, Statement.parse source = .ok s → namesIn source.toList = s.vars := by
  refine ⟨fun s tokens ht => firstOccurrences_iff.mpr ?_, fun source s h => ?_⟩
  · rw [namesIn_of_scans (scans_iff.mpr ⟨tokens, ht, rfl⟩), List.filterMap_map]
    rfl
  · rw [namesIn_source h, (Statement.parse_eq_ok_iff.mp h).2.2]

end Propositional
