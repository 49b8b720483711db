import Propositional.Proofs.Formula.RoundTrip
import Propositional.Proofs.Grammar.Viable
import Propositional.Proofs.Token.Places

/-! Where a text that has tokens but makes no statement is rejected: at its first lexeme with which no statement goes
    on. What stands before it begins the text of a statement, for the reader can be led to the end of a formula from
    every place, and the printed formula is read again. -/

namespace Propositional
open Text

namespace Formula
open Reading

/-- A failing run stops at a lexeme that is rejected at the place to which those before it lead. -/
theorem Reading.exists_rejects_of_run {length : Nat} {reading : Reading} {tokens : List (Located Token)}
    {fault : Located Fault} (h : reading.run length tokens = .error fault) :
    ∃ (done : List (Located Token)) (l : Located (Option Token)) (after : List (Located (Option Token))) (last : Reading),
      closed length tokens = done.map lexeme ++ l :: after ∧
      Reads maxNesting reading (done.map (·.value)) last ∧ last.Rejects fault.value l.value ∧
      fault.offset = l.offset := by
  fun_induction run length reading tokens with
  | case1 reading fault' hf =>
    cases h
    exact ⟨[], ⟨none, length⟩, [], reading, rfl, .nil, hf, rfl⟩
  | case2 reading f hf => cases h
  | case3 reading t ts fault' hs =>
    cases h
    exact ⟨[], lexeme t, closed length ts, reading, rfl, .nil, hs, rfl⟩
  | case4 reading t ts next hs ih =>
    obtain ⟨done, l, after, last, hts, hr, hl, hoffset⟩ := ih h
    refine ⟨t :: done, l, after, last, ?_, .cons (steps_of_step hs) hr, hl, hoffset⟩
    rw [List.map_cons, List.cons_append, ← hts]
    rfl

end Formula

theorem Viable.mono {limit limit' : Nat} {ks : List (Option Token)} (h : Viable limit ks) (hle : limit ≤ limit') :
    Viable limit' ks := by
  obtain ⟨ts, f, hd, hp⟩ := h
  exact ⟨ts, f, hd.of_nesting_le (Nat.le_trans hd.nesting_le hle), hp⟩

theorem Formula.Reading.exists_allows_iff {n : Nat} {reading : Reading} {us : List Token} {k : Option Token}
    (hr : Reads n start us reading) :
    (∃ limit, Allows limit reading k) ↔ ∃ limit, Viable limit (us.map some ++ [k]) := by
  constructor
  · rintro ⟨limit, ha⟩
    have hr' := hr.mono (Nat.le_max_left n limit)
    exact ⟨_, (viable_concat_iff hr').mpr (ha.mono (Nat.le_max_right n limit))⟩
  · rintro ⟨limit, hv⟩
    have hr' := hr.mono (Nat.le_max_left n limit)
    exact ⟨_, (viable_concat_iff hr').mp (hv.mono (Nat.le_max_right n limit))⟩

/-! ### Beginnings of statements -/

namespace Statement
open Formula Reading

/-- The lexemes begin those of some text that makes a statement. -/
def Begins (ks : List (Option Token)) : Prop :=
  ∃ source s ls, parse source = .ok s ∧ lexemes source.toList = .ok ls ∧ ks <+: ls.map (·.value)

theorem Begins.viable {ks : List (Option Token)} (h : Begins ks) : Viable maxNesting ks := by
  obtain ⟨source, s, ls, hs, hls, hp⟩ := h
  obtain ⟨⟨tokens, ht, hd⟩, -, -⟩ := parse_eq_ok_iff.mp hs
  obtain ⟨tokens', ht', rfl⟩ := lexemes_eq_ok_iff.mp hls
  rw [ht] at ht'
  cases ht'
  rw [map_value_closed] at hp
  exact ⟨_, s.formula, hd, hp⟩

/-- The tokens of a well-formed formula are those of its text. -/
theorem begins_tokens {f : Formula} (hf : f.WellFormed) {us : List Token} (hp : us <+: f.tokens) :
    Begins (us.map some) := by
  obtain ⟨tokens, ht, hmap⟩ := scans_iff.mp (scans_chars hf.names)
  have htext : f.render.toList = f.chars := by rw [render, String.toList_ofList]
  refine ⟨f.render, _, _, parse_render_of_wellFormed hf, lexemes_eq_ok_iff.mpr ⟨tokens, htext ▸ ht, rfl⟩, ?_⟩
  rw [map_value_closed, hmap]
  exact (hp.map some).trans (List.prefix_append _ _)

theorem eq_of_name_mem_completion {reading : Reading} {v : String} (h : .name v ∈ reading.completion) : v = "a" := by
  cases reading with
  | operand context outer => simpa [completion] using h
  | operator disjunction last outer => simp [completion] at h

theorem begins_of_reads {reading : Reading} {us : List Token} (hr : Reads maxNesting start us reading)
    (hn : ∀ v, .name v ∈ us → IsName v) : Begins (us.map some) := by
  obtain ⟨f, hd⟩ := derives_completion hr
  obtain ⟨htokens, hshaped, hnesting⟩ := derives_disjunction_iff.mp hd
  have hnames : ∀ v ∈ f.occurrences, IsName v := by
    intro v hv
    have hmem : .name v ∈ f.tokens := Token.mem_filterMap_name?.mp hv
    rw [← htokens, List.mem_append] at hmem
    rcases hmem with hmem | hmem
    · exact hn v hmem
    · rw [eq_of_name_mem_completion hmem]
      decide +kernel
  exact begins_tokens ⟨hnames, hshaped, hnesting⟩ (htokens ▸ List.prefix_append _ _)

/-! ### The lexeme at fault -/

/-- The error of the text stands at the lexeme `l` behind the lexemes `done`, and this is the first one with which no
    statement goes on. It is one parenthesis too many exactly when but for the bound on nesting a formula would go on
    with it; then it is the first parenthesis that is opened while `maxNesting` others are open. -/
structure FirstFault (text : List Char) (e : SyntaxError) (done : List (Located (Option Token)))
    (l : Located (Option Token)) : Prop where
  position : ∃ pre, StandsBehind pre text l.value ∧ byteLength pre = l.offset ∧ e.position = .after pre
  begins : Begins (done.map (·.value))
  not_begins : ¬Begins ((done ++ [l]).map (·.value))
  nestedTooDeeply_iff : e.fault = .nestedTooDeeply ↔ ∃ limit, Viable limit ((done ++ [l]).map (·.value))
  first_openParen : e.fault = .nestedTooDeeply → l.value = some .openParen ∧
    OpenAtMost maxNesting (done.filterMap (·.value)) ∧
    ¬OpenAtMost maxNesting (done.filterMap (·.value) ++ [.openParen])

theorem parse_eq_error_iff {source : String} {e : SyntaxError} :
    parse source = .error e ↔
      ∃ fault, (tokenize source.toList >>= ofTokens (byteLength source.toList)) = .error fault ∧
        e = .ofLocated source.toList fault := by
  rw [parse]
  cases tokenize source.toList >>= ofTokens (byteLength source.toList) with
  | error fault => simp [eq_comm]
  | ok f => simp

theorem parse_eq_error_of_tokenize {source : String} {tokens : List (Located Token)} {e : SyntaxError}
    (ht : tokenize source.toList = .ok tokens) (he : parse source = .error e) :
    ∃ fault, start.run (byteLength source.toList) tokens = .error fault ∧ e = .ofLocated source.toList fault := by
  obtain ⟨fault, hfault, rfl⟩ := parse_eq_error_iff.mp he
  rw [ht] at hfault
  exact ⟨fault, hfault, rfl⟩

theorem not_openAtMost_concat {limit : Nat} {us : List Token} {reading : Reading} (hr : Reads limit start us reading)
    (hle : maxNesting ≤ reading.outer.length) : ¬OpenAtMost maxNesting (us ++ [.openParen]) := by
  intro h
  have hcount := count_tokens reading
  rw [hr.tokens_start] at hcount
  have hall := h _ List.prefix_rfl
  rw [List.count_append, List.count_append, List.count_singleton_self] at hall
  have hclose : List.count Token.closeParen [.openParen] = 0 := rfl
  omega

/-- A text that has tokens and makes no statement is rejected at its first lexeme with which no statement goes on. -/
theorem exists_firstFault {source : String} {e : SyntaxError} {ls : List (Located (Option Token))}
    (hls : lexemes source.toList = .ok ls) (he : parse source = .error e) :
    ∃ done l after, ls = done ++ l :: after ∧ FirstFault source.toList e done l := by
  obtain ⟨tokens, ht, rfl⟩ := lexemes_eq_ok_iff.mp hls
  obtain ⟨fault, hrun, rfl⟩ := parse_eq_error_of_tokenize ht he
  obtain ⟨done, l, after, last, hts, hr, hl, hoffset⟩ := exists_rejects_of_run hrun
  have hdone : (done.map lexeme).map (·.value) = (done.map (·.value)).map some := map_value_lexeme done
  have hupto : (done.map lexeme ++ [l]).map (·.value) = (done.map (·.value)).map some ++ [l.value] := by
    rw [List.map_append, hdone]
    rfl
  have htokens : (done.map lexeme).filterMap (·.value) = done.map (·.value) := by
    rw [List.filterMap_map]
    exact congrFun List.filterMap_eq_map done
  have hnames : ∀ v, .name v ∈ done.map (·.value) → IsName v := by
    intro v hv
    have hmem : some (.name v) ∈ (closed (byteLength source.toList) tokens).map (·.value) := by
      rw [hts, List.map_append, hdone]
      exact List.mem_append_left _ (List.mem_map_of_mem hv)
    rw [map_value_closed] at hmem
    have hscan : Scans source.toList (tokens.map (·.value)) := scans_iff.mpr ⟨tokens, ht, rfl⟩
    exact hscan.isName (by simpa using hmem)
  refine ⟨done.map lexeme, l, after, hts, ?_⟩
  constructor
  case position =>
    obtain ⟨pre, hpre, hlength⟩ := exists_standsBehind hls (hts ▸ List.mem_append_right _ List.mem_cons_self)
    refine ⟨pre, hpre, hlength, ?_⟩
    rw [SyntaxError.ofLocated, hoffset, ← hlength]
    exact hpre.ofOffset_eq
  case begins =>
    rw [hdone]
    exact begins_of_reads hr hnames
  case not_begins =>
    intro hb
    rw [hupto] at hb
    exact hl.not_allows ((viable_concat_iff hr).mp hb.viable)
  case nestedTooDeeply_iff =>
    rw [hupto]
    refine hl.eq_nestedTooDeeply_iff.trans (exists_allows_iff hr)
  case first_openParen =>
    intro hf
    obtain ⟨-, hk, hn, -⟩ | ⟨hne, -⟩ := hl.cases
    · rw [htokens]
      obtain ⟨f, hd⟩ := derives_completion hr
      have hopen := (derives_iff_openAtMost.mp hd).2
      exact ⟨hk, fun us hu => hopen us (hu.trans (List.prefix_append _ _)), not_openAtMost_concat hr hn⟩
    · exact absurd hf hne

/-- In `!!a` the second sign is the first lexeme with which no statement goes on. -/
theorem exists_firstFault_notNot :
    lexemes "!!a".toList = .ok [⟨some .not, 0⟩, ⟨some .not, 1⟩, ⟨some (.name "a"), 2⟩, ⟨none, 3⟩] ∧
      parse "!!a" = .error ⟨.operandExpected (some .not), ⟨1, 2⟩⟩ ∧
      ∃ done l after,
        [⟨some .not, 0⟩, ⟨some .not, 1⟩, ⟨some (.name "a"), 2⟩, ⟨none, 3⟩] = done ++ l :: after ∧
          FirstFault "!!a".toList ⟨.operandExpected (some .not), ⟨1, 2⟩⟩ done l := by
  have hls : lexemes "!!a".toList = .ok [⟨some .not, 0⟩, ⟨some .not, 1⟩, ⟨some (.name "a"), 2⟩, ⟨none, 3⟩] := by
    decide +kernel
  have he : parse "!!a" = .error ⟨.operandExpected (some .not), ⟨1, 2⟩⟩ := by decide +kernel
  exact ⟨hls, he, exists_firstFault hls he⟩

end Statement
end Propositional
