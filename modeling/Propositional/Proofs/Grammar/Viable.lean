import Propositional.Proofs.Grammar.Nesting
import Propositional.Proofs.Grammar.Reader

/-! Where reading fails. From every place the reader can go on to the end of a formula: an operand if one is missing,
    then a closing parenthesis for each open one. So what has been read begins a formula, and the fault stands at the
    first lexeme with which no formula goes on. -/

namespace Propositional
open Text

/-- The lexemes begin those of a formula, with at most `limit` parentheses open at once. -/
def Viable (limit : Nat) (ks : List (Option Token)) : Prop :=
  ∃ ts f, Derives .disjunction limit ts f ∧ ks <+: ts.map some ++ [none]

namespace Formula.Reading

/-! ### Open parentheses -/

/-- The contexts outside of the innermost open parenthesis, one for each open parenthesis. -/
def outer : Reading → List Context
  | .operand _ outer => outer
  | .operator _ _ outer => outer

theorem balanced_operandTokens {t : Token} (ho : t ≠ .openParen) (hc : t ≠ .closeParen) (f : Option Formula) :
    Balanced (operandTokens t f) := by
  cases f with
  | none => rfl
  | some f =>
    have hf : f.tokens.count .openParen = f.tokens.count .closeParen := f.balanced_tokens
    rw [Balanced, operandTokens, List.count_append, List.count_append, hf, List.count_singleton, List.count_singleton,
      beq_false_of_ne ho, beq_false_of_ne hc]

theorem balanced_contextTokens (context : Context) : Balanced (contextTokens context) := by
  have hd := balanced_operandTokens (t := .or) (by simp) (by simp) context.disjunction
  have hc := balanced_operandTokens (t := .and) (by simp) (by simp) context.conjunction
  have hn : Balanced (if context.negated then [.not] else []) := by
    cases context.negated <;> rfl
  unfold Balanced at hd hc hn ⊢
  rw [contextTokens, List.count_append, List.count_append, List.count_append, List.count_append, hd, hc, hn]

theorem count_outerTokens (outer : List Context) :
    (outerTokens outer).count .openParen = (outerTokens outer).count .closeParen + outer.length := by
  induction outer with
  | nil => rfl
  | cons context outer ih =>
    have hc : (contextTokens context).count .openParen = (contextTokens context).count .closeParen :=
      balanced_contextTokens context
    have hopen : List.count Token.openParen [.openParen] = 1 := rfl
    have hclose : List.count Token.closeParen [.openParen] = 0 := rfl
    simp only [outerTokens, List.count_append, List.length_cons]
    rw [ih, hc, hopen, hclose]
    omega

/-- The parentheses open at a place are those that have been read and not been closed. -/
theorem count_tokens (reading : Reading) :
    reading.tokens.count .openParen = reading.tokens.count .closeParen + reading.outer.length := by
  cases reading with
  | operand context outer =>
    have ho := count_outerTokens outer
    have hc : (contextTokens context).count .openParen = (contextTokens context).count .closeParen :=
      balanced_contextTokens context
    rw [tokens_operand, List.count_append, List.count_append, ho, hc, Reading.outer]
    omega
  | operator disjunction last outer =>
    have ho := count_outerTokens outer
    have hf : (disjoin disjunction last).tokens.count .openParen = (disjoin disjunction last).tokens.count .closeParen :=
      (disjoin disjunction last).balanced_tokens
    rw [Reading.tokens, List.count_append, List.count_append, ho, hf, Reading.outer]
    omega

section
variable {limit limit' : Nat} {reading next last : Reading} {token : Token} {ts us : List Token}

/-! ### Ways of the reader -/

theorem Steps.mono (h : Steps limit reading token next) (hle : limit ≤ limit') : Steps limit' reading token next := by
  cases h with
  | name => exact .name
  | openParen hn => exact .openParen (Nat.lt_of_lt_of_le hn hle)
  | not hn => exact .not hn
  | and => exact .and
  | or => exact .or
  | closeParen => exact .closeParen

theorem Reads.mono (h : Reads limit reading ts last) (hle : limit ≤ limit') : Reads limit' reading ts last := by
  induction h with
  | nil => exact .nil
  | cons hs _ ih => exact .cons (hs.mono hle) ih

theorem Reads.split (h : Reads limit reading (ts ++ us) last) :
    ∃ next, Reads limit reading ts next ∧ Reads limit next us last := by
  induction ts generalizing reading with
  | nil => exact ⟨reading, .nil, h⟩
  | cons t ts ih =>
    cases h with
    | cons hs hr =>
      obtain ⟨next, hts, hus⟩ := ih hr
      exact ⟨next, .cons hs hts, hus⟩

theorem Steps.tokens_eq (h : Steps limit reading token next) : next.tokens = reading.tokens ++ [token] := by
  cases h with
  | name => simp [tokens_operand, tokens_supply]
  | openParen => simp [tokens_operand, outerTokens, contextTokens, operandTokens]
  | not hn => simp [tokens_operand, contextTokens, hn]
  | and => simp [tokens_operand, tokens_operator, contextTokens, operandTokens]
  | or => simp [tokens_operand, tokens_operator, contextTokens, operandTokens, tokens_disjoin]
  | closeParen => simp [tokens_operator, tokens_supply, outerTokens, tokens_disjoin]

theorem Reads.tokens_eq (h : Reads limit reading ts last) : last.tokens = reading.tokens ++ ts := by
  induction h with
  | nil => rw [List.append_nil]
  | cons hs _ ih => rw [ih, hs.tokens_eq, List.append_assoc, List.singleton_append]

theorem Reads.tokens_start (h : Reads limit start ts last) : last.tokens = ts := h.tokens_eq

/-! ### To the end of a formula -/

/-- Closing the parentheses that are open after an operand. -/
theorem reads_closeParens (limit : Nat) (disjunction : Option Formula) (f : Formula) (outer : List Context) :
    ∃ disjunction' f', Reads limit (.operator disjunction f outer) (List.replicate outer.length .closeParen)
      (.operator disjunction' f' []) := by
  induction outer generalizing disjunction f with
  | nil => exact ⟨disjunction, f, .nil⟩
  | cons context outer ih =>
    obtain ⟨disjunction', f', hr⟩ := ih context.disjunction _
    exact ⟨disjunction', f', .cons .closeParen hr⟩

/-- Tokens that lead from the place to the end of a formula: the operand that is missing, and a closing parenthesis
    for each open one. -/
def completion (reading : Reading) : List Token :=
  (match reading with
    | .operand _ _ => [.name "a"]
    | .operator _ _ _ => []) ++ List.replicate reading.outer.length .closeParen

theorem reads_completion (limit : Nat) (reading : Reading) :
    ∃ disjunction f, Reads limit reading reading.completion (.operator disjunction f []) := by
  cases reading with
  | operand context outer =>
    obtain ⟨disjunction, f, hr⟩ := reads_closeParens limit context.disjunction _ outer
    exact ⟨disjunction, f, .cons .name hr⟩
  | operator disjunction f outer => exact reads_closeParens limit disjunction f outer

theorem derives_of_reads_finish {f : Formula} (hr : Reads limit start ts last) (hf : last.finish = .ok f) :
    Derives .disjunction limit ts f :=
  derives_of_reads hr hf ((tokens_finish hf).trans hr.tokens_start)

theorem derives_completion (hr : Reads limit start ts reading) :
    ∃ f, Derives .disjunction limit (ts ++ reading.completion) f := by
  obtain ⟨disjunction, f, hc⟩ := reads_completion limit reading
  exact ⟨disjoin disjunction f, derives_of_reads_finish (hr.append hc) rfl⟩

/-! ### What may stand at a place -/

/-- The token may follow at the place, or the text may end there. -/
def Allows (limit : Nat) (reading : Reading) : Option Token → Prop
  | some token => ∃ next, Steps limit reading token next
  | none => ∃ f, reading.finish = .ok f

theorem Allows.mono {k : Option Token} (h : Allows limit reading k) (hle : limit ≤ limit') : Allows limit' reading k := by
  cases k with
  | none => exact h
  | some token =>
    obtain ⟨next, hs⟩ := h
    exact ⟨next, hs.mono hle⟩

/-- The token, or the end of the text, is the fault at the place. -/
def Rejects (reading : Reading) (fault : Fault) : Option Token → Prop
  | some token => reading.step token = .error fault
  | none => reading.finish = .error fault

/-- What is rejected may not stand at the place under any limit, unless it is one parenthesis too many. -/
theorem Rejects.cases {fault : Fault} {k : Option Token} (h : reading.Rejects fault k) :
    (fault = .nestedTooDeeply ∧ k = some .openParen ∧ maxNesting ≤ reading.outer.length ∧
        ∀ limit, Allows limit reading k ↔ reading.outer.length < limit) ∨
      (fault ≠ .nestedTooDeeply ∧ ∀ limit, ¬Allows limit reading k) := by
  cases k with
  | none =>
    have hf : reading.finish = .error fault := h
    have hfault : fault ≠ .nestedTooDeeply := by
      rintro rfl
      obtain ⟨_, _⟩ | ⟨_, _, _ | _⟩ := reading <;> cases hf
    refine .inr ⟨hfault, ?_⟩
    rintro limit ⟨f, hf'⟩
    rw [hf] at hf'
    cases hf'
  | some token =>
    have hs : reading.step token = .error fault := h
    revert hs
    fun_cases step reading token <;> intro hs <;> cases hs
    next hn =>
      refine .inl ⟨rfl, rfl, hn, fun limit => ⟨?_, fun hlt => ⟨_, .openParen hlt⟩⟩⟩
      rintro ⟨next, ⟨⟩⟩
      assumption
    -- No other place that rejects a token has a step for it, under any limit.
    all_goals
      refine .inr ⟨by simp, ?_⟩
      rintro limit ⟨next, hs⟩
      cases hs <;> simp_all

theorem Rejects.not_allows {fault : Fault} {k : Option Token} (h : reading.Rejects fault k) :
    ¬Allows maxNesting reading k := by
  rcases h.cases with ⟨-, -, hn, hiff⟩ | ⟨-, hnot⟩
  · intro ha
    have hlt := (hiff maxNesting).mp ha
    omega
  · exact hnot maxNesting

/-- Only one parenthesis too many might stand at its place under another limit. -/
theorem Rejects.eq_nestedTooDeeply_iff {fault : Fault} {k : Option Token} (h : reading.Rejects fault k) :
    fault = .nestedTooDeeply ↔ ∃ limit, Allows limit reading k := by
  rcases h.cases with ⟨hf, -, -, hiff⟩ | ⟨hf, hnot⟩
  · exact ⟨fun _ => ⟨_, (hiff _).mpr (Nat.lt_succ_self _)⟩, fun _ => hf⟩
  · exact ⟨fun h => absurd h hf, fun ⟨limit, ha⟩ => absurd ha (hnot limit)⟩

end

/-! ### Viable beginnings -/

theorem prefix_closed_iff {us ts : List Token} {k : Option Token} :
    us.map some ++ [k] <+: ts.map some ++ [none] ↔
      match k with
      | some token => us ++ [token] <+: ts
      | none => us = ts := by
  rw [List.prefix_concat_iff, List.append_singleton_inj, List.map_inj_right (fun _ _ => Option.some.inj)]
  cases k with
  | none =>
    constructor
    · rintro (⟨h, -⟩ | ⟨vs, hvs⟩)
      · exact h
      · have hmem : none ∈ ts.map some := by
          rw [← hvs]
          simp
        simp at hmem
    · exact fun h => .inl ⟨h, rfl⟩
  | some token =>
    have hmap : us.map some ++ [some token] = (us ++ [token]).map some := by simp
    rw [hmap, List.prefix_map_iff_of_injective (fun _ _ => Option.some.inj)]
    simp

theorem reads_of_derives {n limit : Nat} {ts : List Token} {f : Formula} (h : Derives .disjunction n ts f)
    (hle : n ≤ limit) : ∃ last, Reads limit start ts last ∧ last.finish = .ok f := by
  obtain ⟨disjunction, f', rfl, hr⟩ := takes_of_derives limit h [] (by simpa using hle)
  exact ⟨_, hr, rfl⟩

/-- Behind what the reader has read, a lexeme begins a formula with it exactly when it may stand at the place. -/
theorem viable_concat_iff {limit : Nat} {reading : Reading} {us : List Token} {k : Option Token}
    (hr : Reads limit start us reading) : Viable limit (us.map some ++ [k]) ↔ Allows limit reading k := by
  constructor
  · rintro ⟨ts, f, hd, hp⟩
    obtain ⟨last, hts, hf⟩ := reads_of_derives hd (Nat.le_refl limit)
    have hp := prefix_closed_iff.mp hp
    cases k with
    | none =>
      obtain rfl : us = ts := hp
      cases hr.unique hts
      exact ⟨f, hf⟩
    | some token =>
      obtain ⟨vs, rfl⟩ : us ++ [token] <+: ts := hp
      obtain ⟨place, hut, -⟩ := hts.split
      obtain ⟨place', hu, ht⟩ := hut.split
      cases hr.unique hu
      cases ht with
      | cons hs _ => exact ⟨_, hs⟩
  · intro h
    cases k with
    | none =>
      obtain ⟨f, hf⟩ := h
      exact ⟨us, f, derives_of_reads_finish hr hf, List.prefix_rfl⟩
    | some token =>
      obtain ⟨next, hs⟩ := h
      obtain ⟨f, hd⟩ := derives_completion (hr.append (.single hs))
      exact ⟨_, f, hd, prefix_closed_iff.mpr (List.prefix_append _ _)⟩

end Formula.Reading
end Propositional
