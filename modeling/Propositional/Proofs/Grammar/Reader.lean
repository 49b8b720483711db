import Propositional.Formula.Grammar
import Propositional.Formula.Parser

/-! The reader of formulas and the grammar. From a derivation the reader's way over the tokens is known, whatever
    stands around them: it takes in the phrase and goes on behind it. Conversely, every part of a formula that
    the reader keeps at a place is a phrase of its kind, within the nesting that the open parentheses leave.

    The steps are stated for any limit on the nesting, so that what follows of the grammar holds at every depth;
    the reader itself steps with `maxNesting`. -/

namespace Propositional
open Text

namespace Formula.Reading

/-! ### Steps -/

/-- The tokens that may follow a place, each with the place after it, where at most `limit` parentheses may be open. -/
inductive Steps (limit : Nat) : Reading → Token → Reading → Prop where
  | name {context : Context} {outer : List Context} {v : String} :
    Steps limit (.operand context outer) (.name v) (supply context outer (.var v))
  | openParen {context : Context} {outer : List Context} : outer.length < limit →
    Steps limit (.operand context outer) .openParen (.operand {} (context :: outer))
  | not {context : Context} {outer : List Context} : context.negated = false →
    Steps limit (.operand context outer) .not (.operand { context with negated := true } outer)
  | and {disjunction : Option Formula} {last : Formula} {outer : List Context} :
    Steps limit (.operator disjunction last outer) .and (.operand { disjunction, conjunction := some last } outer)
  | or {disjunction : Option Formula} {last : Formula} {outer : List Context} :
    Steps limit (.operator disjunction last outer) .or (.operand { disjunction := some (disjoin disjunction last) } outer)
  | closeParen {disjunction : Option Formula} {last : Formula} {context : Context} {outer : List Context} :
    Steps limit (.operator disjunction last (context :: outer)) .closeParen
      (supply context outer (.group (disjoin disjunction last)))

theorem steps_of_step {reading next : Reading} {token : Token} (h : reading.step token = .ok next) :
    Steps maxNesting reading token next := by
  revert h
  fun_cases step reading token <;> intro h <;> simp at h <;> subst h
  · exact .name
  · exact .openParen (by omega)
  · exact .not (by simp_all)
  · exact .and
  · exact .or
  · exact .closeParen

theorem Steps.step_eq {reading next : Reading} {token : Token} (h : Steps maxNesting reading token next) :
    reading.step token = .ok next := by
  cases h with
  | openParen hn => rw [step, if_neg (by omega)]
  | not hn => rw [step, if_neg (by simp [hn])]
  | _ => rfl

section
variable {limit : Nat} {reading next next' last : Reading} {token : Token} {ts us : List Token}

theorem Steps.unique (h : Steps limit reading token next) (h' : Steps limit reading token next') : next = next' := by
  cases h <;> cases h' <;> rfl

/-! ### Ways of the reader -/

/-- The tokens lead from one place to another. -/
inductive Reads (limit : Nat) : Reading → List Token → Reading → Prop where
  | nil {reading : Reading} : Reads limit reading [] reading
  | cons {reading next last : Reading} {token : Token} {ts : List Token} :
    Steps limit reading token next → Reads limit next ts last → Reads limit reading (token :: ts) last

theorem Reads.single (h : Steps limit reading token next) : Reads limit reading [token] next :=
  .cons h .nil

theorem Reads.append (h : Reads limit reading ts next) (h' : Reads limit next us last) :
    Reads limit reading (ts ++ us) last := by
  induction h with
  | nil => exact h'
  | cons hs _ ih => exact .cons hs (ih h')

theorem Reads.unique (h : Reads limit reading ts next) (h' : Reads limit reading ts next') : next = next' := by
  induction h with
  | nil =>
    cases h'
    rfl
  | cons hs _ ih =>
    cases h' with
    | cons hs' h' =>
      cases hs.unique hs'
      exact ih h'

end

theorem run_eq_ok_iff {length : Nat} {reading : Reading} {ts : List (Located Token)} {f : Formula} :
    reading.run length ts = .ok f ↔ ∃ last, Reads maxNesting reading (ts.map (·.value)) last ∧ last.finish = .ok f := by
  constructor
  · intro h
    fun_induction run length reading ts with
    | case1 reading fault hf => simp at h
    | case2 reading g hf =>
      cases h
      exact ⟨reading, .nil, hf⟩
    | case3 reading t ts fault hs => simp at h
    | case4 reading t ts next hs ih =>
      obtain ⟨last, hr, hf⟩ := ih h
      exact ⟨last, .cons (steps_of_step hs) hr, hf⟩
  · rintro ⟨last, hr, hf⟩
    induction ts generalizing reading with
    | nil =>
      cases hr
      rw [run, hf]
    | cons t ts ih =>
      cases hr with
      | cons hs hr =>
        rw [run, hs.step_eq]
        exact ih hr

/-! ### From a derivation to the reader's way -/

/-- The conjuncts read so far with one more to their right. -/
def conjoin : Option Formula → Formula → Formula
  | none, f => f
  | some l, f => .and l f

/-- What the reader does over a phrase, at a place where it may begin. -/
def Takes (limit : Nat) : Phrase → Nat → List Token → Formula → Prop
  | .primary, n, ts, f => ∀ context outer, outer.length + n ≤ limit →
    Reads limit (.operand context outer) ts (supply context outer f)
  | .unary, n, ts, f => ∀ disjunction conjunction outer, outer.length + n ≤ limit →
    Reads limit (.operand { disjunction, conjunction } outer) ts (.operator disjunction (conjoin conjunction f) outer)
  | .conjunction, n, ts, f => ∀ disjunction outer, outer.length + n ≤ limit →
    Reads limit (.operand { disjunction } outer) ts (.operator disjunction f outer)
  | .disjunction, n, ts, f => ∀ outer, outer.length + n ≤ limit →
    ∃ disjunction last, disjoin disjunction last = f ∧ Reads limit (.operand {} outer) ts (.operator disjunction last outer)

/-- The reader takes in every phrase that the nesting around it leaves room for. -/
theorem takes_of_derives {p : Phrase} {n : Nat} {ts : List Token} {f : Formula} (limit : Nat)
    (h : Derives p n ts f) : Takes limit p n ts f := by
  -- Each phrase is taken in at every place, so the operands of a phrase may be taken in behind one another.
  induction h with
  | var => exact fun context outer _ => .single .name
  | @group n ts f _ ih =>
    intro context outer hn
    -- The context waits outside of the parenthesis until it is closed.
    obtain ⟨disjunction, last, rfl, hr⟩ := ih (context :: outer) (by simp; omega)
    exact .cons (.openParen (by omega)) (hr.append (.single .closeParen))
  | primary _ ih =>
    intro disjunction conjunction outer hn
    have hr := ih { disjunction, conjunction } outer hn
    cases conjunction <;> exact hr
  | not _ ih =>
    intro disjunction conjunction outer hn
    have hr := ih { disjunction, conjunction, negated := true } outer hn
    cases conjunction <;> exact .cons (.not rfl) hr
  | unary _ ih => exact fun disjunction outer hn => ih disjunction none outer hn
  | @and n ts us l r _ _ ihl ihr =>
    intro disjunction outer hn
    exact (ihl disjunction outer hn).append (.cons .and (ihr disjunction (some l) outer hn))
  | @conjunction n ts f _ ih => exact fun outer hn => ⟨none, f, rfl, ih none outer hn⟩
  | @or n ts us l r _ _ ihl ihr =>
    intro outer hn
    obtain ⟨disjunction, last, rfl, hr⟩ := ihl outer hn
    exact ⟨some (disjoin disjunction last), r, rfl, hr.append (.cons .or (ihr _ outer hn))⟩

/-! ### From the reader's way to a derivation -/

/-- The formula is a phrase of the kind, with at most `n` parentheses open at once. -/
def Fits (p : Phrase) (n : Nat) (f : Formula) : Prop := Derives p n f.tokens f

theorem Fits.of_derives {p : Phrase} {n : Nat} {ts : List Token} {f : Formula} (h : Derives p n ts f) :
    Fits p n f := by
  unfold Fits
  rwa [← h.eq_tokens]

theorem Fits.disjoin {n : Nat} {disjunction : Option Formula} {f : Formula}
    (hd : ∀ d ∈ disjunction, Fits .disjunction n d) (hf : Fits .conjunction n f) :
    Fits .disjunction n (disjoin disjunction f) := by
  cases disjunction with
  | none => exact .of_derives (.conjunction hf)
  | some d => exact .of_derives (.or (hd d rfl) hf)

section
variable {limit : Nat} {reading next last : Reading} {token : Token} {ts : List Token}

/-- What a context keeps are phrases, where `n` more parentheses may be opened. -/
structure Keeps (n : Nat) (context : Context) : Prop where
  disjunction : ∀ f ∈ context.disjunction, Fits .disjunction n f
  conjunction : ∀ f ∈ context.conjunction, Fits .conjunction n f

/-- The contexts outside of the innermost parenthesis, nearest first, keep phrases and are not too many. -/
def KeepsAll (limit : Nat) : List Context → Prop
  | [] => True
  | context :: outer => outer.length < limit ∧ Keeps (limit - outer.length) context ∧ KeepsAll limit outer

/-- All that the reader keeps at a place are phrases, within the nesting that is left there. -/
def Sound (limit : Nat) : Reading → Prop
  | .operand context outer => Keeps (limit - outer.length) context ∧ KeepsAll limit outer
  | .operator disjunction last outer =>
    (∀ f ∈ disjunction, Fits .disjunction (limit - outer.length) f) ∧
      Fits .conjunction (limit - outer.length) last ∧ KeepsAll limit outer

theorem Keeps.empty {n : Nat} : Keeps n {} :=
  ⟨fun _ h => by simp at h, fun _ h => by simp at h⟩

theorem sound_start (limit : Nat) : Sound limit start := ⟨.empty, trivial⟩

theorem Keeps.supply {context : Context} {outer : List Context} {f : Formula}
    (h : Keeps (limit - outer.length) context) (ho : KeepsAll limit outer)
    (hf : Fits .primary (limit - outer.length) f) : Sound limit (supply context outer f) := by
  obtain ⟨disjunction, conjunction, negated⟩ := context
  have hunary : Fits .unary (limit - outer.length) (if negated then .not f else f) := by
    cases negated
    · exact .of_derives (.primary hf)
    · exact .of_derives (.not hf)
  cases conjunction with
  | none => exact ⟨h.disjunction, .of_derives (.unary hunary), ho⟩
  | some l => exact ⟨h.disjunction, .of_derives (.and (h.conjunction l rfl) hunary), ho⟩

theorem Sound.step (h : Sound limit reading) (hs : Steps limit reading token next) : Sound limit next := by
  cases hs with
  | name => exact h.1.supply h.2 .var
  | openParen hn => exact ⟨.empty, hn, h.1, h.2⟩
  | not => exact ⟨⟨h.1.disjunction, h.1.conjunction⟩, h.2⟩
  | and =>
    obtain ⟨hd, hl, ho⟩ := h
    refine ⟨⟨hd, fun f hf => ?_⟩, ho⟩
    cases hf
    exact hl
  | or =>
    obtain ⟨hd, hl, ho⟩ := h
    refine ⟨⟨fun f hf => ?_, fun f hf => by simp at hf⟩, ho⟩
    cases hf
    exact .disjoin hd hl
  | @closeParen disjunction last context outer =>
    obtain ⟨hd, hl, hn, hk, ho⟩ := h
    -- Inside the parenthesis one fewer may be opened than outside of it.
    have hroom : limit - outer.length = limit - (context :: outer).length + 1 := by
      simp only [List.length_cons]
      omega
    refine hk.supply ho ?_
    rw [hroom]
    exact .of_derives (.group (Fits.disjoin hd hl))

theorem Sound.reads (h : Sound limit reading) (hr : Reads limit reading ts last) : Sound limit last := by
  induction hr with
  | nil => exact h
  | cons hs _ ih => exact ih (h.step hs)

theorem Sound.finish {f : Formula} (h : Sound limit reading) (hf : reading.finish = .ok f) :
    Fits .disjunction limit f := by
  obtain ⟨_, _⟩ | ⟨disjunction, last, _ | ⟨_, _⟩⟩ := reading
  · cases hf
  · cases hf
    exact .disjoin h.1 h.2.1
  · cases hf

theorem derives_of_reads {f : Formula} (hr : Reads limit start ts last) (hf : last.finish = .ok f)
    (ht : f.tokens = ts) : Derives .disjunction limit ts f :=
  ht ▸ ((sound_start limit).reads hr).finish hf

end
end Formula.Reading

/-! ### What is read -/

namespace Formula
open Reading

/-- A formula is read from the tokens that the grammar derives it from, and only from these. -/
theorem ofTokens_eq_ok_iff {length : Nat} {tokens : List (Located Token)} {f : Formula} :
    ofTokens length tokens = .ok f ↔ Derives .disjunction maxNesting (tokens.map (·.value)) f := by
  constructor
  · intro h
    obtain ⟨last, hr, hf⟩ := run_eq_ok_iff.mp h
    exact derives_of_reads hr hf (tokens_ofTokens h)
  · intro h
    obtain ⟨disjunction, last, rfl, hr⟩ := takes_of_derives maxNesting h [] (by simp)
    exact run_eq_ok_iff.mpr ⟨_, hr, rfl⟩

end Formula

/-- The grammar is unambiguous: tokens stand for one formula at most, however deeply they are nested. -/
theorem Derives.unique {m n : Nat} {ts : List Token} {f g : Formula} (hf : Derives .disjunction m ts f)
    (hg : Derives .disjunction n ts g) : f = g := by
  obtain ⟨disjunction, last, rfl, hr⟩ := Formula.Reading.takes_of_derives (max m n) hf []
    (by rw [List.length_nil]; omega)
  obtain ⟨disjunction', last', rfl, hr'⟩ := Formula.Reading.takes_of_derives (max m n) hg []
    (by rw [List.length_nil]; omega)
  cases hr.unique hr'
  rfl

end Propositional
