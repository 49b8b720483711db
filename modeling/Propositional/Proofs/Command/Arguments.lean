import Propositional.Command.Options
import Propositional.Proofs.Results

/-! How the arguments of the command go together. An argument is taken without regard to what the others have given,
    unless they give the same; so the expression, the file it is read from and the output file can be given at any
    place between the other arguments, and the rest stays as it is. -/

namespace Propositional.Command

/-- What can be given beside all other options: the expression or the file to read it from, and the file to write. -/
inductive Addition where
  | expression (text : String)
  | input (path : String)
  | output (path : String)
deriving DecidableEq, Repr

namespace Options
variable {o o' o₁ : Options} {e : Addition} {maxVars : Option String} {argument : String}
  {arguments before after : List String}

def add (o : Options) : Addition → Options
  | .expression text => { o with expression := some text }
  | .input path => { o with input := some path }
  | .output path => { o with output := some path }

/-- Nothing is given that the addition could not go together with. -/
def Lacks (o : Options) : Addition → Prop
  | .expression _ | .input _ => o.expression = none ∧ o.input = none
  | .output _ => o.output = none

/-! ### One argument -/

/-- What an argument other than two dashes does to the options, where the value of a setting may be awaited. -/
def takeOne (o : Options) (awaited : Option Setting) (argument : String) : Except UsageError Progress :=
  match argument.toList, awaited with
  | '-' :: _ :: _, some s => .error (.valueMissing s)
  | '-' :: '-' :: body, none => o.takeLong argument body
  | '-' :: c :: cs, none => takeShort argument o (c :: cs)
  | _, some s => return .going (← o.set s argument) none
  | _, none => return .going (← o.express argument) none

theorem take_cons {awaited : Option Setting} (h : argument ≠ "--") :
    take maxVars (.going o awaited) (argument :: arguments) =
      (do take maxVars (← o.takeOne awaited argument) arguments) := by
  have hdashes : argument.toList ≠ ['-', '-'] := by
    intro heq
    exact h (String.toList_inj.mp heq)
  rw [take.eq_def]
  -- Apart from two dashes the cases are those of `take`.
  fun_cases takeOne o awaited argument with
  | case1 head tail s hchars =>
    simp only [hchars]
    rfl
  | case2 body hchars =>
    have hbody : body = [] → False := by
      rintro rfl
      exact hdashes hchars
    simp only [hchars]
  | case3 c cs hc hchars =>
    have hpair : c = '-' → cs = [] → False := fun heq _ => hc heq
    simp only [hchars]
  | case4 => simp only [bind_assoc, pure_bind]
  | case5 => simp only [bind_assoc, pure_bind]

theorem take_dashes :
    take maxVars (.going o none) ("--" :: arguments) = (do (← o.takeRest arguments).complete maxVars) := by
  rw [take.eq_def]
  rfl

theorem take_dashes_awaited {s : Setting} :
    take maxVars (.going o (some s)) ("--" :: arguments) = .error (.valueMissing s) := by
  rw [take.eq_def]
  rfl

theorem take_of_takeOne {awaited : Option Setting} {progress : Progress} (h : o.takeOne awaited argument = .ok progress) :
    take maxVars (.going o awaited) (argument :: arguments) = take maxVars progress arguments := by
  have hdashes : argument ≠ "--" := by
    rintro rfl
    cases awaited <;> simp [takeOne, takeLong, Flag.ofLong?] at h
  rw [take_cons hdashes, h]
  rfl

theorem bind_setOnce_eq_ok_iff {α : Type} {s : Setting} {old new : Option α} {value : String} {k : Option α → Options} :
    (do return k (← setOnce s old value new)) = Except.ok o' ↔ old = none ∧ ∃ x, new = some x ∧ k (some x) = o' := by
  cases old <;> cases new <;> simp [setOnce, bind, Except.bind, pure, Except.pure]

/-! ### Taking an argument before and after an addition -/

theorem set_add {s : Setting} {value : String} (h : o.set s value = .ok o') (hl : o'.Lacks e) :
    o.Lacks e ∧ (o.add e).set s value = .ok (o'.add e) := by
  cases s
  all_goals
    simp only [set, bind_setOnce_eq_ok_iff] at h ⊢
    obtain ⟨hnone, x, hx, rfl⟩ := h
    cases e <;> simp_all [Lacks, add]

theorem switch_add {s : Switch} (h : o.switch s = .ok o') (hl : o'.Lacks e) :
    o.Lacks e ∧ (o.add e).switch s = .ok (o'.add e) := by
  cases s
  all_goals
    simp only [switch] at h ⊢
    split at h <;> cases h
    cases e <;> simp_all [Lacks, add]

theorem express_add (h : o.express argument = .ok o') (hl : o'.Lacks e) :
    o.Lacks e ∧ (o.add e).express argument = .ok (o'.add e) := by
  unfold express at h
  split at h <;> cases h
  cases e <;> simp_all [Lacks, add, express]

theorem takeRest_add (h : o.takeRest arguments = .ok o') (hl : o'.Lacks e) :
    o.Lacks e ∧ (o.add e).takeRest arguments = .ok (o'.add e) := by
  unfold takeRest at h ⊢
  induction arguments generalizing o with
  | nil =>
    cases h
    exact ⟨hl, rfl⟩
  | cons argument arguments ih =>
    rw [List.foldlM_cons] at h
    obtain ⟨o₁, hone, hrest⟩ := bind_eq_ok_iff.mp h
    obtain ⟨hl₁, hrest⟩ := ih hrest
    obtain ⟨hl, hone⟩ := express_add hone hl₁
    refine ⟨hl, ?_⟩
    rw [List.foldlM_cons, hone]
    exact hrest

theorem takeFlag_add {flag : Flag} {attached : Option String} {awaited : Option Setting}
    (h : o.takeFlag argument flag attached = .ok (.going o' awaited)) (hl : o'.Lacks e) :
    o.Lacks e ∧ (o.add e).takeFlag argument flag attached = .ok (.going (o'.add e) awaited) := by
  cases flag with
  | setting s =>
    cases attached with
    | none =>
      cases h
      exact ⟨hl, rfl⟩
    | some value =>
      obtain ⟨o₁, hset, hgoing⟩ := bind_eq_ok_iff.mp h
      cases hgoing
      obtain ⟨hl, hset⟩ := set_add hset hl
      exact ⟨hl, bind_eq_ok_iff.mpr ⟨_, hset, rfl⟩⟩
  | switch s =>
    cases attached with
    | none =>
      obtain ⟨o₁, hswitch, hgoing⟩ := bind_eq_ok_iff.mp h
      cases hgoing
      obtain ⟨hl, hswitch⟩ := switch_add hswitch hl
      exact ⟨hl, bind_eq_ok_iff.mpr ⟨_, hswitch, rfl⟩⟩
    | some value => cases h
  | verbose =>
    cases attached with
    | none =>
      cases h
      cases e <;> exact ⟨hl, rfl⟩
    | some value => cases h
  | help | version => cases attached <;> cases h

theorem takeShort_add {cs : List Char} {awaited : Option Setting}
    (h : takeShort argument o cs = .ok (.going o' awaited)) (hl : o'.Lacks e) :
    o.Lacks e ∧ takeShort argument (o.add e) cs = .ok (.going (o'.add e) awaited) := by
  induction cs generalizing o with
  | nil =>
    cases h
    exact ⟨hl, rfl⟩
  | cons c cs ih =>
    rw [takeShort.eq_def] at h ⊢
    dsimp only at h ⊢
    split at h
    · cases h
    · exact takeFlag_add h hl
    next flag hsetting hflag =>
      obtain ⟨progress, hone, hrest⟩ := bind_eq_ok_iff.mp h
      cases progress with
      | done request => cases hrest
      | going o₁ awaited₁ =>
        obtain ⟨hl₁, hrest⟩ := ih hrest
        obtain ⟨hl, hone⟩ := takeFlag_add hone hl₁
        exact ⟨hl, bind_eq_ok_iff.mpr ⟨_, hone, hrest⟩⟩

theorem takeLong_add {body : List Char} {awaited : Option Setting}
    (h : o.takeLong argument body = .ok (.going o' awaited)) (hl : o'.Lacks e) :
    o.Lacks e ∧ (o.add e).takeLong argument body = .ok (.going (o'.add e) awaited) := by
  unfold takeLong at h ⊢
  split at h
  · cases h
  · exact takeFlag_add h hl

/-- An argument that leaves a place for the addition is taken in the same way after the addition. -/
theorem takeOne_add {awaited awaited' : Option Setting}
    (h : o.takeOne awaited argument = .ok (.going o' awaited')) (hl : o'.Lacks e) :
    o.Lacks e ∧ (o.add e).takeOne awaited argument = .ok (.going (o'.add e) awaited') := by
  unfold takeOne at h ⊢
  split at h
  · cases h
  · exact takeLong_add h hl
  · exact takeShort_add h hl
  · obtain ⟨o₁, hset, hgoing⟩ := bind_eq_ok_iff.mp h
    cases hgoing
    obtain ⟨hl, hset⟩ := set_add hset hl
    exact ⟨hl, bind_eq_ok_iff.mpr ⟨_, hset, rfl⟩⟩
  · obtain ⟨o₁, hexpress, hgoing⟩ := bind_eq_ok_iff.mp h
    cases hgoing
    obtain ⟨hl, hexpress⟩ := express_add hexpress hl
    exact ⟨hl, bind_eq_ok_iff.mpr ⟨_, hexpress, rfl⟩⟩

/-- The options with the number of variables from the environment, unless the arguments give one. -/
def fromEnvironment (o : Options) (maxVars : Option String) : Except UsageError Options :=
  match o.maxVars, maxVars with
  | none, some value => o.set .maxVars value
  | _, _ => .ok o

theorem complete_eq_run_iff :
    o.complete maxVars = .ok (.run o') ↔
      (o.expression.isSome && o.input.isSome) = false ∧ (o.quiet && decide (0 < o.verbosity)) = false ∧
        o.fromEnvironment maxVars = .ok o' := by
  unfold complete fromEnvironment
  cases o.expression.isSome && o.input.isSome with
  | true => simp [bind, Except.bind, throw, throwThe, MonadExceptOf.throw]
  | false =>
    cases o.quiet && decide (0 < o.verbosity) with
    | true => simp [bind, Except.bind, throw, throwThe, MonadExceptOf.throw]
    | false =>
      simp only [Bool.false_eq_true, if_false, true_and]
      cases o.maxVars with
      | none =>
        cases maxVars with
        | none => simp [pure, Except.pure]
        | some value => simp [bind_eq_ok_iff, pure, Except.pure]
      | some n => simp [pure, Except.pure]

theorem fromEnvironment_add (h : o.fromEnvironment maxVars = .ok o') (hl : o'.Lacks e) :
    o.Lacks e ∧ (o.add e).fromEnvironment maxVars = .ok (o'.add e) := by
  have hmaxVars : (o.add e).maxVars = o.maxVars := by cases e <;> rfl
  unfold fromEnvironment at h ⊢
  rw [hmaxVars]
  split at h
  · exact set_add h hl
  · cases h
    exact ⟨hl, rfl⟩

theorem complete_add (h : o.complete maxVars = .ok (.run o')) (hl : o'.Lacks e) :
    o.Lacks e ∧ (o.add e).complete maxVars = .ok (.run (o'.add e)) := by
  obtain ⟨hconflict, hquiet, hset⟩ := complete_eq_run_iff.mp h
  obtain ⟨hl, hset⟩ := fromEnvironment_add hset hl
  refine ⟨hl, complete_eq_run_iff.mpr ?_⟩
  cases e with
  | expression text => exact ⟨by simp [add, hl.2], hquiet, hset⟩
  | input path => exact ⟨by simp [add, hl.1], hquiet, hset⟩
  | output path => exact ⟨hconflict, hquiet, hset⟩

/-! ### All arguments -/

theorem takeFlag_ne_done_run {flag : Flag} {attached : Option String} :
    o.takeFlag argument flag attached ≠ .ok (.done (.run o')) := by
  intro h
  unfold takeFlag at h
  split at h
  case h_1 | h_4 =>
    obtain ⟨o₁, -, hgoing⟩ := bind_eq_ok_iff.mp h
    cases hgoing
  all_goals cases h

theorem takeShort_ne_done_run {cs : List Char} : takeShort argument o cs ≠ .ok (.done (.run o')) := by
  induction cs generalizing o with
  | nil => nofun
  | cons c cs ih =>
    intro h
    rw [takeShort.eq_def] at h
    dsimp only at h
    split at h
    · cases h
    · exact takeFlag_ne_done_run h
    · obtain ⟨progress, hone, hrest⟩ := bind_eq_ok_iff.mp h
      cases progress with
      | going o₁ awaited => exact ih hrest
      | done request =>
        cases hrest
        exact takeFlag_ne_done_run hone

/-- Only when all arguments are taken is there a run. -/
theorem takeOne_ne_done_run {awaited : Option Setting} : o.takeOne awaited argument ≠ .ok (.done (.run o')) := by
  intro h
  unfold takeOne at h
  split at h
  · cases h
  · unfold takeLong at h
    split at h
    · cases h
    · exact takeFlag_ne_done_run h
  · exact takeShort_ne_done_run h
  all_goals
    obtain ⟨o₁, -, hgoing⟩ := bind_eq_ok_iff.mp h
    cases hgoing

/-- Arguments that are taken in whole are two dashes with no option behind, or one argument and then the others. -/
theorem take_cons_eq_run_iff {awaited : Option Setting} :
    take maxVars (.going o awaited) (argument :: arguments) = .ok (.run o') ↔
      (argument = "--" ∧ awaited = none ∧ ∃ o₁, o.takeRest arguments = .ok o₁ ∧ o₁.complete maxVars = .ok (.run o')) ∨
        (argument ≠ "--" ∧ ∃ o₁ awaited₁, o.takeOne awaited argument = .ok (.going o₁ awaited₁) ∧
          take maxVars (.going o₁ awaited₁) arguments = .ok (.run o')) := by
  by_cases hdashes : argument = "--"
  · subst hdashes
    cases awaited with
    | none =>
      rw [take_dashes, bind_eq_ok_iff]
      simp
    | some s => simp [take_dashes_awaited]
  · rw [take_cons hdashes, bind_eq_ok_iff]
    constructor
    · rintro ⟨progress, hone, hrest⟩
      cases progress with
      | going o₁ awaited₁ => exact .inr ⟨hdashes, o₁, awaited₁, hone, hrest⟩
      | done request =>
        rw [take] at hrest
        cases hrest
        exact absurd hone takeOne_ne_done_run
    · rintro (⟨rfl, -⟩ | ⟨-, o₁, awaited₁, hone, hrest⟩)
      · exact absurd rfl hdashes
      · exact ⟨_, hone, hrest⟩

theorem take_add {awaited : Option Setting} (h : take maxVars (.going o awaited) arguments = .ok (.run o'))
    (hl : o'.Lacks e) : o.Lacks e ∧ take maxVars (.going (o.add e) awaited) arguments = .ok (.run (o'.add e)) := by
  induction arguments generalizing o awaited with
  | nil =>
    cases awaited with
    | none =>
      rw [take] at h ⊢
      exact complete_add h hl
    | some s => cases h
  | cons argument arguments ih =>
    obtain ⟨rfl, rfl, o₁, hrest, hcomplete⟩ | ⟨hdashes, o₁, awaited₁, hone, hrest⟩ := take_cons_eq_run_iff.mp h
    · obtain ⟨hl₁, hcomplete⟩ := complete_add hcomplete hl
      obtain ⟨hl, hrest⟩ := takeRest_add hrest hl₁
      exact ⟨hl, take_cons_eq_run_iff.mpr (.inl ⟨rfl, rfl, _, hrest, hcomplete⟩)⟩
    · obtain ⟨hl₁, hrest⟩ := ih hrest
      obtain ⟨hl, hone⟩ := takeOne_add hone hl₁
      exact ⟨hl, take_cons_eq_run_iff.mpr (.inr ⟨hdashes, _, _, hone, hrest⟩)⟩

/-- Arguments that can be given by themselves, and without two dashes, are taken before any others. -/
theorem take_append {awaited : Option Setting} (h : take none (.going o awaited) before = .ok (.run o₁))
    (hdashes : "--" ∉ before) :
    take maxVars (.going o awaited) (before ++ after) = take maxVars (.going o₁ none) after := by
  induction before generalizing o awaited with
  | nil =>
    cases awaited with
    | none =>
      rw [take] at h
      obtain ⟨-, -, heq⟩ := complete_eq_run_iff.mp h
      rw [fromEnvironment] at heq
      · cases heq
        rfl
      · simp
    | some s => cases h
  | cons argument before ih =>
    rw [List.mem_cons, not_or] at hdashes
    obtain ⟨hargument, hbefore⟩ := hdashes
    obtain ⟨rfl, -⟩ | ⟨-, o₂, awaited₂, hone, hrest⟩ := take_cons_eq_run_iff.mp h
    · exact absurd rfl hargument
    · rw [List.cons_append, take_cons (Ne.symm hargument), hone]
      exact ih hrest hbefore

/-! ### Arguments for an addition -/

/-- The text, as an argument, is neither an option nor the name of an argument file. -/
def IsBare (text : String) : Prop := ∀ c ∈ text.toList.head?, c ≠ '-' ∧ c ≠ '@'

instance (text : String) : Decidable (IsBare text) :=
  decidable_of_iff ((text.toList.head?.all fun c => c != '-' && c != '@') = true) (by simp [IsBare, Option.all_eq_true])

/-- The arguments give the value to the setting, in the next argument or in the same one. -/
inductive Spells (s : Setting) (value : String) : List String → Prop where
  | apart : value = "-" ∨ IsBare value → Spells s value [s.name, value]
  | attached : Spells s value [s.name ++ "=" ++ value]
  | shortApart {c : Char} : Flag.ofShort? c = some (.setting s) → value = "-" ∨ IsBare value →
    Spells s value [String.ofList ['-', c], value]
  | shortAttached {c : Char} : Flag.ofShort? c = some (.setting s) →
    Spells s value [String.ofList ('-' :: c :: '=' :: value.toList)]
  | shortClose {c d : Char} {cs : List Char} : Flag.ofShort? c = some (.setting s) → d ≠ '=' → value.toList = d :: cs →
    Spells s value [String.ofList ('-' :: c :: value.toList)]

section
variable {s : Setting} {value : String} {c : Char} {group : List String}

theorem name_eq_dashes (s : Setting) :
    ∃ body, s.name.toList = '-' :: '-' :: body ∧ Flag.ofLong? (String.ofList body) = some (.setting s) ∧ '=' ∉ body := by
  refine ⟨s.name.toList.drop 2, ?_⟩
  cases s <;> decide +kernel

theorem takeOne_name : o.takeOne none s.name = .ok (.going o (some s)) := by
  cases s <;> rfl

theorem takeOne_attached (h : o.set s value = .ok o') :
    o.takeOne none (s.name ++ "=" ++ value) = .ok (.going o' none) := by
  obtain ⟨body, hname, hflag, hsign⟩ := name_eq_dashes s
  have hchars : (s.name ++ "=" ++ value).toList = '-' :: '-' :: (body ++ '=' :: value.toList) := by
    simp [hname]
  have hbody : ∀ c ∈ body, decide (c ≠ '=') = true := fun c hc => decide_eq_true fun heq => hsign (heq ▸ hc)
  simp only [takeOne, hchars]
  rw [takeLong, List.takeWhile_append_of_pos hbody, List.dropWhile_append_of_pos hbody]
  simp only [hflag, takeFlag, ne_eq, not_true_eq_false, decide_false, Bool.false_eq_true, not_false_eq_true,
    List.dropWhile_cons_of_neg, List.takeWhile_cons_of_neg, List.append_nil, String.ofList_toList, h]
  rfl

theorem takeOne_short {cs : List Char} (hflag : Flag.ofShort? c = some (.setting s)) :
    o.takeOne none (String.ofList ('-' :: c :: cs)) = takeShort (String.ofList ('-' :: c :: cs)) o (c :: cs) := by
  have hdash : c = '-' → False := by
    rintro rfl
    cases hflag
  simp only [takeOne, String.toList_ofList]

theorem takeOne_shortName (hflag : Flag.ofShort? c = some (.setting s)) :
    o.takeOne none (String.ofList ['-', c]) = .ok (.going o (some s)) := by
  rw [takeOne_short hflag, takeShort.eq_def]
  simp only [hflag, takeFlag]

theorem takeOne_shortAttached (hflag : Flag.ofShort? c = some (.setting s)) (h : o.set s value = .ok o') :
    o.takeOne none (String.ofList ('-' :: c :: '=' :: value.toList)) = .ok (.going o' none) := by
  rw [takeOne_short hflag, takeShort.eq_def]
  simp only [hflag, takeFlag, String.ofList_toList, h]
  rfl

theorem takeOne_shortClose {d : Char} {cs : List Char} (hflag : Flag.ofShort? c = some (.setting s)) (hd : d ≠ '=')
    (hvalue : value.toList = d :: cs) (h : o.set s value = .ok o') :
    o.takeOne none (String.ofList ('-' :: c :: value.toList)) = .ok (.going o' none) := by
  have hall : String.ofList (d :: cs) = value := by rw [← hvalue, String.ofList_toList]
  rw [takeOne_short hflag, takeShort.eq_def, hvalue]
  simp only [hflag]
  split
  next heq => cases heq
  next heq =>
    cases heq
    exact absurd rfl hd
  next =>
    simp only [takeFlag, hall, h]
    rfl

theorem takeOne_value (hvalue : value = "-" ∨ IsBare value) (h : o.set s value = .ok o') :
    o.takeOne (some s) value = .ok (.going o' none) := by
  have hchars : ∀ head tail, value.toList = '-' :: head :: tail → False := by
    intro head tail hchars
    rcases hvalue with rfl | hbare
    · simp at hchars
    · exact (hbare '-' (by simp [hchars])).1 rfl
  simp only [takeOne, h]
  rfl

theorem take_spells (hgroup : Spells s value group) (h : o.set s value = .ok o') :
    take maxVars (.going o none) (group ++ after) = take maxVars (.going o' none) after := by
  cases hgroup with
  | apart hvalue => exact (take_of_takeOne takeOne_name).trans (take_of_takeOne (takeOne_value hvalue h))
  | attached => exact take_of_takeOne (takeOne_attached h)
  | shortApart hflag hvalue =>
    exact (take_of_takeOne (takeOne_shortName hflag)).trans (take_of_takeOne (takeOne_value hvalue h))
  | shortAttached hflag => exact take_of_takeOne (takeOne_shortAttached hflag h)
  | shortClose hflag hd hvalue => exact take_of_takeOne (takeOne_shortClose hflag hd hvalue h)

end

/-- The arguments make the addition, and nothing else. -/
inductive Adds : Addition → List String → Prop where
  | expression {text : String} : IsBare text → Adds (.expression text) [text]
  | input {path : String} {group : List String} : path ≠ "" → Spells .input path group → Adds (.input path) group
  | output {path : String} {group : List String} : path ≠ "" → Spells .output path group → Adds (.output path) group

theorem takeOne_express {text : String} (hbare : IsBare text) (h : o.express text = .ok o') :
    o.takeOne none text = .ok (.going o' none) := by
  have hchars : ∀ cs, text.toList = '-' :: cs → False := by
    intro cs hcs
    exact (hbare '-' (by simp [hcs])).1 rfl
  have hlong : ∀ body, text.toList = '-' :: '-' :: body → False := fun _ hbody => hchars _ hbody
  have hshort : ∀ c cs, text.toList = '-' :: c :: cs → False := fun _ _ hcs => hchars _ hcs
  simp only [takeOne, h]
  rfl

theorem take_adds {group : List String} (hgroup : Adds e group) (hl : o.Lacks e) :
    take maxVars (.going o none) (group ++ after) = take maxVars (.going (o.add e) none) after := by
  cases hgroup with
  | expression hbare => exact take_of_takeOne (takeOne_express hbare (by simp [express, hl.1, add]))
  | input hpath hspells =>
    refine take_spells hspells ?_
    rw [set, bind_setOnce_eq_ok_iff]
    exact ⟨hl.2, _, by simp [readPath?, hpath], rfl⟩
  | output hpath hspells =>
    refine take_spells hspells ?_
    rw [set, bind_setOnce_eq_ok_iff]
    exact ⟨hl, _, by simp [readPath?, hpath], rfl⟩

/-- The arguments can be given by themselves, and options can be given behind them. -/
def IsOpen (arguments : List String) : Prop := "--" ∉ arguments ∧ ∃ o, Request.read none arguments = .ok (.run o)

/-- Arguments that make an addition can be put in behind open ones, and the options get the addition. -/
theorem read_insert {group : List String} (hbefore : IsOpen before)
    (h : Request.read maxVars (before ++ after) = .ok (.run o)) (hl : o.Lacks e) (hgroup : Adds e group) :
    Request.read maxVars (before ++ group ++ after) = .ok (.run (o.add e)) := by
  obtain ⟨hdashes, o₁, hread⟩ := hbefore
  rw [Request.read, take_append hread hdashes] at h
  obtain ⟨hl₁, hafter⟩ := take_add h hl
  rw [Request.read, List.append_assoc, take_append hread hdashes, take_adds hgroup hl₁, hafter]

end Options
end Propositional.Command
