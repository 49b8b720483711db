import Propositional.Command.Run
import Propositional.Proofs.Results

/-! A run of the command on a machine, step by step. Reading changes nothing, and what is written goes to one sink at a
    time; so what a run that fails leaves behind is known from the sinks that it had opened. -/

namespace Propositional
open Text

/-! ### Sinks -/

namespace Machine
variable (machine : Machine) {d d' : Directory} {path : String} {sink : Sink}

theorem locateParts_eq_sink {parts : List (List Char)} (h : machine.locateParts d parts = .ok (.sink sink)) :
    machine.locateParts d' parts = .ok (.sink sink) := by
  fun_induction locateParts machine d parts with
  | case1 => cases h
  | case2 part parts hskip ih =>
    rw [locateParts, if_pos hskip]
    exact ih h
  | case3 parts hskip =>
    rw [locateParts, if_neg hskip, if_pos rfl]
    exact h
  | case4 => cases h
  | case5 part parts _ hskip hup hlong hlast =>
    rw [locateParts, if_neg hskip, if_neg hup, if_neg hlong, if_pos hlast]
    exact h
  | case6 => cases h
  | case7 => cases h

theorem locate_eq_sink {path : List Char} (h : machine.locate d path = .ok (.sink sink)) :
    machine.locate d' path = .ok (.sink sink) := by
  revert h
  fun_cases locate machine d path with
  | case1 => rintro ⟨⟩
  | case2 => exact id
  | case3 hnil hroot =>
    intro h
    rw [locate]
    · exact machine.locateParts_eq_sink h
    · assumption
    · assumption

/-- Which files there are decides only the error where a path leads to no sink. -/
theorem target_eq_ok (h : machine.target d path = .ok sink) (d' : Directory) : machine.target d' path = .ok sink := by
  unfold target at h ⊢
  dsimp only at h ⊢
  split at h
  · split at h
    · split at h <;> cases h
    · cases h
  next hstem =>
    split at h
    · cases h
    · cases h
    next sink' hlocate =>
      rw [if_neg hstem, machine.locate_eq_sink hlocate]
      exact h

/-- The world after the sink was opened and the bytes were written to it. -/
def filled (w : World) (sink : Sink) (bytes : ByteArray) : World := (machine.write (w.opened sink) sink bytes).2

theorem get?_filled (w : World) (sink : Sink) (bytes : ByteArray) (name : String) :
    (machine.filled w sink bytes).directory.get? name =
      if sink = .file name then some (Limit.kept (machine.limit (.file name)) .empty bytes)
      else w.directory.get? name := by
  rw [filled, write, World.get?_put, World.get?_opened]
  split
  next h =>
    subst h
    rw [World.held_opened_file, ByteArray.empty_append]
  next => rfl

theorem printed_filled (w : World) (sink : Sink) (bytes : ByteArray) :
    (machine.filled w sink bytes).printed =
      if sink = .standardOutput then w.printed ++ Limit.kept (machine.limit .standardOutput) w.printed bytes
      else w.printed := by
  rw [filled, write, World.printed_put, World.printed_opened]
  split
  next h =>
    subst h
    rfl
  next => rfl

end Machine

namespace Command
variable {α β : Type} {machine : Machine} {w w' : World}

/-! ### Runs on a machine -/

/-- The action, begun in the world `w`, ends with the result in the world `w'`. -/
def Runs (x : ExceptT Failure (StateM World) α) (w : World) (r : Except Failure α) (w' : World) : Prop :=
  x.run.run w = (r, w')

theorem run_run_bind (x : ExceptT Failure (StateM World) α) (k : α → ExceptT Failure (StateM World) β) (w : World) :
    (x >>= k).run.run w =
      match x.run.run w with
      | (.ok a, w₁) => (k a).run.run w₁
      | (.error f, w₁) => (.error f, w₁) := by
  rw [ExceptT.run_bind, StateT.run_bind]
  rcases x.run.run w with ⟨_ | _, _⟩ <;> rfl

theorem Runs.of_bind {x : ExceptT Failure (StateM World) α} {k : α → ExceptT Failure (StateM World) β}
    {r : Except Failure β} (h : Runs (x >>= k) w r w') :
    (∃ f, r = .error f ∧ Runs x w (.error f) w') ∨ ∃ a w₁, Runs x w (.ok a) w₁ ∧ Runs (k a) w₁ r w' := by
  rw [Runs, run_run_bind] at h
  split at h
  next a w₁ hx => exact .inr ⟨a, w₁, hx, h⟩
  next f w₁ hx =>
    cases h
    exact .inl ⟨f, rfl, hx⟩

theorem Runs.bind {x : ExceptT Failure (StateM World) α} {k : α → ExceptT Failure (StateM World) β} {a : α}
    {w₁ : World} {r : Except Failure β} (hx : Runs x w (.ok a) w₁) (hk : Runs (k a) w₁ r w') : Runs (x >>= k) w r w' := by
  rw [Runs, run_run_bind, show x.run.run w = (.ok a, w₁) from hx]
  exact hk

theorem Runs.bind_error {x : ExceptT Failure (StateM World) α} {k : α → ExceptT Failure (StateM World) β} {f : Failure}
    (hx : Runs x w (.error f) w') : Runs (x >>= k) w (.error f) w' := by
  rw [Runs, run_run_bind, show x.run.run w = (.error f, w') from hx]

theorem Runs.of_ofExcept {x r : Except Failure α} (h : Runs (MonadExcept.ofExcept x) w r w') : r = x ∧ w' = w := by
  cases x <;> cases h <;> exact ⟨rfl, rfl⟩

section
variable {ε : Type} {failure : ε → Failure} {x : StateM World (Except ε α)}

theorem Runs.of_attempt {r : Except Failure α} (h : Runs (attempt failure x) w r w') :
    (∃ e, x.run w = (.error e, w') ∧ r = .error (failure e)) ∨ ∃ a, x.run w = (.ok a, w') ∧ r = .ok a := by
  obtain ⟨_, -, hlift⟩ | ⟨result, w₁, hlift, hr⟩ := Runs.of_bind h
  · cases hlift
  · have hx : x.run w = (result, w₁) := by
      cases hlift
      rfl
    cases result with
    | error e =>
      cases hr
      exact .inl ⟨e, hx, rfl⟩
    | ok a =>
      cases hr
      exact .inr ⟨a, hx, rfl⟩

theorem runs_liftM (x : StateM World α) (w : World) : Runs (liftM x) w (.ok (x.run w).1) (x.run w).2 := rfl

theorem runs_attempt_ok {a : α} (h : x.run w = (.ok a, w')) : Runs (attempt failure x) w (.ok a) w' := by
  have hlift := runs_liftM x w
  rw [h] at hlift
  exact hlift.bind rfl

theorem runs_attempt_error {e : ε} (h : x.run w = (.error e, w')) : Runs (attempt failure x) w (.error (failure e)) w' := by
  have hlift := runs_liftM x w
  rw [h] at hlift
  exact hlift.bind rfl

end

/-! ### Reading -/

/-- Whatever its result, the action changes nothing. -/
def Leaves (x : ExceptT Failure (StateM World) α) : Prop := ∀ w r w', Runs x w r w' → w' = w

theorem leaves_pure (a : α) : Leaves (pure a) := by
  rintro w r w' ⟨⟩
  rfl

theorem leaves_throw (f : Failure) : Leaves (throw f : ExceptT Failure (StateM World) α) := by
  rintro w r w' ⟨⟩
  rfl

theorem leaves_attempt {ε : Type} (failure : ε → Failure) {x : StateM World (Except ε α)} (h : ∀ w, (x.run w).2 = w) :
    Leaves (attempt failure x) := by
  intro w r w' hrun
  obtain ⟨e, hx, -⟩ | ⟨a, hx, -⟩ := hrun.of_attempt <;> rw [← h w, hx]

theorem Leaves.bind {x : ExceptT Failure (StateM World) α} {k : α → ExceptT Failure (StateM World) β} (hx : Leaves x)
    (hk : ∀ a, Leaves (k a)) : Leaves (x >>= k) := by
  intro w r w' h
  obtain ⟨f, -, hf⟩ | ⟨a, w₁, ha, hr⟩ := h.of_bind
  · exact hx w _ w' hf
  · rw [hk a w₁ r w' hr, hx w _ w₁ ha]

theorem Leaves.mapM {k : α → ExceptT Failure (StateM World) β} (hk : ∀ a, Leaves (k a)) (l : List α) :
    Leaves (l.mapM k) := by
  induction l with
  | nil =>
    rw [List.mapM_nil]
    exact leaves_pure _
  | cons a l ih =>
    rw [List.mapM_cons]
    exact (hk a).bind fun b => ih.bind fun bs => leaves_pure _

theorem leaves_expand (machine : Machine) (depth : Nat) (argument : String) :
    Leaves (expand (.ofMachine machine) depth argument) := by
  induction depth generalizing argument with
  | zero =>
    unfold expand
    split
    · exact leaves_throw _
    · contradiction
    · exact leaves_pure _
  | succ depth ih =>
    unfold expand
    split
    · exact leaves_throw _
    next hdepth _ =>
      cases hdepth
      refine (leaves_attempt _ fun _ => rfl).bind fun bytes => ?_
      split
      · exact leaves_throw _
      · exact (Leaves.mapM (fun line => ih _) _).bind fun _ => leaves_pure _
    · exact leaves_pure _

theorem leaves_readStatement (machine : Machine) (o : Options) : Leaves (readStatement (.ofMachine machine) o) := by
  unfold readStatement
  split
  · exact leaves_attempt _ fun _ => rfl
  · exact (leaves_attempt _ fun _ => rfl).bind fun bytes => leaves_attempt _ fun _ => rfl
  · exact (leaves_attempt _ fun _ => rfl).bind fun bytes => leaves_attempt _ fun _ => rfl

/-- The options make a run on the machine find the statement. -/
def Finds (machine : Machine) (o : Options) (d : Directory) (s : Statement) : Prop :=
  Runs (readStatement (.ofMachine machine) o) ⟨d, .empty⟩ (.ok s) ⟨d, .empty⟩

/-! ### Writing -/

/-- The bytes of the statement's diagram. -/
def diagram (s : Statement) : ByteArray := (Diagram.ofFormula s.formula).dot.toUTF8

/-- The sink that the diagram goes to, if the options ask for one. -/
def DrawsTo (machine : Machine) (o : Options) (d : Directory) (sink : Sink) : Prop :=
  ∃ path, o.dot = some path ∧ machine.target d path = .ok sink

/-- The sink that the answer goes to. -/
inductive AnswersTo (machine : Machine) (o : Options) (d : Directory) : Sink → Prop where
  | standardOutput : o.output = none → AnswersTo machine o d .standardOutput
  | output {path : String} {sink : Sink} : o.output = some path → machine.target d path = .ok sink →
    AnswersTo machine o d sink

theorem AnswersTo.of_any {o : Options} {d : Directory} {sink : Sink} (h : AnswersTo machine o d sink) (d' : Directory) :
    AnswersTo machine o d' sink := by
  cases h with
  | standardOutput houtput => exact .standardOutput houtput
  | output houtput htarget => exact .output houtput (machine.target_eq_ok htarget d')

theorem Runs.of_create {failure : OsError → Failure} {path : String} {r : Except Failure Sink}
    (h : Runs (attempt failure ((Surroundings.ofMachine machine).create path)) w r w') :
    (∃ f, r = .error f ∧ w' = w) ∨ ∃ sink, machine.target w.directory path = .ok sink ∧ r = .ok sink ∧ w' = w.opened sink := by
  obtain ⟨e, hrun, hr⟩ | ⟨sink, hrun, hr⟩ := h.of_attempt
  · have hcreate : machine.create w path = (.error e, w') := hrun
    rw [Machine.create] at hcreate
    split at hcreate
    · cases hcreate
      exact .inl ⟨_, hr, rfl⟩
    · cases hcreate
  · have hcreate : machine.create w path = (.ok sink, w') := hrun
    rw [Machine.create] at hcreate
    split at hcreate
    · cases hcreate
    next htarget =>
      cases hcreate
      exact .inr ⟨sink, htarget, hr, rfl⟩

theorem runs_create {failure : OsError → Failure} {path : String} {sink : Sink}
    (h : machine.target w.directory path = .ok sink) :
    Runs (attempt failure ((Surroundings.ofMachine machine).create path)) w (.ok sink) (w.opened sink) := by
  refine runs_attempt_ok ?_
  show machine.create w path = _
  rw [Machine.create, h]

/-- The sink refuses a part of the bytes in the world. -/
def Refuses (machine : Machine) (w : World) (sink : Sink) (bytes : ByteArray) (e : OsError) : Prop :=
  Limit.refusal? (machine.limit sink) (w.held sink) bytes = some e

/-- The bytes are written whatever the result; an error says that the sink refused a part of them. -/
theorem Runs.of_write {failure : OsError → Failure} {sink : Sink} {bytes : ByteArray} {r : Except Failure Unit}
    (h : Runs (attempt failure ((Surroundings.ofMachine machine).write sink bytes)) w r w') :
    w' = (machine.write w sink bytes).2 ∧ ∀ f, r = .error f → ∃ e, Refuses machine w sink bytes e := by
  obtain ⟨e, hrun, hr⟩ | ⟨_, hrun, rfl⟩ := h.of_attempt
  · have hwrite : machine.write w sink bytes = (.error e, w') := hrun
    refine ⟨by rw [hwrite], fun f _ => ⟨e, ?_⟩⟩
    rw [Machine.write] at hwrite
    rw [Refuses]
    split at hwrite
    · cases hwrite
    next hrefusal =>
      cases hwrite
      exact hrefusal
  · have hwrite : machine.write w sink bytes = (.ok (), w') := hrun
    exact ⟨by rw [hwrite], nofun⟩

theorem runs_write (machine : Machine) (failure : OsError → Failure) (w : World) (sink : Sink) (bytes : ByteArray) :
    Runs (attempt failure ((Surroundings.ofMachine machine).write sink bytes)) w
      (match Limit.refusal? (machine.limit sink) (w.held sink) bytes with
      | none => .ok ()
      | some e => .error (failure e)) (machine.write w sink bytes).2 := by
  have hrun : ((Surroundings.ofMachine machine).write sink bytes).run w = machine.write w sink bytes := rfl
  rw [Machine.write] at hrun
  split
  next hrefusal =>
    simp only [hrefusal] at hrun
    exact runs_attempt_ok hrun
  next e hrefusal =>
    simp only [hrefusal] at hrun
    exact runs_attempt_error hrun

/-- What the diagram leaves behind, whether or not all of it was taken. -/
def Drawn (machine : Machine) (o : Options) (s : Statement) (w w' : World) : Prop :=
  (o.dot = none ∧ w' = w) ∨ ∃ sink, DrawsTo machine o w.directory sink ∧ w' = machine.filled w sink (diagram s)

theorem Runs.of_draw {o : Options} {s : Statement} {r : Except Failure Unit}
    (h : Runs (draw (.ofMachine machine) o s) w r w') : (∃ f, r = .error f ∧ w' = w) ∨ Drawn machine o s w w' := by
  cases hdot : o.dot with
  | none =>
    simp only [draw, hdot] at h
    cases h
    exact .inr (.inl ⟨hdot, rfl⟩)
  | some path =>
    simp only [draw, hdot] at h
    obtain ⟨f, rfl, hcreate⟩ | ⟨sink, w₁, hcreate, hwrite⟩ := h.of_bind
    · obtain ⟨f, -, rfl⟩ | ⟨_, -, ⟨⟩, -⟩ := hcreate.of_create
      exact .inl ⟨_, rfl, rfl⟩
    · obtain ⟨_, ⟨⟩, -⟩ | ⟨_, htarget, ⟨⟩, rfl⟩ := hcreate.of_create
      exact .inr (.inr ⟨sink, ⟨path, hdot, htarget⟩, hwrite.of_write.1⟩)

theorem Runs.of_openOutput {o : Options} {r : Except Failure Sink}
    (h : Runs (openOutput (.ofMachine machine) o) w r w') :
    (∃ f, r = .error f ∧ w' = w) ∨ ∃ sink, AnswersTo machine o w.directory sink ∧ r = .ok sink ∧ w' = w.opened sink := by
  cases houtput : o.output with
  | none =>
    simp only [openOutput, houtput] at h
    cases h
    exact .inr ⟨.standardOutput, .standardOutput houtput, rfl, rfl⟩
  | some path =>
    simp only [openOutput, houtput] at h
    obtain hfailed | ⟨sink, htarget, hr, hw⟩ := h.of_create
    · exact .inl hfailed
    · exact .inr ⟨sink, .output houtput htarget, hr, hw⟩

theorem runs_openOutput {o : Options} {sink : Sink} (h : AnswersTo machine o w.directory sink) :
    Runs (openOutput (.ofMachine machine) o) w (.ok sink) (w.opened sink) := by
  cases h with
  | standardOutput houtput =>
    simp only [openOutput, houtput]
    rfl
  | output houtput htarget =>
    simp only [openOutput, houtput]
    exact runs_create htarget

/-! ### What a failed run leaves behind -/

/-- After the diagram a run stops because it has no answer, or because the answer's sink refuses a part of it. -/
inductive Stopped (machine : Machine) (o : Options) (s : Statement) (f : Failure) (w w' : World) : Prop where
  | unanswered {sink : Sink} : AnswersTo machine o w.directory sink → answer o s = .error f → w' = w.opened sink →
    Stopped machine o s f w w'
  | refused {sink : Sink} {text : String} {e : OsError} : AnswersTo machine o w.directory sink → answer o s = .ok text →
    Refuses machine (w.opened sink) sink text.toUTF8 e → w' = machine.filled w sink text.toUTF8 →
    Stopped machine o s f w w'

theorem Runs.of_perform_error {o : Options} {f : Failure} (h : Runs (perform (.ofMachine machine) o) w (.error f) w') :
    w' = w ∨ ∃ s w₁, Runs (readStatement (.ofMachine machine) o) w (.ok s) w ∧ Drawn machine o s w w₁ ∧
      (w' = w₁ ∨ Stopped machine o s f w₁ w') := by
  obtain ⟨_, -, hread⟩ | ⟨s, w₀, hread, h₁⟩ := Runs.of_bind h
  · exact .inl (leaves_readStatement _ _ _ _ _ hread)
  obtain rfl := leaves_readStatement _ _ _ _ _ hread
  obtain ⟨_, -, hdraw⟩ | ⟨_, w₁, hdraw, h₂⟩ := Runs.of_bind h₁
  · obtain ⟨_, -, rfl⟩ | hdrawn := hdraw.of_draw
    · exact .inl rfl
    · exact .inr ⟨s, w', hread, hdrawn, .inl rfl⟩
  obtain ⟨_, ⟨⟩, -⟩ | hdrawn := hdraw.of_draw
  refine .inr ⟨s, w₁, hread, hdrawn, ?_⟩
  obtain ⟨_, -, hopen⟩ | ⟨sink, w₂, hopen, h₃⟩ := Runs.of_bind h₂
  · obtain ⟨_, -, rfl⟩ | ⟨_, -, ⟨⟩, -⟩ := hopen.of_openOutput
    exact .inl rfl
  obtain ⟨_, ⟨⟩, -⟩ | ⟨_, hsink, ⟨⟩, rfl⟩ := hopen.of_openOutput
  obtain ⟨_, ⟨⟩, hanswer⟩ | ⟨text, w₃, hanswer, h₄⟩ := Runs.of_bind h₃
  · obtain ⟨hfailed, rfl⟩ := hanswer.of_ofExcept
    exact .inr (.unanswered hsink hfailed.symm rfl)
  · obtain ⟨hanswered, rfl⟩ := hanswer.of_ofExcept
    obtain ⟨hw, hrefused⟩ := h₄.of_write
    obtain ⟨e, he⟩ := hrefused f rfl
    exact .inr (.refused hsink hanswered.symm he hw)

/-! ### Runs of the command -/

/-- The arguments, with those in argument files, ask to run with the options. -/
def Asks (machine : Machine) (maxVars : Option String) (arguments : List String) (d : Directory) (o : Options) : Prop :=
  ∃ expanded,
    Runs (arguments.mapM (expand (.ofMachine machine) maxArgumentDepth)) ⟨d, .empty⟩ (.ok expanded) ⟨d, .empty⟩ ∧
      Request.read maxVars expanded.flatten = .ok (.run o)

/-- What goes on after an action goes on with its result, in the world it leaves. -/
theorem run_bind_run {x : ExceptT Failure (StateM World) α} {k : Except Failure α → StateM World β}
    {r : Except Failure α} (h : Runs x w r w') : (x.run >>= k).run w = (k r).run w' := by
  rw [StateT.run_bind, show x.run.run w = (r, w') from h]
  rfl

section
variable {d : Directory} {maxVars : Option String} {arguments : List String} {expanded : List (List String)}

theorem runIn_of_runs {o : Options} {r : Except Failure Unit}
    (hargs : Runs (arguments.mapM (expand (.ofMachine machine) maxArgumentDepth)) ⟨d, .empty⟩ (.ok expanded) ⟨d, .empty⟩)
    (hread : Request.read maxVars expanded.flatten = .ok (.run o))
    (hperform : Runs (perform (.ofMachine machine) o) ⟨d, .empty⟩ r w') :
    runIn machine maxVars arguments d = (.of r, w') := by
  rw [runIn, run, run_bind_run hargs]
  simp only [hread]
  rw [run_bind_run hperform]
  rfl

/-- A run that exits with 1 has failed, when the arguments were read from files or after. -/
theorem exists_failure_of_runIn {outcome : Outcome} (h : runIn machine maxVars arguments d = (outcome, w'))
    (hexit : outcome.exit = 1) :
    w' = ⟨d, .empty⟩ ∨ ∃ o f, Asks machine maxVars arguments d o ∧ f.exit = 1 ∧
      Runs (perform (.ofMachine machine) o) ⟨d, .empty⟩ (.error f) w' := by
  have hleaves := Leaves.mapM (leaves_expand machine maxArgumentDepth) arguments
  rcases hargs : (arguments.mapM (expand (.ofMachine machine) maxArgumentDepth)).run.run ⟨d, .empty⟩ with
    ⟨f | expanded, w₁⟩
  · rw [runIn, run, run_bind_run hargs] at h
    cases h
    exact .inl (hleaves _ _ _ hargs)
  obtain rfl := hleaves _ _ _ hargs
  cases hread : Request.read maxVars expanded.flatten with
  | error e =>
    rw [runIn, run, run_bind_run hargs] at h
    simp only [hread] at h
    cases h
    cases hexit
  | ok request =>
    cases request with
    | help | version =>
      rw [runIn, run, run_bind_run hargs] at h
      simp only [hread] at h
      cases h
      cases hexit
    | run o =>
      rcases hperform : (perform (.ofMachine machine) o).run.run ⟨d, .empty⟩ with ⟨f | _, w₂⟩
      · rw [runIn_of_runs hargs hread hperform] at h
        cases h
        exact .inr ⟨o, f, ⟨expanded, hargs, hread⟩, hexit, hperform⟩
      · rw [runIn_of_runs hargs hread hperform] at h
        cases h
        cases hexit

end

end Command
end Propositional
