import Propositional.Proofs.Command.Arguments
import Propositional.Proofs.Command.Runs
import Propositional.Proofs.Statement.Places
import Propositional.Proofs.Text.Trim

/-! The ways into a run and out of it. A text can be given as an argument, in a file or on the standard input, and the
    answer can go to the standard output or to a file. The white space around a text that is read is trimmed away, so
    that one statement or one error comes of all three ways in; and what is printed when there is no output file is what
    is written to it when there is one. A run that fails has printed its diagram or the beginning of its answer, if it has
    printed anything. -/

namespace Propositional.Command
open Text Options
variable {machine : Machine} {d : Directory} {maxVars : Option String} {o : Options} {s : Statement} {text : String}
  {w w' : World}

/-! ### Arguments without argument files -/

/-- None of the arguments names an argument file. -/
def NoFiles (arguments : List String) : Prop := ∀ argument ∈ arguments, argument.toList.head? ≠ some '@'

theorem runs_expand {argument : String} (h : argument.toList.head? ≠ some '@') (depth : Nat) :
    Runs (expand (.ofMachine machine) depth argument) w (.ok [argument]) w := by
  unfold expand
  split
  next heq => simp [heq] at h
  next heq => simp [heq] at h
  next => rfl

theorem runs_mapM_expand {arguments : List String} (h : NoFiles arguments) (depth : Nat) :
    Runs (arguments.mapM (expand (.ofMachine machine) depth)) w (.ok (arguments.map fun a => [a])) w := by
  induction arguments with
  | nil => rfl
  | cons argument arguments ih =>
    obtain ⟨hone, hrest⟩ := List.forall_mem_cons.mp h
    rw [List.mapM_cons]
    exact (runs_expand hone depth).bind ((ih hrest).bind rfl)

theorem runIn_of_noFiles {arguments : List String} {r : Except Failure Unit} (hfiles : NoFiles arguments)
    (hread : Request.read maxVars arguments = .ok (.run o))
    (hperform : Runs (perform (.ofMachine machine) o) ⟨d, .empty⟩ r w') :
    runIn machine maxVars arguments d = (.of r, w') := by
  refine runIn_of_runs (runs_mapM_expand hfiles _) ?_ hperform
  rwa [← List.flatMap_def, List.flatMap_singleton']

theorem NoFiles.append {arguments arguments' : List String} (h : NoFiles arguments) (h' : NoFiles arguments') :
    NoFiles (arguments ++ arguments') :=
  List.forall_mem_append.mpr ⟨h, h'⟩

theorem Options.IsBare.head?_ne (h : IsBare text) : text.toList.head? ≠ some '@' := fun heq => (h '@' heq).2 rfl

theorem Options.Spells.noFiles {setting : Setting} {value : String} {group : List String} (h : Spells setting value group) :
    NoFiles group := by
  have hdash : ∀ {argument : String} {cs : List Char}, argument.toList = '-' :: cs → argument.toList.head? ≠ some '@' := by
    intro argument cs hcs
    simp [hcs]
  have hvalue : value = "-" ∨ IsBare value → value.toList.head? ≠ some '@' := by
    rintro (rfl | hbare)
    · exact hdash rfl
    · exact hbare.head?_ne
  obtain ⟨body, hname, -, -⟩ := name_eq_dashes setting
  have hattached : (setting.name ++ "=" ++ value).toList = '-' :: '-' :: (body ++ '=' :: value.toList) := by
    simp [hname]
  cases h with
  | apart h => exact List.forall_mem_cons.mpr ⟨hdash hname, List.forall_mem_singleton.mpr (hvalue h)⟩
  | attached => exact List.forall_mem_singleton.mpr (hdash hattached)
  | shortApart _ h => exact List.forall_mem_cons.mpr ⟨hdash String.toList_ofList, List.forall_mem_singleton.mpr (hvalue h)⟩
  | shortAttached => exact List.forall_mem_singleton.mpr (hdash String.toList_ofList)
  | shortClose => exact List.forall_mem_singleton.mpr (hdash String.toList_ofList)

/-! ### Ways in -/

/-- The bytes are those of the text, with any white space around it. -/
def Holds (bytes : ByteArray) (text : String) : Prop :=
  ∃ front back, (∀ c ∈ front ++ back, isBlank c = true) ∧
    bytes = (String.ofList (front ++ text.toList ++ back)).toUTF8

/-- The statement that the text makes, or the failure to read one. -/
def found (text : String) : Except Failure Statement :=
  match Statement.parse text with
  | .error e => .error (.error e.message)
  | .ok s => .ok s

theorem runs_attempt_parse (text : String) :
    Runs (attempt (fun e => .error (SyntaxError.message e)) (pure (Statement.parse text))) w (found text) w := by
  rw [found]
  cases Statement.parse text <;> rfl

/-- What is read is the text itself, so that an error in it has its place in the text. -/
theorem runs_attempt_read {bytes : ByteArray} (htrim : IsTrimmed text.toList) (h : Holds bytes text) :
    Runs (attempt (fun e => .error (ReadError.message e)) (pure (Statement.read bytes))) w (found text) w := by
  obtain ⟨front, back, hblank, rfl⟩ := h
  obtain ⟨hfront, hback⟩ := List.forall_mem_append.mp hblank
  rw [Statement.read_toUTF8, String.toList_ofList, htrim.trim_surrounded hfront hback, String.ofList_toList, found]
  cases Statement.parse text <;> rfl

/-- The arguments, the standard input and the directory give the text to a run: it is an argument, or in the file that
    the arguments name as the input, or, without arguments, on the standard input. -/
inductive Gives (text : String) : List String → Machine → Directory → Prop where
  | argument {machine : Machine} {d : Directory} : Gives text [text] machine d
  | file {path : String} {group : List String} {bytes : ByteArray} {machine : Machine} {d : Directory} :
    Spells .input path group → machine.read d path = .ok bytes → Holds bytes text → Gives text group machine d
  | standardInput {bytes : ByteArray} {machine : Machine} {d : Directory} :
    machine.standardInput = .ok bytes → Holds bytes text → Gives text [] machine d

/-- The arguments, in two parts between which others can stand, give the options and name neither an expression nor
    an input, an output or a diagram. -/
structure Chooses (maxVars : Option String) (before after : List String) (o : Options) : Prop where
  reads : Request.read maxVars (before ++ after) = .ok (.run o)
  isOpen : IsOpen before
  noFiles : NoFiles (before ++ after)
  expression : o.expression = none
  input : o.input = none
  output : o.output = none
  dot : o.dot = none

/-- The options ask for the statement of the text, and otherwise for what `o` asks. -/
structure Finding (o : Options) (text : String) (machine : Machine) (d : Directory) (o' : Options) : Prop where
  read : Runs (readStatement (.ofMachine machine) o') ⟨d, .empty⟩ (found text) ⟨d, .empty⟩
  answer : answer o' = answer o
  answerFailure : answerFailure o' = answerFailure o
  output : o'.output = o.output
  dot : o'.dot = o.dot

section
variable {before after arguments : List String}

theorem exists_finding (hbare : IsBare text) (htrim : IsTrimmed text.toList) (hchooses : Chooses maxVars before after o)
    (hgives : Gives text arguments machine d) :
    ∃ o', Request.read maxVars (before ++ arguments ++ after) = .ok (.run o') ∧ NoFiles (before ++ arguments ++ after) ∧
      Finding o text machine d o' := by
  obtain ⟨hreads, hopen, hfiles, hexpression, hinput, -, -⟩ := hchooses
  obtain ⟨hbefore, hafter⟩ := List.forall_mem_append.mp hfiles
  cases hgives with
  | argument =>
    refine ⟨o.add (.expression text), read_insert hopen hreads ⟨hexpression, hinput⟩ (.expression hbare), ?_, ?_⟩
    · exact (NoFiles.append hbefore (List.forall_mem_singleton.mpr hbare.head?_ne)).append hafter
    · exact ⟨runs_attempt_parse text, rfl, rfl, rfl, rfl⟩
  | @file path _ bytes _ _ hspells hread hholds =>
    -- No file has the empty path.
    have hpath : path ≠ "" := by
      rintro rfl
      cases hread
    refine ⟨o.add (.input path), read_insert hopen hreads ⟨hexpression, hinput⟩ (.input hpath hspells), ?_, ?_⟩
    · exact (NoFiles.append hbefore hspells.noFiles).append hafter
    · have hfile : Runs (attempt (inputFailure path) ((Surroundings.ofMachine machine).read path)) ⟨d, .empty⟩ (.ok bytes)
          ⟨d, .empty⟩ := runs_attempt_ok (congrArg (·, _) hread)
      refine ⟨?_, rfl, rfl, rfl, rfl⟩
      simp only [readStatement, add, hexpression]
      exact hfile.bind (runs_attempt_read htrim hholds)
  | @standardInput bytes _ _ hinput' hholds =>
    rw [List.append_nil]
    refine ⟨o, hreads, hfiles, ?_, rfl, rfl, rfl, rfl⟩
    unfold readStatement
    rw [hexpression, hinput]
    have hbytes : Runs (attempt osFailure (Surroundings.ofMachine machine).standardInput) ⟨d, .empty⟩ (.ok bytes)
        ⟨d, .empty⟩ := runs_attempt_ok (congrArg (·, _) hinput')
    exact hbytes.bind (runs_attempt_read htrim hholds)

end

/-! ### Performing -/

theorem runs_perform_of_error {f : Failure} (hread : Runs (readStatement (.ofMachine machine) o) w (.error f) w) :
    Runs (perform (.ofMachine machine) o) w (.error f) w :=
  hread.bind_error

section
variable {sink : Sink} (hread : Runs (readStatement (.ofMachine machine) o) w (.ok s) w) (hdot : o.dot = none)
  (hsink : AnswersTo machine o w.directory sink)
include hread hdot hsink

/-- Without a diagram a run reads, opens the sink of the answer, and goes on with the answer. -/
theorem runs_perform_of_rest {r : Except Failure Unit}
    (hrest : Runs (do
      let text ← MonadExcept.ofExcept (answer o s)
      attempt (answerFailure o) ((Surroundings.ofMachine machine).write sink text.toUTF8)) (w.opened sink) r w') :
    Runs (perform (.ofMachine machine) o) w r w' := by
  have hdraw : Runs (draw (.ofMachine machine) o s) w (.ok ()) w := by
    simp only [draw, hdot]
    rfl
  exact hread.bind (hdraw.bind ((runs_openOutput hsink).bind hrest))

theorem runs_perform_of_unanswered {f : Failure} (hanswer : answer o s = .error f) :
    Runs (perform (.ofMachine machine) o) w (.error f) (w.opened sink) := by
  refine runs_perform_of_rest hread hdot hsink (Runs.bind_error ?_)
  rw [hanswer]
  rfl

theorem runs_perform_of_answer {r : Except Failure Unit} (hanswer : answer o s = .ok text)
    (hwrite : Runs (attempt (answerFailure o) ((Surroundings.ofMachine machine).write sink text.toUTF8)) (w.opened sink) r
      w') :
    Runs (perform (.ofMachine machine) o) w r w' := by
  refine runs_perform_of_rest hread hdot hsink (Runs.bind ?_ hwrite)
  rw [hanswer]
  rfl

end

/-! ### Ways out -/

/-- How a run ends that prints its answer, and what it has printed then. -/
def ending (o : Options) (limit : Option Limit) : Except Failure String → Outcome × ByteArray
  | .error f => (.of (.error f), .empty)
  | .ok text =>
    (.of (match Limit.refusal? limit .empty text.toUTF8 with
      | none => .ok ()
      | some e => .error (answerFailure o e)), Limit.kept limit .empty text.toUTF8)

theorem Failure.exit_ne_zero (f : Failure) : f.exit ≠ 0 := by
  cases f <;> exact Nat.succ_ne_zero _

theorem exists_of_ending {limit : Option Limit} {result : Except Failure String}
    (hexit : (ending o limit result).1.exit = 0) :
    ∃ text, result = .ok text ∧ ending o limit result = (.of (.ok ()), text.toUTF8) := by
  cases result with
  | error f => exact absurd hexit f.exit_ne_zero
  | ok text =>
    refine ⟨text, rfl, ?_⟩
    cases hrefusal : Limit.refusal? limit .empty text.toUTF8 with
    | none => rw [ending, hrefusal, Limit.kept_of_refusal?_eq_none hrefusal]
    | some e =>
      rw [ending, hrefusal] at hexit
      exact absurd hexit (answerFailure o e).exit_ne_zero

section
variable {before after arguments first last group : List String} {path name : String}

/-- All ways to give the text have one outcome and print the same, in every directory, and leave the directory as it
    is. -/
theorem runIn_of_gives (hbare : IsBare text) (htrim : IsTrimmed text.toList) (hchooses : Chooses maxVars before after o)
    (hgives : Gives text arguments machine d) :
    runIn machine maxVars (before ++ arguments ++ after) d =
      ((ending o (machine.limit .standardOutput) (found text >>= answer o)).1,
        ⟨d, (ending o (machine.limit .standardOutput) (found text >>= answer o)).2⟩) := by
  obtain ⟨o', hreads, hfiles, hfinding⟩ := exists_finding hbare htrim hchooses hgives
  have hread := hfinding.read
  have hdot := hfinding.dot.trans hchooses.dot
  have hsink : AnswersTo machine o' d .standardOutput := .standardOutput (hfinding.output.trans hchooses.output)
  cases hfound : found text with
  | error f =>
    rw [hfound] at hread
    exact runIn_of_noFiles hfiles hreads (runs_perform_of_error hread)
  | ok s =>
    rw [hfound] at hread
    have hbind : (Except.ok s >>= answer o : Except Failure String) = answer o' s := by
      rw [hfinding.answer]
      rfl
    rw [hbind]
    cases hanswer : answer o' s with
    | error f => exact runIn_of_noFiles hfiles hreads (runs_perform_of_unanswered hread hdot hsink hanswer)
    | ok answerText =>
      have hwrite := runs_perform_of_answer hread hdot hsink hanswer (runs_write machine (answerFailure o') _ _ _)
      rw [runIn_of_noFiles hfiles hreads hwrite, hfinding.answerFailure, Machine.write, World.held_opened_standardOutput,
        ByteArray.empty_append]
      rfl

/-- With an output file that takes it the answer is in the file instead of the standard output. -/
theorem runIn_output_of_gives {answerText : String} (hbare : IsBare text) (htrim : IsTrimmed text.toList)
    (hchooses : Chooses maxVars before after o) (hgives : Gives text arguments machine d)
    (hanswer : found text >>= answer o = .ok answerText) (hparts : first ++ last = before ++ arguments ++ after)
    (hfirst : IsOpen first) (hgroup : Spells .output path group) (htarget : machine.target d path = .ok (.file name))
    (hroom : Limit.refusal? (machine.limit (.file name)) .empty answerText.toUTF8 = none) :
    ∃ d', runIn machine maxVars (first ++ group ++ last) d = (.of (.ok ()), ⟨d', .empty⟩) ∧
      d'.get? name = some answerText.toUTF8 ∧ ∀ other, other ≠ name → d'.get? other = d.get? other := by
  obtain ⟨o', hreads, hfiles, hfinding⟩ := exists_finding hbare htrim hchooses hgives
  obtain ⟨s, hfound, hanswer⟩ := bind_eq_ok_iff.mp hanswer
  have hpath : path ≠ "" := by
    rintro rfl
    cases htarget
  rw [← hparts] at hreads hfiles
  obtain ⟨hfilesFirst, hfilesLast⟩ := List.forall_mem_append.mp hfiles
  have hreads' : Request.read maxVars (first ++ group ++ last) = .ok (.run (o'.add (.output path))) :=
    read_insert hfirst hreads (hfinding.output.trans hchooses.output) (.output hpath hgroup)
  have hfiles' : NoFiles (first ++ group ++ last) :=
    (NoFiles.append hfilesFirst hgroup.noFiles).append hfilesLast
  have hread : Runs (readStatement (.ofMachine machine) (o'.add (.output path))) ⟨d, .empty⟩ (.ok s) ⟨d, .empty⟩ :=
    hfound ▸ hfinding.read
  have hanswer' : answer (o'.add (.output path)) s = .ok answerText := by
    rw [← hanswer, ← hfinding.answer]
    rfl
  have hwrite := runs_write machine (answerFailure (o'.add (.output path))) (World.opened ⟨d, .empty⟩ (.file name))
    (.file name) answerText.toUTF8
  rw [World.held_opened_file, hroom] at hwrite
  have hperform := runs_perform_of_answer hread (hfinding.dot.trans hchooses.dot) (.output rfl htarget) hanswer' hwrite
  have hget := machine.get?_filled ⟨d, .empty⟩ (.file name) answerText.toUTF8
  have hprinted : (machine.filled ⟨d, .empty⟩ (.file name) answerText.toUTF8).printed = .empty := by
    rw [machine.printed_filled, if_neg nofun]
  have hworld : machine.filled ⟨d, .empty⟩ (.file name) answerText.toUTF8 = ⟨_, .empty⟩ := congrArg (World.mk _) hprinted
  refine ⟨(machine.filled ⟨d, .empty⟩ (.file name) answerText.toUTF8).directory,
    (runIn_of_noFiles hfiles' hreads' hperform).trans (congrArg (Prod.mk _) hworld), ?_, fun other hother => ?_⟩
  · rw [hget, if_pos rfl, Limit.kept_of_refusal?_eq_none hroom]
  · rw [hget, if_neg fun heq => hother (Sink.file.inj heq).symm]

end

/-! ### Runs that fail -/

/-- The parts of what a run that fails has printed: the diagram, where it goes to the standard output, as far as that takes
    it; and the beginning of the answer, where that goes to the standard output, which refuses the rest of it. -/
structure Printed (machine : Machine) (o : Options) (s : Statement) (d : Directory) (front back : ByteArray) : Prop where
  diagram : front = .empty ∨
    DrawsTo machine o d .standardOutput ∧ front = Limit.kept (machine.limit .standardOutput) .empty (diagram s)
  answer : back = .empty ∨
    AnswersTo machine o d .standardOutput ∧ ∃ text e, answer o s = .ok text ∧
      Limit.refusal? (machine.limit .standardOutput) front text.toUTF8 = some e ∧
      back = Limit.kept (machine.limit .standardOutput) front text.toUTF8

theorem printed_of_drawn (h : Drawn machine o s ⟨d, .empty⟩ w) : Printed machine o s d w.printed .empty := by
  refine ⟨?_, .inl rfl⟩
  obtain ⟨-, rfl⟩ | ⟨sink, hsink, rfl⟩ := h
  · exact .inl rfl
  · rw [machine.printed_filled]
    split
    next hout =>
      subst hout
      exact .inr ⟨hsink, ByteArray.empty_append⟩
    next => exact .inl rfl

theorem exists_printed_of_stopped {f : Failure} (h : Stopped machine o s f w w') (d : Directory) :
    ∃ back, w'.printed = w.printed ++ back ∧
      (back = .empty ∨ AnswersTo machine o d .standardOutput ∧ ∃ text e, answer o s = .ok text ∧
        Limit.refusal? (machine.limit .standardOutput) w.printed text.toUTF8 = some e ∧
        back = Limit.kept (machine.limit .standardOutput) w.printed text.toUTF8) := by
  cases h with
  | unanswered hsink hanswer hw =>
    refine ⟨.empty, ?_, .inl rfl⟩
    rw [hw, World.printed_opened, ByteArray.append_empty]
  | @refused sink text e hsink hanswer hrefused hw =>
    rw [hw, machine.printed_filled]
    split
    next hout =>
      subst hout
      exact ⟨_, rfl, .inr ⟨hsink.of_any d, text, e, hanswer, hrefused, rfl⟩⟩
    next => exact ⟨.empty, ByteArray.append_empty.symm, .inl rfl⟩

theorem printed_of_exit_one {arguments : List String} {outcome : Outcome}
    (h : runIn machine maxVars arguments d = (outcome, w)) (hexit : outcome.exit = 1) :
    w.printed = .empty ∨ ∃ o s, Asks machine maxVars arguments d o ∧ Finds machine o d s ∧
      ∃ front back, w.printed = front ++ back ∧ Printed machine o s d front back := by
  obtain rfl | ⟨o, f, hasks, -, hperform⟩ := exists_failure_of_runIn h hexit
  · exact .inl rfl
  obtain rfl | ⟨s, w₁, hfinds, hdrawn, hrest⟩ := hperform.of_perform_error
  · exact .inl rfl
  have hdiagram := printed_of_drawn hdrawn
  refine .inr ⟨o, s, hasks, hfinds, ?_⟩
  obtain rfl | hstopped := hrest
  · exact ⟨w.printed, .empty, ByteArray.append_empty.symm, hdiagram⟩
  · obtain ⟨back, hprinted, hanswer⟩ := exists_printed_of_stopped hstopped d
    exact ⟨w₁.printed, back, hprinted, hdiagram.diagram, hanswer⟩

/-- A text that neither begins nor ends with white space has one outcome with all other options, and the same is printed,
    whether it is given as an argument, in a file or on the standard input, and whatever room the standard output has. Where
    the outcome is no failure, an output file with room for what is printed without one gets that, and nothing is printed.
    A run that fails has printed nothing, unless its diagram goes to the standard output, or the answer does and a part of
    it is refused. -/
theorem channels_agree :
    (∀ text maxVars before after o limit, IsBare text → IsTrimmed text.toList → Chooses maxVars before after o →
      ∃ (outcome : Outcome) (printed : ByteArray), ∀ arguments machine d, Gives text arguments machine d →
        machine.limit .standardOutput = limit →
        runIn machine maxVars (before ++ arguments ++ after) d = (outcome, ⟨d, printed⟩) ∧
          ∀ first last path group name, first ++ last = before ++ arguments ++ after → IsOpen first →
            Spells .output path group → machine.target d path = .ok (.file name) →
            Limit.refusal? (machine.limit (.file name)) .empty printed = none → outcome.exit = 0 →
            ∃ d', runIn machine maxVars (first ++ group ++ last) d = (outcome, ⟨d', .empty⟩) ∧
              d'.get? name = some printed ∧ ∀ other, other ≠ name → d'.get? other = d.get? other) ∧
      ∀ machine maxVars arguments d outcome w, runIn machine maxVars arguments d = (outcome, w) → outcome.exit = 1 →
        w.printed = .empty ∨ ∃ o s, Asks machine maxVars arguments d o ∧ Finds machine o d s ∧
          ∃ front back, w.printed = front ++ back ∧ Printed machine o s d front back := by
  refine ⟨?_, fun machine maxVars arguments d outcome w h hexit => printed_of_exit_one h hexit⟩
  intro text maxVars before after o limit hbare htrim hchooses
  refine ⟨(ending o limit (found text >>= answer o)).1, (ending o limit (found text >>= answer o)).2,
    fun arguments machine d hgives hlimit => ⟨?_, ?_⟩⟩
  · rw [← hlimit]
    exact runIn_of_gives hbare htrim hchooses hgives
  intro first last path group name hparts hfirst hgroup htarget hroom hexit
  obtain ⟨answerText, hanswer, hending⟩ := exists_of_ending hexit
  rw [hending] at hroom ⊢
  exact runIn_output_of_gives hbare htrim hchooses hgives hanswer hparts hfirst hgroup htarget hroom

/-- The three ways to give `a || b`, and one of them with an output file. -/
theorem channels_agree_or :
    ∃ outcome printed d',
      runIn (.plain .empty) none ["--compact", "a || b"] ⟨[("in.txt", " a || b\n".toUTF8)]⟩ =
          (outcome, ⟨⟨[("in.txt", " a || b\n".toUTF8)]⟩, printed⟩) ∧
        runIn (.plain .empty) none ["--compact", "--input", "in.txt"] ⟨[("in.txt", " a || b\n".toUTF8)]⟩ =
          (outcome, ⟨⟨[("in.txt", " a || b\n".toUTF8)]⟩, printed⟩) ∧
        runIn (.plain " a || b\n".toUTF8) none ["--compact"] ⟨[("in.txt", " a || b\n".toUTF8)]⟩ =
          (outcome, ⟨⟨[("in.txt", " a || b\n".toUTF8)]⟩, printed⟩) ∧
        runIn (.plain .empty) none ["--compact", "-o", "out.txt", "--input", "in.txt"]
            ⟨[("in.txt", " a || b\n".toUTF8)]⟩ =
          (outcome, ⟨d', .empty⟩) ∧
        d'.get? "out.txt" = some printed := by
  have hbare : ∀ name ∈ ["a || b", "in.txt", "out.txt"], IsBare name := by decide +kernel
  have htrim : IsTrimmed "a || b".toList := by decide +kernel
  have hopen : IsOpen ["--compact"] := ⟨by decide, _, rfl⟩
  have hchooses : Chooses none ["--compact"] [] { compact := true } :=
    ⟨rfl, hopen, by simp [NoFiles], rfl, rfl, rfl, rfl⟩
  have hholds : Holds " a || b\n".toUTF8 "a || b" := ⟨[' '], ['\n'], List.all_eq_true.mp (by decide +kernel), by decide +kernel⟩
  obtain ⟨outcome, printed, hall⟩ := channels_agree.1 "a || b" none _ _ _ none (hbare _ (by simp)) htrim hchooses
  obtain ⟨hfile, hsaved⟩ := hall ["--input", "in.txt"] (.plain .empty) ⟨[("in.txt", " a || b\n".toUTF8)]⟩
    (.file (.apart (.inr (hbare _ (by simp)))) rfl hholds) rfl
  have hexit : outcome.exit = 0 := by
    have hrun : (runIn (.plain .empty) none ["--compact", "--input", "in.txt"]
        ⟨[("in.txt", " a || b\n".toUTF8)]⟩).1.exit = 0 := by
      decide +kernel
    rwa [show runIn _ _ ["--compact", "--input", "in.txt"] _ = _ from hfile] at hrun
  obtain ⟨d', hrun, hget, -⟩ := hsaved ["--compact"] ["--input", "in.txt"] "out.txt" ["-o", "out.txt"] "out.txt" rfl hopen
    (@Spells.shortApart _ _ 'o' rfl (.inr (hbare _ (by simp)))) rfl rfl hexit
  exact ⟨outcome, printed, d', (hall ["a || b"] _ _ .argument rfl).1, hfile,
    (hall [] (.plain " a || b\n".toUTF8) _ (.standardInput rfl hholds) rfl).1, hrun, hget⟩

/-- A diagram on the standard output is printed before there is an answer. -/
theorem not_forall_printed_eq_empty :
    ¬∀ (machine : Machine) (maxVars : Option String) (arguments : List String) (d : Directory),
      (runIn machine maxVars arguments d).1.exit = 1 → (runIn machine maxVars arguments d).2.printed = .empty := by
  intro h
  have hempty := h (.plain .empty) none ["a", "--dot", "/dev/stdout", "-e", "b=1"] ⟨[]⟩ (by decide +kernel)
  revert hempty
  decide +kernel

end Propositional.Command
