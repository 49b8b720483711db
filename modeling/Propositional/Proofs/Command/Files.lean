import Propositional.Proofs.Command.Runs
import Propositional.Proofs.Table.Records

/-! What a run of the command does to files. Reading leaves them as they are, and writing changes one of them at a time; so
    the only traces of a run that fails are its diagram, and its output file, which was emptied before there was an answer
    and holds what could be written of it. -/

namespace Propositional.Command
open Text
variable {machine : Machine} {d : Directory} {o : Options} {s : Statement}

/-- The statement has no truth value under the bindings, or no table, whichever the options ask for. -/
inductive Unanswered (o : Options) (s : Statement) : Prop where
  | eval {b : Valuation} {e : EvalError} : o.eval = some b → s.formula.eval b = .error e → Unanswered o s
  | table {e : EvalError} : o.eval = none → Table.ofStatement s o.table = .error e → Unanswered o s

/-- For an exit with 1 the evaluation or the table has failed: a table that was built can be written as comma-separated
    values, and a column that is too wide is a panic. -/
theorem unanswered_of_answer {f : Failure} (h : answer o s = .error f) (hexit : f.exit = 1) : Unanswered o s := by
  unfold answer at h
  split at h
  next b hb =>
    split at h
    next e he => exact .eval hb he
    next x hx => cases h
  next hnone =>
    split at h
    next e he => exact .table hnone he
    next table htable =>
      split at h
      · obtain ⟨text, htext⟩ := o.layout.exists_csv_eq_ok (Table.length_of_mem_rows htable)
        rw [htext] at h
        cases h
      · cases htext : o.layout.text table with
        | ok text =>
          rw [htext] at h
          cases h
        | error e =>
          rw [htext] at h
          cases h
          cases hexit

/-- How a run of the command that fails can change a file, which has the contents `contents` after it. It is where the
    diagram goes, and holds what it took of the diagram; or it is where the answer goes, and is empty because there is none,
    or holds the beginning that it took of it. -/
inductive Overwrites (machine : Machine) (o : Options) (s : Statement) (d : Directory) (name : String)
    (contents : Option ByteArray) : Prop where
  | diagram {path : String} : o.dot = some path → machine.target d path = .ok (.file name) →
    contents = some (Limit.kept (machine.limit (.file name)) .empty (diagram s)) →
    Overwrites machine o s d name contents
  | unanswered {path : String} : o.output = some path → machine.target d path = .ok (.file name) → Unanswered o s →
    contents = some .empty → Overwrites machine o s d name contents
  | refused {path text : String} {e : OsError} : o.output = some path → machine.target d path = .ok (.file name) →
    answer o s = .ok text → Limit.refusal? (machine.limit (.file name)) .empty text.toUTF8 = some e →
    contents = some (Limit.kept (machine.limit (.file name)) .empty text.toUTF8) →
    Overwrites machine o s d name contents

/-- Only with an output file does the answer go to a file. -/
theorem AnswersTo.exists_output {name : String} (h : AnswersTo machine o d (.file name)) :
    ∃ path, o.output = some path ∧ machine.target d path = .ok (.file name) := by
  cases h with
  | @output path _ houtput htarget => exact ⟨path, houtput, htarget⟩

theorem get?_of_drawn {w w' : World} (h : Drawn machine o s w w') (name : String) :
    w'.directory.get? name = w.directory.get? name ∨
      Overwrites machine o s w.directory name (w'.directory.get? name) := by
  obtain ⟨-, rfl⟩ | ⟨sink, ⟨path, hdot, htarget⟩, rfl⟩ := h
  · exact .inl rfl
  · rw [machine.get?_filled]
    split
    next hname =>
      subst hname
      exact .inr (.diagram hdot htarget rfl)
    next => exact .inl rfl

theorem get?_of_stopped {w w' : World} {f : Failure} (h : Stopped machine o s f w w') (hexit : f.exit = 1) (name : String) :
    w'.directory.get? name = w.directory.get? name ∨
      Overwrites machine o s w.directory name (w'.directory.get? name) := by
  cases h with
  | @unanswered sink hsink hanswer hw =>
    rw [hw, World.get?_opened]
    split
    next hname =>
      subst hname
      obtain ⟨path, houtput, htarget⟩ := hsink.exists_output
      exact .inr (.unanswered houtput htarget (unanswered_of_answer hanswer hexit) rfl)
    next => exact .inl rfl
  | @refused sink text e hsink hanswer hrefused hw =>
    rw [hw, machine.get?_filled]
    split
    next hname =>
      subst hname
      obtain ⟨path, houtput, htarget⟩ := hsink.exists_output
      rw [Refuses, World.held_opened_file] at hrefused
      exact .inr (.refused houtput htarget hanswer hrefused rfl)
    next => exact .inl rfl

/-- Paths lead to the same sinks whatever files there are. -/
theorem Overwrites.of_any {name : String} {contents : Option ByteArray} (h : Overwrites machine o s d name contents)
    (d' : Directory) : Overwrites machine o s d' name contents := by
  cases h with
  | diagram hdot htarget hcontents => exact .diagram hdot (machine.target_eq_ok htarget d') hcontents
  | unanswered houtput htarget hanswer hcontents =>
    exact .unanswered houtput (machine.target_eq_ok htarget d') hanswer hcontents
  | refused houtput htarget hanswer hrefused hcontents =>
    exact .refused houtput (machine.target_eq_ok htarget d') hanswer hrefused hcontents

/-- After a run that exits with 1 each file is as it was, unless a statement was found: then the file to which the diagram
    goes may hold what it took of the diagram, and the output file may be empty where there is no answer, or hold the
    beginning of an answer of which it refused a part. -/
theorem get?_of_exit_one {maxVars : Option String} {arguments : List String} {outcome : Outcome} {w : World}
    (h : runIn machine maxVars arguments d = (outcome, w)) (hexit : outcome.exit = 1) (name : String) :
    w.directory.get? name = d.get? name ∨
      ∃ o s, Asks machine maxVars arguments d o ∧ Finds machine o d s ∧
        Overwrites machine o s d name (w.directory.get? name) := by
  obtain rfl | ⟨o, f, hasks, hf, hperform⟩ := exists_failure_of_runIn h hexit
  · exact .inl rfl
  obtain rfl | ⟨s, w₁, hfinds, hdrawn, hrest⟩ := hperform.of_perform_error
  · exact .inl rfl
  have hdiagram := get?_of_drawn hdrawn name
  have hlast : w.directory.get? name = w₁.directory.get? name ∨ Overwrites machine o s d name (w.directory.get? name) := by
    obtain rfl | hstopped := hrest
    · exact .inl rfl
    · exact (get?_of_stopped hstopped hf name).imp_right (·.of_any d)
  obtain hsame | hoverwrites := hlast
  · rw [hsame]
    exact hdiagram.imp_right fun hoverwrites => ⟨o, s, hasks, hfinds, hoverwrites⟩
  · exact .inr ⟨o, s, hasks, hfinds, hoverwrites⟩

/-- A machine with room for ten bytes in `o.txt`. -/
def fullMachine : Machine :=
  { Machine.plain .empty with limit := fun sink => if sink = .file "o.txt" then some ⟨10, .noSpace⟩ else none }

/-- The run below has no room for its table; by then there is a diagram in `d.dot`. -/
theorem get?_of_exit_one_full :
    (runIn fullMachine none ["a", "--dot", "d.dot", "-o", "o.txt"] ⟨[("o.txt", "old".toUTF8)]⟩).1.exit = 1 ∧
      (runIn fullMachine none ["a", "--dot", "d.dot", "-o", "o.txt"]
          ⟨[("o.txt", "old".toUTF8)]⟩).2.directory.get? "o.txt" = some "a     | a\n".toUTF8 ∧
      ∀ name,
        (runIn fullMachine none ["a", "--dot", "d.dot", "-o", "o.txt"] ⟨[("o.txt", "old".toUTF8)]⟩).2.directory.get? name =
            Directory.get? ⟨[("o.txt", "old".toUTF8)]⟩ name ∨
          ∃ o s,
            Asks fullMachine none ["a", "--dot", "d.dot", "-o", "o.txt"] ⟨[("o.txt", "old".toUTF8)]⟩ o ∧
              Finds fullMachine o ⟨[("o.txt", "old".toUTF8)]⟩ s ∧
              Overwrites fullMachine o s ⟨[("o.txt", "old".toUTF8)]⟩ name
                ((runIn fullMachine none ["a", "--dot", "d.dot", "-o", "o.txt"]
                  ⟨[("o.txt", "old".toUTF8)]⟩).2.directory.get? name) := by
  have hexit : (runIn fullMachine none ["a", "--dot", "d.dot", "-o", "o.txt"] ⟨[("o.txt", "old".toUTF8)]⟩).1.exit = 1 := by
    decide +kernel
  exact ⟨hexit, by decide +kernel, get?_of_exit_one rfl hexit⟩

/-- A run that exits with 1 can empty the output file. -/
theorem not_forall_get?_eq_of_exit_one :
    ¬∀ (machine : Machine) (maxVars : Option String) (arguments : List String) (d : Directory) (name : String),
      (runIn machine maxVars arguments d).1.exit = 1 → (d.get? name).isSome →
        (runIn machine maxVars arguments d).2.directory.get? name = d.get? name := by
  intro h
  have hsame := h (.plain .empty) none ["a", "-o", "o.txt", "-e", "b=1"] ⟨[("o.txt", "old".toUTF8)]⟩ "o.txt"
    (by decide +kernel) (by decide +kernel)
  have hempty : (runIn (.plain .empty) none ["a", "-o", "o.txt", "-e", "b=1"]
      ⟨[("o.txt", "old".toUTF8)]⟩).2.directory.get? "o.txt" = some .empty := by decide +kernel
  rw [hempty] at hsame
  revert hsame
  decide +kernel

end Propositional.Command
