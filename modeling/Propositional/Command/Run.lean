import Propositional.Command.Machine
import Propositional.Command.Options
import Propositional.Diagram
import Propositional.Table.Layout

/-! A run of the command: the arguments are expanded and read, then the formula, the diagram is written, the output
    file is emptied, and the truth value or the table is written to it or to the standard output. The command reaches what
    is around it through its surroundings only. What it logs, the text of its help, what it says about arguments that it
    does not understand, and where a panic happened are left out. -/

namespace Propositional.Command
open Text

/-- How a command reaches what is around it. What it writes to has a handle. -/
structure Surroundings (Handle : Type) (m : Type → Type) where
  standardInput : m (Except OsError ByteArray)
  read : String → m (Except ReadFailure ByteArray)
  /-- A file is created, or emptied if there is one. -/
  create : String → m (Except OsError Handle)
  standardOutput : Handle
  /-- All bytes are written, or a beginning of them and then there is an error. -/
  write : Handle → ByteArray → m (Except OsError Unit)

/-- Why a run stops: an error with what lies behind it, or a panic. -/
inductive Failure where
  | error (message : String) (cause : Option String := none)
  | panic (message : String)
deriving DecidableEq, Repr

namespace Failure

def render : Failure → String
  | .error message none => s!"Error: {message}\n"
  | .error message (some cause) => s!"Error: {message}\n\nCaused by:\n    {cause}\n"
  | .panic message => s!"{message}\n"

def exit : Failure → Nat
  | .error _ _ => 1
  | .panic _ => 101

end Failure

/-- How a run ends, apart from what it has written. -/
structure Outcome where
  exit : Nat
  standardError : String := ""
deriving DecidableEq, Repr

/-- How a run ends that fails, or does what it is asked for. -/
def Outcome.of : Except Failure Unit → Outcome
  | .error f => { exit := f.exit, standardError := f.render }
  | .ok () => { exit := 0 }

section
variable {Handle : Type} {m : Type → Type} [Monad m] (surroundings : Surroundings Handle m)

/-- The result of the action, or the failure that its error is. -/
def attempt {ε α : Type} (failure : ε → Failure) (x : m (Except ε α)) : ExceptT Failure m α := do
  match ← x with
  | .error e => throw (failure e)
  | .ok a => return a

/-- What the operating system says is all that is known about the failure. -/
def osFailure (e : OsError) : Failure := .error e.message

/-! ### Arguments from files -/

/-- The line without a carriage return at its end. -/
def dropReturn (line : List Char) : List Char := if line.getLast? = some '\r' then line.dropLast else line

/-- The lines of a text. A line ends with a line feed, before which a carriage return does not count; what follows the
    last line feed is a line if it is not empty. -/
def lines (s : List Char) : List (List Char) :=
  let pieces := s.splitOn '\n'
  pieces.dropLast.map dropReturn ++ (pieces.getLast?.toList.filter fun line => !line.isEmpty)

/-- How deeply argument files may name one another. -/
def maxArgumentDepth : Nat := 1000

/-- The failure to read the arguments in a file. -/
def argumentFailure (path cause : String) : Failure := .error s!"failed to open file `{path}`" cause

/-- The arguments that an argument stands for: those on the lines of a file, if it is an at sign and a path. -/
def expand : Nat → String → ExceptT Failure m (List String)
  | depth, argument =>
    match depth, argument.toList with
    | 0, '@' :: path => throw (.error s!"argument file {String.ofList path} is nested too deeply")
    | depth + 1, '@' :: path => do
      let path := String.ofList path
      let bytes ← attempt (fun e => argumentFailure path e.error.message) (surroundings.read path)
      match String.fromUTF8? bytes with
      | none => throw (argumentFailure path ReadError.notUtf8.message)
      | some text => return (← (lines text.toList).mapM fun line => expand depth (String.ofList line)).flatten
    | _, _ => return [argument]

/-! ### The formula -/

/-- The failure to read the input file. -/
def inputFailure (path : String) : ReadFailure → Failure
  | .opening e => .error s!"could not open {path}" e.message
  | .reading e => osFailure e

/-- The statement in the arguments, in the input file or in the standard input. -/
def readStatement (o : Options) : ExceptT Failure m Statement :=
  match o.expression, o.input with
  | some text, _ => attempt (fun e => .error (SyntaxError.message e)) (pure (Statement.parse text))
  | none, some path => do
    let bytes ← attempt (inputFailure path) (surroundings.read path)
    attempt (fun e => .error (ReadError.message e)) (pure (Statement.read bytes))
  | none, none => do
    let bytes ← attempt osFailure surroundings.standardInput
    attempt (fun e => .error (ReadError.message e)) (pure (Statement.read bytes))

/-! ### The diagram -/

/-- The failure to create the file for the diagram. -/
def diagramFailure (path : String) (e : OsError) : Failure := .error s!"could not create {path}" e.message

/-- Writes the diagram of the formula where the options ask for it. -/
def draw (o : Options) (s : Statement) : ExceptT Failure m Unit :=
  match o.dot with
  | none => return ()
  | some path => do
    let handle ← attempt (diagramFailure path) (surroundings.create path)
    attempt osFailure (surroundings.write handle (Diagram.ofFormula s.formula).dot.toUTF8)

/-! ### The answer -/

def Options.layout (o : Options) : Table.Layout := { filter := o.filter, compact := o.compact }

def Options.table (o : Options) : Table.Options :=
  { maxVars := o.maxVars.getD Table.defaultMaxVars, parallel := o.parallel }

/-- The text of the answer, a truth value or a table. A table is written line by line, but what can fail in one that was
    built, a column that is too wide, does so in front of the first byte. -/
def answer (o : Options) (s : Statement) : Except Failure String :=
  match o.eval with
  | some b =>
    match s.formula.eval b with
    | .error e => .error (.error e.message)
    | .ok x => .ok (renderTruth o.compact x ++ "\n")
  | none =>
    match Table.ofStatement s o.table with
    | .error e => .error (.error e.message)
    | .ok table =>
      if o.csv then (o.layout.csv table).mapError fun e => .error e.message
      else (o.layout.text table).mapError fun e => .panic e.message

/-- The failure to write the answer. Comma-separated values have an error of their own, behind which is that of the
    operating system. -/
def answerFailure (o : Options) (e : OsError) : Failure :=
  .error e.message (if o.eval.isNone && o.csv then some e.message else none)

/-- What the answer is written to. -/
def openOutput (o : Options) : ExceptT Failure m Handle :=
  match o.output with
  | none => return surroundings.standardOutput
  | some path => attempt osFailure (surroundings.create path)

/-! ### Runs -/

/-- Runs what the options ask for. The output file is emptied before there is an answer. -/
def perform (o : Options) : ExceptT Failure m Unit := do
  let s ← readStatement surroundings o
  draw surroundings o s
  let output ← openOutput surroundings o
  let text ← MonadExcept.ofExcept (answer o s)
  attempt (answerFailure o) (surroundings.write output text.toUTF8)

def versionText : String := "rstruth 0.1.0\n"

/-- A run of the command with the arguments, where the environment may set the largest number of variables. -/
def run (maxVars : Option String) (arguments : List String) : m Outcome := do
  match ← (arguments.mapM (expand surroundings maxArgumentDepth)).run with
  | .error f => return .of (.error f)
  | .ok arguments =>
    match Request.read maxVars arguments.flatten with
    | .error _ => return { exit := 2 }
    | .ok .help => return { exit := 0 }
    | .ok .version =>
      let _ ← surroundings.write surroundings.standardOutput versionText.toUTF8
      return { exit := 0 }
    | .ok (.run o) => return .of (← (perform surroundings o).run)

end

/-! ### Surroundings that are a value -/

/-- The surroundings on a machine, where the state is what can be changed. -/
def Surroundings.ofMachine (machine : Machine) : Surroundings Sink (StateM World) where
  standardInput := return machine.standardInput
  read path := return machine.read (← get).directory path
  create path := modifyGet fun w => machine.create w path
  standardOutput := .standardOutput
  write sink bytes := modifyGet fun w => machine.write w sink bytes

/-- A run of the command in a directory, with nothing on the standard output, and the world after it. -/
def runIn (machine : Machine) (maxVars : Option String) (arguments : List String) (d : Directory) : Outcome × World :=
  (run (.ofMachine machine) maxVars arguments).run { directory := d }

end Propositional.Command
