import Propositional.Table.Layout
import Propositional.Valuation.Reading

/-! The options of the command, read from its arguments. The arguments are taken from left to right, and the first
    one that is wrong, or that asks for the version or for help, decides. -/

namespace Propositional.Command

/-! ### What can be given -/

/-- Options without a value that may be given once. -/
inductive Switch where
  | compact
  | csv
  | parallel
  | quiet
deriving DecidableEq, Repr

/-- Options with a value, each of which may be given once. -/
inductive Setting where
  | input
  | output
  | eval
  | filter
  | dot
  | maxVars
deriving DecidableEq, Repr

inductive Flag where
  | switch (s : Switch)
  | setting (s : Setting)
  | verbose
  | help
  | version
deriving DecidableEq, Repr

def Flag.ofLong? : String → Option Flag
  | "compact" => some (.switch .compact)
  | "csv" => some (.switch .csv)
  | "parallel" => some (.switch .parallel)
  | "quiet" => some (.switch .quiet)
  | "input" => some (.setting .input)
  | "output" => some (.setting .output)
  | "eval" => some (.setting .eval)
  | "filter" => some (.setting .filter)
  | "dot" => some (.setting .dot)
  | "max-vars" => some (.setting .maxVars)
  | "verbose" => some .verbose
  | "help" => some .help
  | "version" => some .version
  | _ => none

def Flag.ofShort? : Char → Option Flag
  | 'q' => some (.switch .quiet)
  | 'i' => some (.setting .input)
  | 'o' => some (.setting .output)
  | 'e' => some (.setting .eval)
  | 'f' => some (.setting .filter)
  | 'v' => some .verbose
  | 'h' => some .help
  | 'V' => some .version
  | _ => none

/-! ### What was given -/

structure Options where
  expression : Option String := none
  input : Option String := none
  output : Option String := none
  eval : Option Valuation := none
  filter : Option Bool := none
  dot : Option String := none
  maxVars : Option Nat := none
  compact : Bool := false
  csv : Bool := false
  parallel : Bool := false
  quiet : Bool := false
  verbosity : Nat := 0
deriving Repr

/-- Why the arguments are no use of the command. -/
inductive UsageError where
  | unknown (argument : String)
  | valueMissing (s : Setting)
  | valueUnwanted (argument : String)
  | valueInvalid (s : Setting) (value : String)
  | repeated (argument : String)
  | superfluous (argument : String)
  | conflict (first second : String)
deriving DecidableEq, Repr

def Setting.name : Setting → String
  | .input => "--input"
  | .output => "--output"
  | .eval => "--eval"
  | .filter => "--filter"
  | .dot => "--dot"
  | .maxVars => "--max-vars"

def Switch.name : Switch → String
  | .compact => "--compact"
  | .csv => "--csv"
  | .parallel => "--parallel"
  | .quiet => "--quiet"

/-- What the arguments ask for. -/
inductive Request where
  | run (options : Options)
  | help
  | version
deriving Repr

/-! ### Values -/

/-- The value of decimal digits. -/
def decimal (digits : List Char) : Nat := digits.foldl (fun n c => 10 * n + (c.toNat - '0'.toNat)) 0

/-- The count that the text spells in decimal digits, after a plus sign or without one. -/
def readCount? (text : String) : Option Nat :=
  let digits := match text.toList with
    | '+' :: digits => digits
    | digits => digits
  if digits.isEmpty || !digits.all Char.isDigit then none
  else if decimal digits ≤ Table.largestCount then some (decimal digits) else none

/-- A path has at least one character. -/
def readPath? (text : String) : Option String := if text.isEmpty then none else some text

/-- Sets a value that was not given before. -/
def setOnce {α : Type} (s : Setting) (old : Option α) (value : String) (new : Option α) :
    Except UsageError (Option α) :=
  match old, new with
  | some _, _ => .error (.repeated s.name)
  | none, none => .error (.valueInvalid s value)
  | none, some x => .ok (some x)

namespace Options

/-- The options with a value given for the setting. -/
def set (o : Options) (s : Setting) (value : String) : Except UsageError Options :=
  match s with
  | .input => do return { o with input := ← setOnce s o.input value (readPath? value) }
  | .output => do return { o with output := ← setOnce s o.output value (readPath? value) }
  | .eval => do return { o with eval := ← setOnce s o.eval value (Valuation.read value).toOption }
  | .filter => do return { o with filter := ← setOnce s o.filter value (readTruth? value) }
  | .dot => do return { o with dot := ← setOnce s o.dot value (readPath? value) }
  | .maxVars => do return { o with maxVars := ← setOnce s o.maxVars value (readCount? value) }

/-- The options with the switch on. -/
def switch (o : Options) (s : Switch) : Except UsageError Options :=
  let once (given : Bool) (o : Options) := if given then .error (.repeated s.name) else .ok o
  match s with
  | .compact => once o.compact { o with compact := true }
  | .csv => once o.csv { o with csv := true }
  | .parallel => once o.parallel { o with parallel := true }
  | .quiet => once o.quiet { o with quiet := true }

/-- The options with the expression given. -/
def express (o : Options) (argument : String) : Except UsageError Options :=
  match o.expression with
  | some _ => .error (.superfluous argument)
  | none => .ok { o with expression := some argument }

/-- The options with the setting of the environment where the arguments give none, if they go together. -/
def complete (o : Options) (maxVars : Option String) : Except UsageError Request := do
  if o.expression.isSome && o.input.isSome then throw (.conflict "--input" "EXPRESSION")
  if o.quiet && 0 < o.verbosity then throw (.conflict "--quiet" "--verbose")
  match o.maxVars, maxVars with
  | none, some value => return .run (← o.set .maxVars value)
  | _, _ => return .run o

/-! ### Arguments -/

/-- The options given so far, and the setting whose value comes next; or an answer that needs no more arguments. -/
inductive Progress where
  | going (o : Options) (awaited : Option Setting)
  | done (request : Request)
deriving Repr

/-- Takes an option that stands by itself, or one whose value may be attached to it. -/
def takeFlag (o : Options) (argument : String) (flag : Flag) (attached : Option String) :
    Except UsageError Progress :=
  match flag, attached with
  | .setting s, some value => return .going (← o.set s value) none
  | .setting s, none => .ok (.going o (some s))
  | _, some _ => .error (.valueUnwanted argument)
  | .switch s, none => return .going (← o.switch s) none
  | .verbose, none => .ok (.going { o with verbosity := o.verbosity + 1 } none)
  | .help, none => .ok (.done .help)
  | .version, none => .ok (.done .version)

/-- Takes an argument of short options: flags one after another, or a setting with its value, before which an
    equals sign does not count. -/
def takeShort (argument : String) : Options → List Char → Except UsageError Progress
  | o, [] => .ok (.going o none)
  | o, c :: cs =>
    match Flag.ofShort? c with
    | none => .error (.unknown argument)
    | some (.setting s) =>
      o.takeFlag argument (.setting s) (match cs with
        | [] => none
        | '=' :: value => some (String.ofList value)
        | value => some (String.ofList value))
    | some flag => do
      match ← o.takeFlag argument flag none with
      | .going o _ => takeShort argument o cs
      | progress => return progress

/-- Takes a long option, whose value stands after the first equals sign. -/
def takeLong (o : Options) (argument : String) (body : List Char) : Except UsageError Progress :=
  match Flag.ofLong? (String.ofList (body.takeWhile (· ≠ '='))) with
  | none => .error (.unknown argument)
  | some flag =>
    o.takeFlag argument flag (match body.dropWhile (· ≠ '=') with
      | [] => none
      | _ :: value => some (String.ofList value))

/-- Takes the arguments after two dashes, none of which is an option. -/
def takeRest (o : Options) (arguments : List String) : Except UsageError Options := arguments.foldlM express o

/-- Takes the arguments from left to right. A lone dash is no option, and an option is not the value of another
    one. -/
def take (maxVars : Option String) : Progress → List String → Except UsageError Request
  | .done request, _ => .ok request
  | .going _ (some s), [] => .error (.valueMissing s)
  | .going o none, [] => o.complete maxVars
  | .going o awaited, argument :: arguments =>
    match argument.toList, awaited with
    | '-' :: _ :: _, some s => .error (.valueMissing s)
    | ['-', '-'], none => do (← o.takeRest arguments).complete maxVars
    | '-' :: '-' :: body, none => do take maxVars (← o.takeLong argument body) arguments
    | '-' :: c :: cs, none => do take maxVars (← takeShort argument o (c :: cs)) arguments
    | _, some s => do take maxVars (.going (← o.set s argument) none) arguments
    | _, none => do take maxVars (.going (← o.express argument) none) arguments

end Options

/-- What the arguments ask for, where the environment may set the largest number of variables. -/
def Request.read (maxVars : Option String) (arguments : List String) : Except UsageError Request :=
  Options.take maxVars (.going {} none) arguments

end Propositional.Command
