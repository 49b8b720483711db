import Propositional.Command.Directory

/-! The machine that a command runs on: where a path leads, what can be read, and how much of what is written is taken.
    Files are created and emptied in one step, and written in another one, so that a file can be lost although nothing
    was written to it. What is written goes through a buffer, a part at a time: a sink that has no room for all of it
    keeps the beginning, and has no room for anything else while the command runs. The standard output is taken for a
    stream, to which bytes are only ever added. Links, directories in the directory, devices that forget what they take,
    and errors when a file is closed are left out. -/

namespace Propositional

/-- What the bytes that a command writes go to: a file, or the standard output. -/
inductive Sink where
  | file (name : String)
  | standardOutput
deriving DecidableEq, Repr

/-- What a path leads to: a sink, whether or not there is such a file, or a directory. -/
inductive Place where
  | sink (sink : Sink)
  | folder
deriving DecidableEq, Repr

/-- How many bytes a sink can hold, and the error when it should hold more. -/
structure Limit where
  size : Nat
  error : OsError
deriving DecidableEq, Repr

namespace Limit

/-- What a sink keeps of the bytes behind those that it holds. -/
def kept (limit : Option Limit) (held bytes : ByteArray) : ByteArray :=
  match limit with
  | none => bytes
  | some limit => bytes.extract 0 (limit.size - held.size)

/-- The error with which a sink refuses a part of the bytes behind those that it holds. -/
def refusal? (limit : Option Limit) (held bytes : ByteArray) : Option OsError :=
  match limit with
  | none => none
  | some limit => if bytes.size ≤ limit.size - held.size then none else some limit.error

theorem extract_of_size_le {bytes : ByteArray} {n : Nat} (h : bytes.size ≤ n) : bytes.extract 0 n = bytes := by
  have hrest : bytes.extract bytes.size n = .empty := by
    rw [← ByteArray.size_eq_zero_iff, ByteArray.size_extract]
    omega
  have hsplit := @ByteArray.extract_append_extract bytes 0 bytes.size n
  rw [hrest, ByteArray.append_empty, ByteArray.extract_zero_size, Nat.zero_min, Nat.max_eq_right h] at hsplit
  exact hsplit.symm

/-- What is not refused is kept. -/
theorem kept_of_refusal?_eq_none {limit : Option Limit} {held bytes : ByteArray}
    (h : refusal? limit held bytes = none) : kept limit held bytes = bytes := by
  cases limit with
  | none => rfl
  | some limit =>
    rw [refusal?] at h
    split at h
    next hsize => exact extract_of_size_le hsize
    next => cases h

end Limit

/-- What a command finds and cannot change. -/
structure Machine where
  standardInput : Except OsError ByteArray
  /-- The place to which the parts of a path lead that begins at the root or goes up. -/
  beyond : List (List Char) → Except OsError Place
  /-- Why the file with the name, although there is one, cannot be read. -/
  unreadable : String → Option ReadFailure
  /-- Why the sink cannot be opened for writing. -/
  barred : Sink → Option OsError
  limit : Sink → Option Limit

/-- What a command can change: the files, and what stands on the standard output. -/
structure World where
  directory : Directory
  printed : ByteArray := .empty

/-! ### Sinks -/

namespace World

def held (w : World) : Sink → ByteArray
  | .file name => (w.directory.get? name).getD .empty
  | .standardOutput => w.printed

def put (w : World) (bytes : ByteArray) : Sink → World
  | .file name => { w with directory := w.directory.put name bytes }
  | .standardOutput => { w with printed := bytes }

/-- A file is there and empty when it has been opened for writing. -/
def opened (w : World) : Sink → World
  | .file name => w.put .empty (.file name)
  | .standardOutput => w

variable (w : World) (bytes : ByteArray) (sink : Sink) (name : String)

theorem get?_put :
    (w.put bytes sink).directory.get? name = if sink = .file name then some bytes else w.directory.get? name := by
  cases sink with
  | file name' => simp [put, eq_comm]
  | standardOutput => rfl

theorem printed_put : (w.put bytes sink).printed = if sink = .standardOutput then bytes else w.printed := by
  cases sink <;> rfl

theorem get?_opened :
    (w.opened sink).directory.get? name = if sink = .file name then some .empty else w.directory.get? name := by
  cases sink with
  | file name' => exact w.get?_put .empty (.file name') name
  | standardOutput => rfl

@[simp] theorem printed_opened : (w.opened sink).printed = w.printed := by
  cases sink <;> rfl

@[simp] theorem held_opened_file : (w.opened (.file name)).held (.file name) = .empty := by
  simp [held, get?_opened]

@[simp] theorem held_opened_standardOutput : (w.opened .standardOutput).held .standardOutput = w.printed := rfl

end World

namespace Machine

/-- The bytes written to the sink, as far as it takes them. -/
def write (machine : Machine) (w : World) (sink : Sink) (bytes : ByteArray) : Except OsError Unit × World :=
  let held := w.held sink
  let limit := machine.limit sink
  let result := match Limit.refusal? limit held bytes with
    | none => .ok ()
    | some e => .error e
  (result, w.put (held ++ Limit.kept limit held bytes) sink)

/-! ### Paths -/

/-- Longest name of a file, in bytes. -/
def maxNameLength : Nat := 255

/-- The place to which the parts of a relative path lead. -/
def locateParts (machine : Machine) (d : Directory) : List (List Char) → Except OsError Place
  | [] => .ok .folder
  | part :: parts =>
    let name := String.ofList part
    if part = [] || part = ['.'] then machine.locateParts d parts
    else if part = ['.', '.'] then machine.beyond (part :: parts)
    else if maxNameLength < name.utf8ByteSize then .error .nameTooLong
    else if parts.isEmpty then .ok (.sink (.file name))
    else if (d.get? name).isSome then .error .notADirectory
    else .error .notFound

/-- The place to which a path leads. -/
def locate (machine : Machine) (d : Directory) (path : List Char) : Except OsError Place :=
  match path with
  | [] => .error .notFound
  | '/' :: _ => machine.beyond (path.splitOn '/')
  | _ => machine.locateParts d (path.splitOn '/')

/-- The contents of the file to which the path leads. What is written to the standard output cannot be read. -/
def read (machine : Machine) (d : Directory) (path : String) : Except ReadFailure ByteArray :=
  match machine.locate d path.toList with
  | .error e => .error (.opening e)
  | .ok .folder => .error (.reading .isADirectory)
  | .ok (.sink .standardOutput) => .error (.opening .notFound)
  | .ok (.sink (.file name)) =>
    match d.get? name, machine.unreadable name with
    | none, _ => .error (.opening .notFound)
    | some _, some failure => .error failure
    | some contents, none => .ok contents

/-- The sink to which the path leads, if it can be opened for writing. A path that ends with a slash names a
    directory. -/
def target (machine : Machine) (d : Directory) (path : String) : Except OsError Sink :=
  let path := path.toList
  let stem := (path.reverse.dropWhile (· = '/')).reverse
  if stem.length < path.length then
    match machine.locate d stem with
    | .error e => if stem = [] then .error .isADirectory else .error e
    | .ok _ => .error .isADirectory
  else match machine.locate d path with
    | .error e => .error e
    | .ok .folder => .error .isADirectory
    | .ok (.sink sink) =>
      match machine.barred sink with
      | some e => .error e
      | none => .ok sink

/-- Opens the sink to which the path leads. -/
def create (machine : Machine) (w : World) (path : String) : Except OsError Sink × World :=
  match machine.target w.directory path with
  | .error e => (.error e, w)
  | .ok sink => (.ok sink, w.opened sink)

/-- A machine on which nothing is refused. Beside the directory it has the root above it and the names of the standard
    output. -/
def plain (standardInput : ByteArray) : Machine where
  standardInput := .ok standardInput
  beyond parts :=
    let parts := parts.filter fun part => part ≠ [] ∧ part ≠ ['.']
    if parts = [] ∨ parts = [['.', '.']] then .ok .folder
    else if String.ofList (['/'].intercalate parts) ∈ ["dev/stdout", "dev/fd/1", "proc/self/fd/1"] then
      .ok (.sink .standardOutput)
    else .error .notFound
  unreadable _ := none
  barred _ := none
  limit _ := none

end Machine

end Propositional
