import Propositional.Command.Run

/-! The command line: the command run on the files, the standard streams and the environment of the process. -/

namespace Propositional

/-- What the operating system says in an error. -/
def OsError.ofError : IO.Error → OsError
  | .alreadyExists _ code details => ⟨details, code.toNat⟩
  | .otherError code details => ⟨details, code.toNat⟩
  | .resourceBusy code details => ⟨details, code.toNat⟩
  | .resourceVanished code details => ⟨details, code.toNat⟩
  | .unsupportedOperation code details => ⟨details, code.toNat⟩
  | .hardwareFault code details => ⟨details, code.toNat⟩
  | .unsatisfiedConstraints code details => ⟨details, code.toNat⟩
  | .illegalOperation code details => ⟨details, code.toNat⟩
  | .protocolError code details => ⟨details, code.toNat⟩
  | .timeExpired code details => ⟨details, code.toNat⟩
  | .interrupted _ code details => ⟨details, code.toNat⟩
  | .noFileOrDirectory _ code details => ⟨details, code.toNat⟩
  | .invalidArgument _ code details => ⟨details, code.toNat⟩
  | .permissionDenied _ code details => ⟨details, code.toNat⟩
  | .resourceExhausted _ code details => ⟨details, code.toNat⟩
  | .inappropriateType _ code details => ⟨details, code.toNat⟩
  | .noSuchThing _ code details => ⟨details, code.toNat⟩
  | .unexpectedEof => ⟨"Unexpected end of file", 0⟩
  | .userError text => ⟨text, 0⟩

namespace Command

def readFile (path : String) : IO (Except ReadFailure ByteArray) := do
  match ← (IO.FS.Handle.mk path .read).toBaseIO with
  | .error e => return .error (.opening (.ofError e))
  | .ok handle =>
    match ← handle.readBinToEnd.toBaseIO with
    | .error e => return .error (.reading (.ofError e))
    | .ok bytes => return .ok bytes

/-- The result of the action, or what the operating system says. -/
def asked {α : Type} (x : IO α) : IO (Except OsError α) := do
  match ← x.toBaseIO with
  | .error e => return .error (.ofError e)
  | .ok a => return .ok a

/-- The surroundings of the process with the streams. -/
def Surroundings.process (input output : IO.FS.Stream) : Surroundings IO.FS.Stream IO where
  standardInput := asked input.readBinToEnd
  read := readFile
  create path := asked do return .ofHandle (← IO.FS.Handle.mk path .write)
  standardOutput := output
  write stream bytes := asked do
    stream.write bytes
    stream.flush

end Command

end Propositional

def main (arguments : List String) : IO UInt32 := do
  let surroundings := .process (← IO.getStdin) (← IO.getStdout)
  let outcome ← Propositional.Command.run surroundings (← IO.getEnv "RSTRUTH_MAX_VARS") arguments
  IO.eprint outcome.standardError
  return outcome.exit.toUInt32
