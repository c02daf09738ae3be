/-
Module: PolicyAudit.Main
Purpose: The command line on the machine's own files, streams and clock.
Imports: PolicyAudit.Command.Run, Std.Time.DateTime.Timestamp
Trusted boundary: input and output
Main exports: main
-/
import PolicyAudit.Command.Run
import Std.Time.DateTime.Timestamp

namespace PolicyAudit

/-- The number that the operating system gives an error. -/
def errorCode? : IO.Error → Option UInt32
  | .noFileOrDirectory _ code _ | .inappropriateType _ code _ | .alreadyExists _ code _
  | .invalidArgument _ code _ | .resourceExhausted _ code _ => some code
  | _ => none

/-- The number without the sign that some operations put in front of it. -/
def absoluteCode (code : UInt32) : Nat :=
  code.toInt32.toInt.natAbs

def FileFault.ofError (e : IO.Error) : FileFault :=
  match (errorCode? e).map absoluteCode with
  | some 2 => .notFound
  | some 17 => .alreadyExists
  | some 20 => .notADirectory
  | some 21 => .isADirectory
  | some 36 => .nameTooLong
  | _ => .other e.toString

/-- The result of an operation, or the fault that stopped it. -/
def tryFile {α : Type} (operation : IO α) : IO (Except FileFault α) := do
  match ← operation.toBaseIO with
  | .ok value => return .ok value
  | .error e => return .error (.ofError e)

def currentTime : IO Timestamp := do
  let time ← Std.Time.Timestamp.now
  let nanoseconds := time.toNanosecondsSinceUnixEpoch.val.toNat
  return .ofUnix (nanoseconds / 1000000000) (nanoseconds % 1000000000)

instance : Host IO where
  readFile path := tryFile (IO.FS.readFile path)
  writeFile path text := tryFile (IO.FS.writeFile path text)
  createDirectories path := tryFile (IO.FS.createDirAll path)
  print text := IO.print text
  printError text := IO.eprint text
  log e := do IO.eprint (e.line (← currentTime).write)
  now := currentTime

end PolicyAudit

/-- Run the command line; the result is the exit code. -/
def main (arguments : List String) : IO UInt32 := do
  let filter := PolicyAudit.Log.Filter.ofSetting (← IO.getEnv "RUST_LOG")
  return (← PolicyAudit.Command.runArguments filter arguments).toUInt32
