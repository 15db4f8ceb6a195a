/-
**The program.**

Connects commands with the machine: its files, its clock, its standard streams.  The journal goes to
standard error and the answer to standard output.  The exit code is 0 if the command succeeds, 1 if it
fails, and 2 if the command line is no command.

Main definitions:

* the instance of `FileSystem` for the machine's files;
* `main` — the program.
-/

import Conform.Run
import Std.Time.DateTime.Timestamp

set_option relaxedAutoImplicit false
set_option autoImplicit false

namespace Conform

/-- The fault behind an error of the machine. -/
def FileFault.ofError : IO.Error → FileFault
  | .noFileOrDirectory _ _ _ => .notFound
  | .alreadyExists _ _ _ => .alreadyExists
  | .inappropriateType _ code _ => if code = 21 then .isDirectory else .notDirectory
  | .noSuchThing _ _ _ => .notFound
  | error => .other (toString error)

/-- The result of an action, or the fault behind its error. -/
def attempt {α : Type} (action : IO α) : IO (Except FileFault α) := do
  match ← action.toBaseIO with
  | .ok a => return .ok a
  | .error error => return .error (.ofError error)

/-- Access to the files of the machine. -/
instance : FileSystem IO where
  pathExists path := (System.mkFilePath [path]).pathExists
  isFile path := do
    let there ← (System.mkFilePath [path]).pathExists
    return there && !(← (System.mkFilePath [path]).isDir)
  list path := attempt do
    return (← (System.mkFilePath [path]).readDir).toList.map fun entry => entry.fileName
  read path := attempt (IO.FS.readBinFile path)
  write path text := attempt (IO.FS.writeFile path text)
  createDirectories path := attempt (IO.FS.createDirAll path)

/-- The current time, in UTC. -/
def currentTime : IO DateTime := do
  let nanos := (← Std.Time.Timestamp.now).toNanosecondsSinceUnixEpoch.val
  return (DateTime.ofParts? (nanos / 1000000000) (nanos % 1000000000).toNat 0).getD DateTime.first

/-- A command on the machine: whether it succeeds, what it writes, and its journal. -/
def Command.perform (command : Command) : IO ((Except CommandFault Unit × String) × Journal) := do
  let standardInput : StateT Journal (ReaderT DateTime IO) (Except FileFault ByteArray) := do
    let stdin ← (IO.getStdin : IO IO.FS.Stream)
    (attempt (readAll stdin) : IO _)
  (((command.respond standardInput).run "").run Journal.empty).run (← currentTime)
where
  /-- Everything that a stream holds. -/
  readAll (stream : IO.FS.Stream) : IO ByteArray := do
    let mut bytes := ByteArray.empty
    let mut more := true
    while more do
      let chunk ← stream.read 65536
      if chunk.isEmpty then more := false else bytes := bytes ++ chunk
    return bytes

/-- How the program is used. -/
def usage : String :=
  "Usage: conform validate --schema <ID> --version <VERSION> [--config <PATH>] [--input <PATH>]\n" ++
  "       conform check [--config <PATH>]\n"

end Conform

/-- Runs the command of the command line. -/
def main (arguments : List String) : IO UInt32 := do
  match Conform.Command.ofArguments arguments with
  | .error .help =>
    IO.print Conform.usage
    return 0
  | .error .version =>
    IO.println "conform 0.1.0"
    return 0
  | .error _ =>
    IO.eprint Conform.usage
    return 2
  | .ok command =>
    let ((outcome, output), journal) ← command.perform
    for entry in journal.entries do
      IO.eprint entry.line
    IO.print output
    return if outcome.toOption.isSome then 0 else 1
