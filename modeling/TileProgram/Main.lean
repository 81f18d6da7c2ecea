import TileProgram.CommandLine.Run

/-!
# The program

Commands act on the files of the machine, and what they print goes to the
standard channels.
-/

namespace TileProgram
namespace Machine

/-- The failure that an error of the system stands for. -/
def failureOf : IO.Error → Files.Failure
  | .noFileOrDirectory .. => .missing
  | .permissionDenied .. => .denied
  | .alreadyExists .. => .exists_
  | .inappropriateType _ code _ => if code = 20 then .notDirectory else .isDirectory
  | error => .other (toString error)

/-- Turns errors of the system into failures. -/
def guarded (act : IO Value) : IO (Except Files.Failure Value) := do
  match ← act.toBaseIO with
  | .ok value => return .ok value
  | .error error => return .error (failureOf error)

/-- Reads a file as a list of bytes. -/
def readBytes (path : String) : IO Bytes := do
  return (← IO.FS.readBinFile path).data.toList

/-- What stands under a path; every file that can be read counts as executable. -/
def kindOf (path : String) : IO (Except Files.Failure Files.Kind) := do
  match ← guarded (readBytes path) with
  | .ok _ => return .ok .executable
  | .error .isDirectory => return .ok .directory
  | .error failure => return .error failure

/-- The names in a directory. -/
def namesIn (path : String) : IO (List String) := do
  let entries ← ((← IO.currentDir) / path).readDir
  return entries.toList.map fun entry => entry.fileName

/-- Lets everyone read and write a file, and execute it or not. -/
def allow (path : String) (isExecutable : Bool) : IO Unit :=
  let access : IO.AccessRight := ⟨true, true, isExecutable⟩
  IO.setAccessRights path ⟨access, access, access⟩

/-- Links are neither made nor followed by their own name. -/
def noLinks : Except Files.Failure Value :=
  .error (.other "not supported")

/-- Answers a query from the files of the machine. -/
def answer : (query : Files.Query) → IO query.Answer
  | .read path => guarded (readBytes path)
  | .write path bytes => guarded (IO.FS.writeBinFile path ⟨bytes.toArray⟩)
  | .makeDirectory path => guarded (IO.FS.createDir path)
  | .makeDirectories path => guarded (IO.FS.createDirAll path)
  | .remove path => guarded (IO.FS.removeFile path)
  | .removeDirectory path => guarded (IO.FS.removeDir path)
  | .rename source target => guarded (IO.FS.rename source target)
  | .link _ _ => return noLinks
  | .linkTarget _ => return noLinks
  | .setExecutable path isExecutable => guarded (allow path isExecutable)
  | .kind path => kindOf path
  | .list path => guarded (namesIn path)
  | .working => guarded (return toString (← IO.currentDir))

/-- Runs an action on the files of the machine. -/
def perform : Files.Action Value → IO Value
  | .done value => return value
  | .ask query next => do perform (next (← answer query))

end Machine
end TileProgram

open TileProgram in
/-- Runs the command line. -/
def main (arguments : List String) : IO UInt32 := do
  let ending ← Machine.perform (CommandLine.run arguments)
  IO.print ending.output
  if let some message := ending.message then IO.eprintln message
  return UInt32.ofNat ending.exitCode
