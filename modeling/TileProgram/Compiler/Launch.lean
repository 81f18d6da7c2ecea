import TileProgram.ProgramError
import TileProgram.Script.Schedule
import TileProgram.Script.Signal
import TileProgram.Text.Columns
import TileProgram.Text.Utf8

/-!
# External compilers

What an external compiler is told, and how it is started.
-/

/-!
## Options of an external compiler
-/

namespace TileProgram
namespace Compiler

/-- What an external compiler is told besides its input and its output. -/
structure Options where
  target : String
  debugMask : UInt32
  extra : List String
  deriving DecidableEq

namespace Options

/-- The usual target, no debugging and nothing extra. -/
def standard : Options :=
  ⟨"h13", 0, []⟩

/-- The arguments with which a compiler is started; extra ones come last. -/
def arguments (options : Options) (input output : String) : List String :=
  ["--target", options.target, "--debug-mask", Text.hexadecimal options.debugMask.toNat,
    "-i", input, "-o", output] ++ options.extra

end Options
end Compiler
end TileProgram

/-!
## Starting compilers

A compiler is started by its path, or by a name that is looked for.  It has no
input, its output is not kept, and what it says to its error channel is.
-/

namespace TileProgram
namespace Compiler

open Files (Action)
open Script (ExitStatus Running Shell State Variable)

/-- How many levels of commands can be inside one another. -/
def depthLimit : Nat := 3000

/-- How many commands can be run. -/
def stepLimit : Nat := 250000

/-- The variables that every program is given. -/
def environment (directory : String) : List (String × Variable) :=
  [ ("HOME", ⟨some "/root", true, false⟩), ("PWD", ⟨some directory, true, false⟩),
    ("PATH", ⟨some "/usr/local/sbin:/usr/local/bin:/usr/sbin:/usr/bin:/sbin:/bin", true, false⟩) ]

/-- What is known before a program is started: its channels lead nowhere, but for the one for complaints. -/
def initialState (directory : String) : State :=
  let bindings := environment (Script.octetsOfText directory)
  let channels := [(0, 0), (1, 1), (2, 2)]
  { shell := Shell.start "" [] bindings directory channels 1 0
    streams := #[.nothing, .nothing, .written []]
    pending := []
    processes := 1
    steps := stepLimit
    clock := 0
    isAlone := true
    started := []
    living := []
    ended := [] }

/-- What has been written to the channel for complaints. -/
def complaints (state : State) : Bytes :=
  match state.streams[2]? with
  | some (Script.Stream.written reversed) => reversed.reverse
  | _ => []

/-- Starts a program and gives its exit status with its complaints; one that does not come to an end is stopped. -/
def launch (program : String) (arguments : List String) :
    Action (Except Files.Failure (ExitStatus × Bytes)) := do
  let directory := ((← Action.working).toOption).getD "/"
  let runner := Script.runner depthLimit
  let starting : Running (Except Files.Failure ExitStatus) :=
    if program.isEmpty then return .error .missing
    else
      Script.startProgram runner false (Script.octetsOfText program)
        (arguments.map Script.octetsOfText)
  match ← Script.runWithJobs runner 2 starting (initialState directory) with
  | (some (.ok (.ok status)), state) => return .ok (status, complaints state)
  | (some (.ok (.error failure)), _) => return .error failure
  | (some (.error (.killed _ signal)), state) => return .ok (.killed signal, complaints state)
  | (_, state) => return .ok (.killed 11, complaints state)

end Compiler
end TileProgram

/-!
## Why a compiler fails
-/

namespace TileProgram
namespace Compiler

open Script (ExitStatus)

/-- Why a compiler has produced no program. -/
inductive Failure where
  | notText (failure : Utf8.Failure)
  | refused (error : ProgramError)
  | cannotStart (failure : Files.Failure)
  | unsuccessful (status : ExitStatus) (complaint : String)
  deriving DecidableEq

/-- The wording of a failure. -/
def Failure.message : Failure → String
  | .notText failure => "description is not UTF-8: " ++ failure.message
  | .refused error => error.message
  | .cannotStart failure => "cannot start: " ++ failure.message
  | .unsuccessful status complaint => status.message ++ ": " ++ complaint

end Compiler
end TileProgram
