import TileProgram.Compiler.Launch
import TileProgram.Execution.Mode

/-!
# Why sessions and services refuse or fail

As for programs, every error is a cause with the data that its message needs.
-/

namespace TileProgram
namespace Execution

/-- Why a service does not open a connection. -/
inductive Unavailability where
  | unreachable
  | notEntitled (mode : Mode)
  deriving DecidableEq

/-- Why an operation does not fit the state of a session or a service. -/
inductive StateDefect where
  | outOfPhase (phase : Phase)
  | afterFailure
  | noProgram
  | notPending (request : UInt64)
  | consumed
  | notOpen (connection : UInt32)
  | notLoaded (program : UInt32)
  deriving DecidableEq

/-- The side of a request on which a surface stands. -/
inductive Side where
  | input
  | output
  deriving DecidableEq

/-- What a device reports about a request. -/
inductive Fault where
  | reported (reason : String)
  | dropped
  | badMagic
  | tooManySurfaces (count : Nat)
  | compileForExecution
  | executionForCompile
  | surfaceCount (side : Side) (listed supplied : Nat)
  deriving DecidableEq

/-- How a surface differs from what a program or a request declares. -/
inductive SurfaceDefect where
  | wrongCount (declared supplied : Nat)
  | wrongSize (length declared : Nat)
  | notListed (side : Side) (id : UInt64)
  deriving DecidableEq

/-- Why an operation of a session or a service fails. -/
inductive Error where
  | unavailable (cause : Unavailability)
  | modeMismatch (operation : Operation) (mode : Mode)
  | invalidState (defect : StateDefect)
  | busy (request : UInt64)
  | timeout (milliseconds : Nat)
  | device (fault : Fault)
  | cancelled (request : UInt64)
  | invalidContainer (error : ProgramError)
  | invalidSurface (index : Nat) (defect : SurfaceDefect)
  | tooLarge (needed limit : Nat)
  | compilerFailed (compiler : String) (failure : Compiler.Failure)
  | files (failure : Files.Failure)
  deriving DecidableEq

/-- The wording of a refused connection. -/
def Unavailability.message : Unavailability → String
  | .unreachable => "software service is not reachable"
  | .notEntitled mode => mode.text ++ " capability is not entitled"

/-- The wording of a state defect. -/
def StateDefect.message : StateDefect → String
  | .outOfPhase phase => phase.text
  | .afterFailure => "failed; only close is accepted"
  | .noProgram => "no program loaded"
  | .notPending request => "request " ++ toString request ++ " is not pending on this session"
  | .consumed => "completion already consumed"
  | .notOpen connection => "connection " ++ toString connection ++ " is not open"
  | .notLoaded program => "program " ++ toString program ++ " is not loaded"

/-- The name of a side in messages. -/
def Side.text : Side → String
  | .input => "input"
  | .output => "output"

/-- The wording of a fault. -/
def Fault.message : Fault → String
  | .reported reason => reason
  | .dropped => "service dropped the request"
  | .badMagic => "request record has a bad magic"
  | .tooManySurfaces count => "request record lists " ++ toString count ++ " surfaces"
  | .compileForExecution => "compile request submitted for execution"
  | .executionForCompile => "execution request submitted for compile"
  | .surfaceCount side listed supplied =>
      "request lists " ++ toString listed ++ " " ++ side.text ++ " surfaces, " ++
        toString supplied ++ " supplied"

/-- The wording of a surface defect. -/
def SurfaceDefect.message : SurfaceDefect → String
  | .wrongCount declared supplied =>
      "program takes " ++ toString declared ++ " inputs, " ++ toString supplied ++ " supplied"
  | .wrongSize length declared =>
      toString length ++ " bytes, program expects " ++ toString declared
  | .notListed side id =>
      side.text ++ " surface " ++ toString id ++ " does not match the request record"

namespace Error

/-- The wording of an error. -/
def message : Error → String
  | .unavailable cause => "Device unavailable: " ++ cause.message
  | .modeMismatch operation mode =>
      operation.text ++ " is not available in " ++ mode.text ++ " mode"
  | .invalidState defect => "Session in invalid state: " ++ defect.message
  | .busy request => "Session busy: request " ++ toString request ++ " is pending"
  | .timeout milliseconds => "Operation timeout after " ++ toString milliseconds ++ "ms"
  | .device fault => "Device error: " ++ fault.message
  | .cancelled request => "Request " ++ toString request ++ " cancelled"
  | .invalidContainer error => "Invalid container: " ++ error.message
  | .invalidSurface index defect => "Surface " ++ toString index ++ ": " ++ defect.message
  | .tooLarge needed limit =>
      "Request needs " ++ toString needed ++ " surfaces, at most " ++ toString limit ++ " fit"
  | .compilerFailed compiler failure =>
      "Compiler " ++ compiler ++ " failed: " ++ failure.message
  | .files failure => "I/O error: " ++ failure.message

/-- The name of the kind of an error. -/
def kind : Error → String
  | .unavailable .. => "DeviceUnavailable"
  | .modeMismatch .. => "ModeMismatch"
  | .invalidState .. => "InvalidState"
  | .busy .. => "SessionBusy"
  | .timeout .. => "Timeout"
  | .device .. => "DeviceError"
  | .cancelled .. => "Cancelled"
  | .invalidContainer .. => "InvalidContainer"
  | .invalidSurface .. => "InvalidSurface"
  | .tooLarge .. => "RequestTooLarge"
  | .compilerFailed .. => "CompilerFailed"
  | .files .. => "Io"

/-- The exit code of a program that ends with an error: that of the program error for a bad
container, 6 for files, 7 for a compiler, 5 otherwise. -/
def exitCode : Error → Nat
  | .invalidContainer error => error.exitCode
  | .files _ => 6
  | .compilerFailed _ _ => 7
  | _ => 5

end Error
end Execution
end TileProgram
