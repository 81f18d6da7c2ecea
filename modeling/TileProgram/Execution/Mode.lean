/-!
# Modes and phases

A connection is opened in one mode and keeps it.  A session moves through
phases; the mode decides which of them it can reach.
-/

namespace TileProgram
namespace Execution

/-- What a connection may be used for. -/
inductive Mode where
  | compileOnly
  | programExecution
  deriving DecidableEq

/-- The name of a mode in messages. -/
def Mode.text : Mode → String
  | .compileOnly => "compile-only"
  | .programExecution => "program-execution"

/-- Where a session stands. -/
inductive Phase where
  | closed
  | opened
  | compileReady
  | programLoaded
  | pending
  | completed
  | failed
  deriving DecidableEq

/-- The name of a phase in messages. -/
def Phase.text : Phase → String
  | .closed => "closed"
  | .opened => "opened"
  | .compileReady => "compile-ready"
  | .programLoaded => "program-loaded"
  | .pending => "pending"
  | .completed => "completed"
  | .failed => "failed"

/-- The phase of a session that has just been opened in a mode. -/
def Mode.start : Mode → Phase
  | .compileOnly => .compileReady
  | .programExecution => .opened

/-- What is asked of a session or of a service. -/
inductive Operation where
  | loadProgram
  | submitCompile
  | load
  | submit
  | compile
  deriving DecidableEq

/-- The name of an operation in messages. -/
def Operation.text : Operation → String
  | .loadProgram => "load_program"
  | .submitCompile => "submit_compile"
  | .load => "load"
  | .submit => "submit"
  | .compile => "compile"

end Execution
end TileProgram
