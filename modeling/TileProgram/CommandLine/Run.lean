import TileProgram.CommandLine.Arguments
import TileProgram.CommandLine.Report
import TileProgram.Compiler.Launch
import TileProgram.Execution.Loopback
import TileProgram.Execution.Session
import TileProgram.Register.Json
import TileProgram.Text.Columns

/-!
# Running commands

A command is an action on files that ends with an exit code and with what is
printed: lines on the output, and one message if it fails.
-/

namespace TileProgram
namespace CommandLine

open Files (Action)

/-- How a command ends. -/
structure Ending where
  exitCode : Nat
  lines : List String
  message : Option String
  deriving DecidableEq

namespace Ending

/-- A command that succeeds. -/
def success (lines : List String) : Ending :=
  ⟨0, lines, none⟩

/-- A command that fails after it has printed some lines. -/
def failure (lines : List String) (trouble : Trouble) : Ending :=
  ⟨trouble.cause.exitCode, lines, some trouble.message⟩

/-- A command that prints lines until one of them is refused. -/
def printing : List (Except Register.Error String) → Ending
  | [] => success []
  | .error error :: _ => failure [] (.ofCause (.register error))
  | .ok line :: rest =>
      let ending := printing rest
      { ending with lines := line :: ending.lines }

/-- The exit code of a command line that cannot be read. -/
def mistakeCode : Nat := 2

/-- What is printed on the output, every line ended. -/
def output (ending : Ending) : String :=
  String.join (ending.lines.map fun line => line ++ "\n")

end Ending

/-- A result, or the failure for which there is none. -/
abbrev Attempt (Value : Type) := Except Trouble Value

/-- Says what was being done when something failed. -/
def during (activity : Activity) (cause : ε → Cause) : Except ε Value → Attempt Value
  | .ok value => .ok value
  | .error error => .error ⟨some activity, cause error⟩

/-- Fails without saying what was being done. -/
def plainly (cause : ε → Cause) : Except ε Value → Attempt Value
  | .ok value => .ok value
  | .error error => .error (.ofCause (cause error))

/-- The ending that an attempt leads to if its value does. -/
def finish (attempt : Attempt Value) (next : Value → Action Ending) : Action Ending :=
  match attempt with
  | .ok value => next value
  | .error trouble => return .failure [] trouble

/-! ## Compiling -/

/-- The network that the text of a description holds. -/
def networkOf (contents : Except Files.Failure String) : Except ProgramError Network := do
  match Network.ofJson (← contents.mapError .files) with
  | some network => return network
  | none => throw .description

/-- The program that a file holds. -/
def programOf (contents : Except Files.Failure Bytes) : Except ProgramError Container := do
  Container.read (← contents.mapError .files)

/-- The policy that the arguments ask for. -/
def policyOf (fusion : Bool) (baseAddress : Option UInt32) : Layout.Policy :=
  let usual := Layout.Policy.standard
  { usual with fusion := fusion, baseAddress := baseAddress.getD usual.baseAddress }

/-- Assembles a description and writes the program. -/
def assembleFile (description output : String) (policy : Layout.Policy) : Action Ending := do
  let network := during (.reading description) .program (networkOf (← Action.readText description))
  finish network fun network =>
    finish (plainly .program (Assembly.assemble policy network)) fun program => do
      let written ← Action.write output program.write
      let result := during (.writing output) .program (written.mapError ProgramError.files)
      finish result fun _ => return .success [compiledLine description output program]

/-- Checks the program that an external compiler has written. -/
def checkCompiled (contents : Except Files.Failure Bytes) : Except Execution.Error Container := do
  let program ← (programOf contents).mapError .invalidContainer
  program.validate.mapError .invalidContainer
  return program

/-- Lets an external compiler write a program. -/
def compileFile (compiler description output target : String) : Action Ending := do
  let options := { Compiler.Options.standard with target := target }
  match ← Compiler.launch compiler (options.arguments description output) with
  | .error failure =>
      let error := Execution.Error.compilerFailed compiler (.cannotStart failure)
      return .failure [] (.ofCause (.execution error))
  | .ok (.exited 0, _) =>
      let checked := checkCompiled (← Action.read output)
      finish (plainly .execution checked) fun program =>
        return .success [compiledLine description output program]
  | .ok (status, complaints) =>
      let complaint := Text.trim (String.ofList (Utf8.decodeLossy complaints))
      let error := Execution.Error.compilerFailed compiler (.unsuccessful status complaint)
      return .failure [] (.ofCause (.execution error))

/-! ## Running -/

/-- Reads inputs in order; the first one that cannot be read decides. -/
def readInputs : List String → Action (Attempt (List Execution.Surface))
  | [] => return .ok []
  | path :: rest => do
      match during (.reading path) .files (← Action.read path) with
      | .error trouble => return .error trouble
      | .ok bytes =>
          let others ← readInputs rest
          return others.map fun surfaces => .ofBytes bytes :: surfaces

/-- Writes outputs in order, numbered from a given number on, after some lines that have been printed. -/
def writeOutputs (directory : String) (number : Nat) (lines : List String) :
    List Execution.Surface → Action Ending
  | [] => return .success lines
  | surface :: rest => do
      let path := Files.Path.join directory ("output" ++ toString number ++ ".bin")
      match during (.writing path) .files (← Action.write path surface.bytes) with
      | .error trouble => return .failure lines trouble
      | .ok () =>
          writeOutputs directory (number + 1) (lines ++ [outputLine path surface.size]) rest

/-- Opens a session on the software service and loads a program from what reading its file gave. -/
def openWith (timeout : Nat) (contents : Except Files.Failure Bytes) :
    Except Execution.Error (Execution.Session × Execution.Counter Execution.Loopback) := do
  let service := Execution.Loopback.service
  let counter := Execution.Counter.fresh (Execution.Loopback.ofBehavior .sound)
  let config := Execution.Config.standard.withTimeout timeout
  let (opened, connected) := Execution.Session.open_ service .programExecution config counter
  let loaded := (← opened).loadFile service contents connected
  loaded.result
  return (loaded.session, loaded.counter)

/-- Submits inputs and waits until the service has worked. -/
def execute (session : Execution.Session)
    (counter : Execution.Counter Execution.Loopback) (inputs : List Execution.Surface) :
    Except Execution.Error Execution.Output := do
  let submitted := session.submit Execution.Loopback.service inputs counter
  let handle ← submitted.result
  (submitted.session.waitDefault handle submitted.counter.work).result

/-- Runs a program on inputs and writes its outputs. -/
def runFile (program : String) (inputs : List String) (output : String) (timeout : Nat) :
    Action Ending := do
  finish (plainly .execution (openWith timeout (← Action.read program))) fun (session, counter) => do
    finish (← readInputs inputs) fun surfaces =>
      finish (plainly .execution (execute session counter surfaces)) fun result => do
        let made ← Action.makeDirectories output
        finish (during (.creating output) .files made) fun _ =>
          writeOutputs output 0 [] result.outputs

/-! ## Printing -/

/-- Compares two programs. -/
def diffFiles (first second : String) : Action Ending := do
  finish (during (.reading first) .program (programOf (← Action.read first))) fun left => do
    finish (during (.reading second) .program (programOf (← Action.read second))) fun right =>
      let differences := Difference.ofContainers left right
      return ⟨if differences.isEmpty then 0 else 1,
        comparisonLines first second left.entries.length differences, none⟩

/-- Prints a program. -/
def dumpFile (path : String) : Action Ending := do
  finish (during (.reading path) .program (programOf (← Action.read path))) fun program =>
    return .printing (dumpLines path program)

/-- The table that a file holds, or the standard one. -/
def readTable : Option String → Action (Attempt Register.Table)
  | none => return .ok .standard
  | some path => do
      match during (.reading path) .files (← Action.readText path) with
      | .error trouble => return .error trouble
      | .ok text => return plainly .register (Register.Table.ofJson text)

/-- The regions that are asked for. -/
def regionsOf : Option String → Except Register.Error (List Register.Region)
  | none => .ok Register.Region.all
  | some name =>
      match Register.Region.ofName? name with
      | some region => .ok [region]
      | none => .error (.unknownField (name ++ " is not a section"))

/-- Lists registers. -/
def listRegisters (region table : Option String) : Action Ending := do
  finish (← readTable table) fun table =>
    finish (plainly .register (regionsOf region)) fun regions =>
      return .success (regions.flatMap (regionLines table))

/-! ## Commands -/

/-- Runs a command. -/
def Command.perform : Command → Action Ending
  | .compile description output none _ fusion baseAddress =>
      assembleFile description output (policyOf fusion baseAddress)
  | .compile description output (some compiler) target _ _ =>
      compileFile compiler description output target
  | .run program inputs output timeout => runFile program inputs output timeout
  | .diff first second => diffFiles first second
  | .dump program => dumpFile program
  | .registers region table => listRegisters region table

/-- The version that is printed when it is asked for. -/
def versionLine : String := "ane 0.3.0"

/-- The lines that are printed when help is asked for. -/
def helpLines : List String :=
  [ "Apple Neural Engine program tools", "",
    "Usage: ane [OPTIONS] <COMMAND>", "",
    "Commands:",
    "  compile  Build an HWX program from a JSON network description",
    "  run      Execute a program on the software service",
    "  diff     Compare two programs field by field",
    "  dump     Print a program's header, relocations and non-zero record fields",
    "  regs     List register table fields",
    "  help     Print this message or the help of the given subcommand(s)", "",
    "Options:",
    "  -v, --verbose  Log at debug level",
    "  -h, --help     Print help",
    "  -V, --version  Print version" ]

/-- What is said about a command line that cannot be read. -/
def mistakeMessage : String :=
  "error: the arguments fit no command\n\nFor more information, try '--help'."

/-- Reads and runs a command line. -/
def run (arguments : List String) : Action Ending :=
  match read arguments with
  | .ok command => command.perform
  | .error .help => return .success helpLines
  | .error .version => return .success [versionLine]
  | .error .mistake => return ⟨Ending.mistakeCode, [], some mistakeMessage⟩

end CommandLine
end TileProgram
