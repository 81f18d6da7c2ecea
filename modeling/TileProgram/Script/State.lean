import TileProgram.Files.Action
import TileProgram.Script.Octets
import TileProgram.Script.Signal
import TileProgram.Script.Syntax

/-!
# The state of running scripts

What a script knows while it runs, and how it shares that with others that run
beside it.
-/

/-!
## Strands

Commands can run beside each other.  A strand is what one of them still has to
do: questions to the file system, as in an action, and pauses.  At a pause a
strand gives away the state that it shares with the others, and goes on with
what they have made of it when what it waits for has come.
-/

namespace TileProgram
namespace Script

open Files (Action Query)

/-- What a strand waits for: a moment, the ends of processes, or that no other strand can write to a stream. -/
inductive Wake where
  | moment (time : Nat)
  | ends (processes : List Nat)
  | release (stream : Nat)
  deriving DecidableEq

/-- A sequence of queries and pauses that ends with a value. -/
inductive Strand (State Value : Type) where
  | done (value : Value)
  | ask (query : Query) (next : query.Answer → Strand State Value)
  | pause (wake : Wake) (state : State) (next : State → Strand State Value)

namespace Strand

/-- Goes on with the value of a strand. -/
def andThen : Strand State First → (First → Strand State Second) → Strand State Second
  | .done value, next => next value
  | .ask query answer, next => .ask query fun given => (answer given).andThen next
  | .pause wake state resume, next => .pause wake state fun given => (resume given).andThen next

instance : Monad (Strand State) where
  pure := done
  bind := andThen

/-- An action is a strand without pauses. -/
def ofAction : Action Value → Strand State Value
  | .done value => .done value
  | .ask query next => .ask query fun given => ofAction (next given)

/-- Goes on up to the next pause or the end. -/
def proceed : Strand State Value → Action (Value ⊕ (Wake × State × (State → Strand State Value)))
  | .done value => .done (.inl value)
  | .ask query next => .ask query fun given => (next given).proceed
  | .pause wake state next => .done (.inr (wake, state, next))

@[simp] theorem andThen_done (value : First) (next : First → Strand State Second) :
    (Strand.done value).andThen next = next value := rfl

@[simp] theorem andThen_pause (wake : Wake) (state : State)
    (resume : State → Strand State First) (next : First → Strand State Second) :
    (Strand.pause wake state resume).andThen next =
      .pause wake state fun given => (resume given).andThen next := rfl

end Strand

end Script
end TileProgram

/-!
## Running scripts: what is known

A running script knows its arguments, variables, functions and options, and
where its channels lead.  Commands in parentheses, in substitutions and in
pipelines work on a copy of that.  The streams that channels lead to are shared
between the copies, and so are the processes, which have numbers.  Time is
counted in millionths of a second; it passes when something is run.
-/

namespace TileProgram
namespace Script

open Files (Action Failure)

/-- A variable; one that only has been marked has no value. -/
structure Variable where
  value : Option String
  isExported : Bool
  isReadonly : Bool
  deriving DecidableEq

/-- No value and no marks. -/
def Variable.unset : Variable :=
  ⟨none, false, false⟩

/-- What a channel leads to: bytes that wait to be read, bytes that have been written, last one first, a position in a file, or nothing. -/
inductive Stream where
  | waiting (bytes : Bytes)
  | written (reversed : Bytes)
  | file (path : String) (position : Nat) (appends : Bool)
  | nothing
  deriving DecidableEq

/-- A process that a script has started beside itself; it may have been waited for. -/
structure Job where
  process : Nat
  place : Nat
  isWaitedFor : Bool
  deriving DecidableEq

/-- What a script or a copy of it knows.  Its process is that of the whole script; its own is that of the job it belongs to. -/
structure Shell where
  name : String
  line : Nat
  nextLine : Nat
  command : Option String
  arguments : List String
  bindings : List (String × Variable)
  hidden : List (List (String × Variable))
  functions : List (String × Command)
  aliases : List (String × String)
  options : List Char
  status : Nat
  substitutionStatus : Nat
  directory : String
  traps : List (Nat × String)
  channels : List (Nat × Nat)
  process : Nat
  own : Nat
  parent : Nat
  isCopy : Bool
  ignored : List Nat
  lastBackground : Option Nat
  jobs : List Job
  loops : Nat
  mask : Nat
  optionPlace : Nat
  deadline : Option Nat

/-- A command that is to be run beside the others, as a process of its own. -/
structure Start where
  process : Nat
  body : Command
  shell : Shell

/-- A signal that has been sent to a process at a moment. -/
structure Sending where
  process : Nat
  signal : Nat
  moment : Nat
  deriving DecidableEq

/-- Everything that a step of a running script can change.  The actions of the processes that are there say what they do at signals. -/
structure State where
  shell : Shell
  streams : Array Stream
  pending : List Sending
  processes : Nat
  steps : Nat
  clock : Nat
  isAlone : Bool
  started : List Start
  living : List (Nat × List (Nat × String))
  ended : List (Nat × ExitStatus)

/-- How the commands that would come next are left.  A script that exits without saying how keeps the status it has. -/
inductive Leaving where
  | exit (status : Option Nat)
  | failure
  | killed (process signal : Nat)
  | return_
  | break_ (levels : Nat)
  | continue_ (levels : Nat)
  | overdue
  | exhausted
  deriving DecidableEq

/-- A step of a running script, which may ask for files and pause. -/
abbrev Running := ExceptT Leaving (StateT State (Strand State))

namespace Running

/-- The answer of the file system. -/
def ask (action : Action Value) : Running Value :=
  let strand : Strand State Value := Strand.ofAction action
  liftM (liftM strand : StateT State (Strand State) Value)

/-- Waits for something while others go on. -/
def pause (wake : Wake) : Running Unit :=
  fun state => .pause wake state fun given => .done (.ok (), given)

/-- What the script knows. -/
def shell : Running Shell := do
  return (← get).shell

/-- Changes what the script knows. -/
def modifyShell (change : Shell → Shell) : Running Unit :=
  modify fun state => { state with shell := change state.shell }

/-- Takes note of a status. -/
def setStatus (status : Nat) : Running Unit :=
  modifyShell fun shell => { shell with status := status }

/-- Whether an option is set. -/
def hasOption (letter : Char) : Running Bool := do
  return (← shell).options.contains letter

/-- Runs something and then another thing, even if the first one is left. -/
def always (running : Running Value) (after : Running Unit) : Running Value := do
  let value ← tryCatch running fun leaving => do
    after
    throw leaving
  after
  return value

/-- Runs something; tells whether it was done without a failure. -/
def attempt (running : Running Unit) : Running Bool :=
  tryCatch (do running; return true) fun leaving =>
    if leaving = .failure then return false else throw leaving

/-- Counts a step; scripts that do not end are stopped. -/
def countStep : Running Unit := do
  match (← get).steps with
  | 0 => throw .exhausted
  | left + 1 => modify fun state => { state with steps := left }

/-! ## Time -/

/-- What the own process does when it is asked to end; nothing if it does not care. -/
def endTrap? : Running (Option String) := do
  let shell ← shell
  return if shell.ignored.contains 15 then some "" else shell.traps.lookup 15

/-- Stops what has taken more time than it is given, unless it cares about that. -/
def checkDeadline : Running Unit := do
  if (← shell).deadline.any (· ≤ (← get).clock) then
    match ← endTrap? with
    | none => throw .overdue
    | some action => do
        modifyShell fun shell => { shell with deadline := none }
        if !action.isEmpty then
          modify fun state =>
            { state with pending := state.pending ++ [⟨state.shell.own, 15, state.clock⟩] }

/-- Lets time pass. -/
def spend (time : Nat) : Running Unit := do
  let state ← get
  if state.isAlone then modify fun state => { state with clock := state.clock + time }
  else pause (.moment (state.clock + time))
  checkDeadline

/-- Sleeps for a time, or up to the moment at which it is stopped. -/
def sleep (time : Nat) : Running Unit := do
  let wanted := (← get).clock + time
  pause (.moment (((← shell).deadline.map (min · wanted)).getD wanted))
  checkDeadline
  if (← endTrap?) == some "" then pause (.moment (max wanted (← get).clock))

/-! ## Files -/

/-- The path, as the file system knows it, that a path in the script stands for. -/
def resolve (path : String) : Running String := do
  let text := textOfOctets path
  if text.isEmpty then return "" else return Files.Path.under (← shell).directory text

/-- Asks the file system about a path in the script. -/
def onPath (action : String → Action Value) (path : String) : Running Value := do
  ask (action (← resolve path))

/-! ## Channels -/

/-- Adds a stream and gives its number. -/
def addStream (stream : Stream) : Running Nat := do
  let number := (← get).streams.size
  modify fun state => { state with streams := state.streams.push stream }
  return number

/-- The number of the stream that a channel leads to. -/
def streamNumber? (channel : Nat) : Running (Option Nat) := do
  return (← shell).channels.lookup channel

/-- The stream with a number. -/
def streamAt (number : Nat) : Running Stream := do
  return ((← get).streams[number]?).getD .nothing

/-- Changes the stream with a number. -/
def setStream (number : Nat) (stream : Stream) : Running Unit :=
  modify fun state => { state with streams := state.streams.setIfInBounds number stream }

/-- Lets a channel lead to a stream. -/
def connect (channel number : Nat) : Running Unit :=
  modifyShell fun shell =>
    { shell with
      channels := (channel, number) :: shell.channels.filter fun entry => entry.1 != channel }

/-- Lets a channel lead nowhere. -/
def disconnect (channel : Nat) : Running Unit :=
  modifyShell fun shell =>
    { shell with channels := shell.channels.filter fun entry => entry.1 != channel }

/-- The bytes with others written over them from a position on. -/
def overwritten (bytes : Bytes) (position : Nat) (patch : Bytes) : Bytes :=
  (bytes.resize (max bytes.length position)).overwrite position patch

/-- Writes to a stream; tells whether that is possible. -/
def writeTo (number : Nat) (bytes : Bytes) : Running Bool := do
  match ← streamAt number with
  | .waiting _ => return false
  | .nothing => return true
  | .written reversed => do
      setStream number (.written (bytes.reverse ++ reversed))
      return true
  | .file path position appends => do
      let before := ((← ask (Action.read path)).toOption).getD []
      let place := if appends then before.length else position
      let written ← ask (Action.write path (overwritten before place bytes))
      setStream number (.file path (place + bytes.length) appends)
      return written.toOption.isSome

/-- Writes to a channel; tells whether that is possible. -/
def write (channel : Nat) (bytes : Bytes) : Running Bool := do
  if bytes.isEmpty then return true
  match ← streamNumber? channel with
  | none => return false
  | some number => writeTo number bytes

/-- Writes to the output. -/
def output (bytes : Bytes) : Running Unit := do
  let _ ← write 1 bytes

/-- Writes a line to the output. -/
def outputLine (text : String) : Running Unit :=
  output (lineBytes text)

/-- Writes to the channel for complaints. -/
def errorLine (text : String) : Running Unit := do
  let _ ← write 2 (lineBytes text)

/-- Takes bytes from a stream as given by a function from those that wait to the number of those that are taken. -/
def takeFrom (number : Nat) (count : Bytes → Nat) : Running Bytes := do
  match ← streamAt number with
  | .waiting bytes => do
      let length := count bytes
      setStream number (.waiting (bytes.drop length))
      return bytes.take length
  | .file path position appends => do
      let bytes := (((← ask (Action.read path)).toOption).getD []).drop position
      let length := min (count bytes) bytes.length
      setStream number (.file path (position + length) appends)
      return bytes.take length
  | _ => return []

/-- Takes bytes from a channel. -/
def take (channel : Nat) (count : Bytes → Nat) : Running Bytes := do
  match ← streamNumber? channel with
  | none => return []
  | some number => takeFrom number count

/-- Takes all bytes from the input. -/
def inputBytes : Running Bytes :=
  take 0 List.length

/-! ## Files that may be channels -/

/-- The paths that stand for channels. -/
def channelPaths : List (String × Nat) :=
  [("/dev/stdin", 0), ("/dev/stdout", 1), ("/dev/stderr", 2)] ++
    (List.range 10).flatMap fun channel =>
      ["/dev/fd/", "/proc/self/fd/"].map fun start => (start ++ toString channel, channel)

/-- The channel that a path stands for. -/
def channelOf? (path : String) : Option Nat :=
  channelPaths.lookup path

/-- What stands under a path. -/
def kind (path : String) : Running (Except Failure Files.Kind) := do
  match channelOf? path with
  | some channel =>
      if (← streamNumber? channel).isSome then return .ok .device else return .error .missing
  | none => onPath Action.kind path

/-- The contents of a file. -/
def readFile (path : String) : Running (Except Failure Bytes) := do
  match channelOf? path with
  | some channel =>
      if (← streamNumber? channel).isSome then return .ok (← take channel List.length)
      else return .error .missing
  | none => onPath Action.read path

/-- Writes a file. -/
def writeFile (path : String) (bytes : Bytes) : Running (Except Failure Unit) := do
  match channelOf? path with
  | some channel =>
      if ← write channel bytes then return .ok () else return .error .missing
  | none => onPath (fun path => Action.write path bytes) path

/-! ## Complaints -/

/-- How complaints of the script begin. -/
def complaintStart : Running String := do
  let shell ← shell
  let command := match shell.command with
    | some name => name ++ ": "
    | none => ""
  return shell.name ++ ": " ++ toString shell.line ++ ": " ++ command

/-- Complains about the line that is being run. -/
def complain (text : String) : Running Unit := do
  errorLine ((← complaintStart) ++ text)

/-- Complains and leaves the command that is being run with a status. -/
def failWith (status : Nat) (text : String) : Running Value := do
  complain text
  setStatus status
  throw .failure

/-- Complains and leaves the command that is being run. -/
def fail (text : String) : Running Value :=
  failWith 2 text

/-- Runs something while complaints name a command. -/
def named (command : String) (running : Running Value) : Running Value := do
  let before := (← shell).command
  modifyShell fun shell => { shell with command := some command }
  always running (modifyShell fun shell => { shell with command := before })

/-! ## Variables -/

/-- The variable with a name. -/
def variableOf (name : String) : Running Variable := do
  return ((← shell).bindings.lookup name).getD .unset

/-- The value of a variable. -/
def value? (name : String) : Running (Option String) := do
  return (← variableOf name).value

/-- Replaces a variable.  The place among options is forgotten when their number is set. -/
def putVariable (name : String) (given : Variable) : Running Unit :=
  modifyShell fun shell =>
    { shell with
      bindings := (name, given) :: shell.bindings.filter fun entry => entry.1 != name
      optionPlace := if name = "OPTIND" then 0 else shell.optionPlace }

/-- Sets a variable, which must not be protected. -/
def setVariable (name value : String) : Running Unit := do
  let before ← variableOf name
  if before.isReadonly then fail (name ++ ": is read only")
  let isExported := before.isExported || (← hasOption 'a')
  putVariable name { before with value := some value, isExported := isExported }

/-- The letters that separate fields. -/
def separators : Running (List Char) := do
  return ((← value? "IFS").getD " \t\n").toList

end Running
end Script
end TileProgram
