import TileProgram.Script.Builtin.Variables
import TileProgram.Script.CommandReader

/-!
# Commands that control the script

Commands of the script itself that leave loops, functions and the script, run
texts, start programs, and deal with signals and processes.
-/

namespace TileProgram
namespace Script
namespace Builtin

open Files (Failure)

/-! ## Leaving -/

/-- Leaves loops, or begins their next rounds. -/
def leaveLoops (leaving : Nat → Leaving) (arguments : List String) : Running Nat := do
  let levels ← match arguments with
    | [] => pure 1
    | text :: _ => numberOf text
  if levels = 0 then Running.fail ("Illegal number: " ++ arguments.headD "")
  let loops := (← Running.shell).loops
  if loops = 0 then return 0
  Running.setStatus 0
  throw (leaving (min levels loops))

/-- Leaves a function, a text that is being run, or the script. -/
def return_ (arguments : List String) : Running Nat := do
  if let text :: _ := arguments then Running.setStatus (← numberOf text)
  throw .return_

/-- Ends the script. -/
def exit (arguments : List String) : Running Nat := do
  match arguments with
  | [] => throw (.exit none)
  | text :: _ => do
      let status ← numberOf text
      throw (.exit (some status))

/-! ## Running texts and programs -/

/-- Runs the text that the arguments make. -/
def eval (runner : Runner) (isTested : Bool) (arguments : List String) : Running Nat := do
  runner.runText isTested (" ".intercalate arguments).toList
  return (← Running.shell).status

/-- The path of a file that is to be read; a name without a slash is looked for like a program. -/
def sourcePath (name : String) : Running String := do
  if name.toList.contains '/' then return name
  for directory in ← searchDirectories do
    let path := if directory.isEmpty then name else directory ++ "/" ++ name
    match ← Running.kind path with
    | .ok kind => if kind.isRegular then return path
    | .error _ => pure ()
  Running.fail (name ++ ": not found")

/-- Runs a file as part of the script. -/
def dot (runner : Runner) (arguments : List String) : Running Nat := do
  match arguments with
  | [] => return 0
  | name :: _ => do
      let path ← sourcePath name
      match ← Running.readFile path with
      | .error failure => refuse path failure
      | .ok bytes => do
          let text := (octets (bytes.filter (· != 0))).toList
          tryCatch (Running.named path (runner.runText false text)) fun leaving =>
            if leaving = .return_ then return else throw leaving
          return (← Running.shell).status
where
  /-- Complains that a file cannot be read. -/
  refuse (path : String) (failure : Failure) : Running Nat :=
    let words := match failure with
      | .missing | .notDirectory => "No such file"
      | _ => failure.words
    Running.fail ("cannot open " ++ path ++ ": " ++ words)

/-- What is said about a program that cannot be started, and the status for it. -/
def startFailure (program : String) (failure : Failure) : String × Nat :=
  if program.isEmpty then (": Permission denied", 127)
  else match failure with
    | .missing | .notDirectory => (program ++ ": not found", 127)
    | .nameTooLong | .tooManyLinks => (program ++ ": " ++ failure.words, 127)
    | _ => (program ++ ": " ++ failure.words, 126)

/-- Starts a program in place of the script. -/
def exec (runner : Runner) (arguments : List String) : Running Nat := do
  match arguments with
  | [] => return 0
  | program :: rest => do
      match ← runner.start program rest with
      | .ok status => do
          Running.removeTrap 0
          let shell ← Running.shell
          match status with
          | .killed signal => do
              if !shell.isCopy then throw (.killed shell.own signal)
              Running.noteEnd status
              throw (.exit none)
          | .exited code => throw (.exit (some code))
      | .error failure => do
          let (text, status) := startFailure program failure
          Running.complain text
          throw (.exit (some status))

/-! ## Signals and processes -/

/-- The name of what a number of a trap stands for. -/
def trapName (number : Nat) : String :=
  if number = 0 then "EXIT" else (signalNames.lookup number).getD (toString number)

/-- The number of what a trap is for. -/
def trapNumber? (text : String) : Option Nat :=
  match number? text with
  | some number => if number ≤ greatestSignal then some number else none
  | none =>
      if String.ofList (text.toList.map Char.toUpper) = "EXIT" then some 0 else signalOfName? text

/-- Sets what is to be done when something happens, or shows that. -/
def trap (arguments : List String) : Running Nat := do
  let (_, arguments) ← options "" arguments
  let change (action : Option String) (names : List String) : Running Nat := do
    for name in names do
      match trapNumber? name with
      | none => do
          Running.errorLine ("trap: " ++ name ++ ": bad trap")
          return 1
      | some number => do
          Running.removeTrap number
          if let some text := action then
            Running.modifyShell fun shell => { shell with traps := (number, text) :: shell.traps }
    Running.publishTraps
    return 0
  match arguments with
  | [] => do
      let sorted := sortBy (fun first second => first.1 < second.1) (← Running.shell).traps
      for (number, action) in sorted do
        Running.outputLine ("trap -- " ++ singleQuoted action ++ " " ++ trapName number)
      return 0
  | [name] => change none [name]
  | action :: names => change (if action = "-" then none else some action) names

/-- The signal that a text names, or gives the number of. -/
def signalOf? (text : String) : Option Nat :=
  match number? text with
  | some number => if number ≤ greatestSignal then some number else none
  | none => signalOfName? text

/-- Sends a signal to a process; tells whether that is there.  A process that does nothing about it ends at once. -/
def sendSignal (signal : Nat) (process : Nat) : Running Bool := do
  let shell ← Running.shell
  let target := if process = 0 then shell.process else process
  match (← get).living.lookup target with
  | none => return false
  | some actions => do
      let isIgnored := match actions.lookup signal with
        | some action => action.isEmpty
        | none => harmlessSignals.contains signal || stoppingSignals.contains signal
      if signal = 9 || !isIgnored then
        modify fun state =>
          { state with pending := state.pending ++ [⟨target, signal, state.clock⟩] }
        if signal = 9 || (actions.lookup signal).isNone then Running.end_ target (.killed signal)
      return true

/-- The process that a text stands for: a number, or a place among the jobs. -/
def processOf (text : String) : Running Nat := do
  let jobs := (← Running.shell).jobs
  let found (job? : Option Job) : Running Nat :=
    match job? with
    | some job => return job.process
    | none => Running.fail ("No such job: " ++ text)
  match text.toList with
  | ['%'] | ['%', '%'] | ['%', '+'] => found jobs.head?
  | ['%', '-'] => found jobs.tail.head?
  | '%' :: digits =>
      found (jobs.find? fun job => some job.place == number? (String.ofList digits))
  | _ => numberOf text

/-- Sends a signal to processes, or shows the names of signals. -/
def kill (arguments : List String) : Running Nat := do
  let usage : Running Nat :=
    Running.fail ("Usage: kill [-s sigspec | -signum | -sigspec] [pid | job]... or\n" ++
      "kill -l [exitstatus]")
  let send (signal : Nat) (processes : List String) : Running Nat := do
    if processes.isEmpty then usage
    else Running.forOperands processes fun text => do
      let plain := if text.startsWith "-" then String.ofList (text.toList.drop 1) else text
      let process ← processOf plain
      let isSent ← if plain.startsWith "%" then pure false else sendSignal signal process
      if isSent then return 0
      else
        Running.complain "No such process\n"
        return 1
  let show_ (arguments : List String) : Running Nat := do
    match arguments with
    | [] => do
        for number in List.range (greatestSignal + 1) do
          if let some name := signalNames.lookup number then Running.outputLine name
          else if number = 0 then Running.outputLine "0"
        return 0
    | text :: _ => do
        let status ← numberOf text
        let number := if 128 < status then status - 128 else status
        match signalNames.lookup number with
        | some name => do
            Running.outputLine name
            return 0
        | none => Running.fail ("invalid signal number or exit status: " ++ text)
  match arguments with
  | [] => usage
  | "-l" :: rest => show_ rest
  | "-s" :: name :: rest =>
      match signalOf? name with
      | some signal => send signal rest
      | none => Running.fail ("invalid signal number or name: " ++ name)
  | "--" :: rest => send 15 rest
  | first :: rest =>
      match first.toList with
      | '-' :: letter :: letters =>
          match signalOf? (String.ofList (letter :: letters)) with
          | some signal => send signal rest
          | none => Running.fail ("Illegal option -" ++ String.ofList [letter])
      | _ => send 15 arguments

/-- Waits for the ends of processes; gives a signal that has come before. -/
def waitFor (processes : List Nat) : Running (Option Nat) := do
  Running.pause (.ends processes)
  Running.checkDeadline
  let own := (← Running.shell).own
  let state ← get
  if processes.all fun process => (state.ended.lookup process).isSome then
    processes.forM Running.leave
    return none
  else return (state.pending.find? fun sending => sending.process == own).map Sending.signal

/-- Takes note that jobs have been waited for. -/
def markWaited (processes : List Nat) : Running Unit :=
  Running.modifyShell fun shell =>
    { shell with
      jobs := shell.jobs.map fun job =>
        { job with isWaitedFor := job.isWaitedFor || processes.contains job.process } }

/-- Waits for jobs; gives how the last one has ended. -/
def wait (arguments : List String) : Running Nat := do
  let jobs := (← Running.shell).jobs.map Job.process
  if arguments.isEmpty then
    match ← waitFor jobs with
    | some signal => return 128 + signal
    | none => do
        markWaited jobs
        return 0
  arguments.foldlM (fun _ text => do
    let process ← processOf text
    if !jobs.contains process then return 127
    match ← waitFor [process], (← get).ended.lookup process with
    | none, some status => do
        markWaited [process]
        Running.noteEnd status
        return status.code
    | signal, _ => return 128 + signal.getD 0) 0

/-- Shows the jobs; those that have ended are forgotten. -/
def showJobs (arguments : List String) : Running Nat := do
  let (_, _) ← options "lp" arguments
  let jobs := (← Running.shell).jobs
  let ended := (← get).ended
  for (job, rank) in jobs.zipIdx do
    let words := match ended.lookup job.process with
      | none => "Running"
      | some (.exited 0) => "Done"
      | some (.exited code) => "Done(" ++ toString code ++ ")"
      | some (.killed signal) => (signalWords signal).getD "Done"
    let mark := ["+", "-"].getD rank " "
    let start := "[" ++ toString job.place ++ "] " ++ mark ++ " " ++ words
    Running.outputLine (start ++ String.ofList (List.replicate (33 - start.length) ' '))
  Running.modifyShell fun shell =>
    { shell with jobs := jobs.filter fun job => (ended.lookup job.process).isNone }
  return 0

/-- A number in octal digits, at least four. -/
def octal (number : Nat) : String :=
  let digits := Nat.toDigits 8 number
  String.ofList (List.replicate (4 - digits.length) '0' ++ digits)

/-- Shows or sets the permissions that new files lack. -/
def umask (arguments : List String) : Running Nat := do
  let (letters, operands) ← options "S" arguments
  match operands with
  | [] => do
      let mask := (← Running.shell).mask
      let part (shift : Nat) : String :=
        let bits := mask / Nat.pow 8 shift % 8
        String.ofList ((if bits / 4 % 2 = 0 then ['r'] else []) ++
          (if bits / 2 % 2 = 0 then ['w'] else []) ++ (if bits % 2 = 0 then ['x'] else []))
      Running.outputLine
        (if letters.contains 'S' then "u=" ++ part 2 ++ ",g=" ++ part 1 ++ ",o=" ++ part 0
          else octal mask)
      return 0
  | mode :: _ => do
      let digits := mode.toList
      if digits.all isOctal && !digits.isEmpty then
        Running.modifyShell fun shell => { shell with mask := digitsValue 8 0 digits % 512 }
        return 0
      else if digits.all fun letter => "ugoarwx=+-,".toList.contains letter then return 0
      else if (digits.headD ' ').isDigit then Running.fail ("Illegal number: " ++ mode)
      else Running.fail ("Illegal mode: " ++ mode)

/-- Shows or sets limits, of which there are none. -/
def ulimit (arguments : List String) : Running Nat := do
  let (_, operands) ← options "HSatfdsmcnpvlrwqiex" arguments
  if operands.isEmpty then Running.outputLine "unlimited"
  return 0

/-- Shows the time that has been used. -/
def times (_arguments : List String) : Running Nat := do
  let none_ := "0m0.000000s 0m0.000000s"
  Running.outputLine none_
  Running.outputLine none_
  return 0

/-- There are no jobs in the background that could be shown or brought back. -/
def noJob (arguments : List String) : Running Nat := do
  let (_, _) ← options "lp" arguments
  Running.fail "No current job"

/-! ## Words -/

/-- Repeats words. -/
def echo (arguments : List String) : Running Nat := do
  if ← Running.write 1 (octetBytes (repeated arguments)) then return 0
  else
    Running.complain "echo: I/O error"
    return 1

/-- Fills arguments into a format. -/
def printf (arguments : List String) : Running Nat := do
  let (_, arguments) ← options "" arguments
  match arguments with
  | [] => Running.fail "usage: printf format [arg ...]"
  | format :: rest => do
      let filling := filled format rest
      for complaint in filling.complaints.reverse do Running.complain complaint
      let isWritten ← Running.write 1 (letterBytes filling.reversed.reverse)
      if !isWritten then Running.complain "printf: I/O error"
      match filling.ending with
      | some (.fault text) => Running.fail text
      | _ => return if filling.complaints.isEmpty && isWritten then 0 else 1

/-! ## Names of commands -/

/-- The names of the commands of the script itself. -/
def names : List String :=
  [ ".", ":", "[", "alias", "bg", "break", "cd", "chdir", "command", "continue", "echo", "eval",
    "exec", "exit", "export", "false", "fg", "getopts", "hash", "jobs", "kill", "local", "printf",
    "pwd", "read", "readonly", "return", "set", "shift", "test", "times", "trap", "true", "type",
    "ulimit", "umask", "unalias", "unset", "wait" ]

/-- Tells what a name stands for, at length or not; gives the status. -/
def describe (isLong : Bool) (name : String) : Running Nat := do
  let shell ← Running.shell
  let say (long short : String) : Running Nat := do
    Running.outputLine (if isLong then name ++ long else short)
    return 0
  let missing : Running Nat := do
    if isLong then Running.outputLine (name ++ ": not found")
    return 127
  if keywords.contains name then say " is a shell keyword" name
  else if let some text := shell.aliases.lookup name then
    say (" is an alias for " ++ text) ("alias " ++ name ++ "=" ++ singleQuoted text)
  else if (shell.functions.lookup name).isSome then say " is a shell function" name
  else if specialNames.contains name then say " is a special shell builtin" name
  else if names.contains name then say " is a shell builtin" name
  else match ← locate name with
    | .error _ => missing
    | .ok path => do
        let isThere := (← toolAt? path).isSome || (← Running.kind path).toOption.isSome
        if isThere then say (" is " ++ path) path else missing

/-- Tells what names stand for. -/
def type (arguments : List String) : Running Nat :=
  Running.forOperands arguments (describe true)

/-- Looks for programs, so that they are found at once later. -/
def hash (arguments : List String) : Running Nat := do
  let (_, operands) ← options "rv" arguments
  Running.forOperands operands fun name => do
    match ← locate name with
    | .ok _ => return 0
    | .error _ =>
        if names.contains name || ((← Running.shell).functions.lookup name).isSome then return 0
        Running.complain (name ++ ": not found")
        return 1

/-- The command of the script itself that has a name. -/
def find? (runner : Runner) (isTested : Bool) (name : String) :
    Option (List String → Running Nat) :=
  match name with
  | ":" | "true" => some fun _ => return 0
  | "false" => some fun _ => return 1
  | "." => some (dot runner)
  | "[" | "test" => some (testStatus name)
  | "alias" => some alias_
  | "bg" | "fg" => some noJob
  | "break" => some (leaveLoops .break_)
  | "cd" | "chdir" => some cd
  | "continue" => some (leaveLoops .continue_)
  | "echo" => some echo
  | "eval" => some (eval runner isTested)
  | "exec" => some (exec runner)
  | "exit" => some exit
  | "export" => some export_
  | "getopts" => some getopts
  | "hash" => some hash
  | "jobs" => some showJobs
  | "kill" => some kill
  | "local" => some local_
  | "printf" => some printf
  | "pwd" => some Tool.pwd
  | "read" => some read
  | "readonly" => some readonly
  | "return" => some return_
  | "set" => some set_
  | "shift" => some shift
  | "times" => some times
  | "trap" => some trap
  | "type" => some type
  | "ulimit" => some ulimit
  | "umask" => some umask
  | "unalias" => some unalias
  | "unset" => some unset
  | "wait" => some wait
  | _ => none

end Builtin
end Script
end TileProgram
