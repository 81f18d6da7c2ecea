import TileProgram.Script.State

/-!
# Processes

A script is a process with a number, to which signals can be sent, and so is a
command that runs beside a script.  Commands in parentheses, in substitutions
and in pipelines belong to the process, but what they change is forgotten when
they are done.
-/

namespace TileProgram
namespace Script

open Files (Failure)

/-- How the parts of a running script are run: commands, whose failure may be tested, texts that hold commands, and programs. -/
structure Runner where
  run (isTested : Bool) (command : Command) : Running Unit
  runText (isTested : Bool) (letters : List Char) : Running Unit
  start (program : String) (arguments : List String) : Running (Except Failure ExitStatus)

/-- What is said about a process that a signal has ended. -/
def signalWords (signal : Nat) : Option String :=
  [ (1, "Hangup"), (3, "Quit"), (4, "Illegal instruction"), (5, "Trace/breakpoint trap"),
    (6, "Aborted"), (7, "Bus error"), (8, "Floating point exception"), (9, "Killed"),
    (10, "User defined signal 1"), (11, "Segmentation fault"), (12, "User defined signal 2"),
    (14, "Alarm clock"), (15, "Terminated"), (16, "Stack fault"), (24, "CPU time limit exceeded"),
    (25, "File size limit exceeded"), (26, "Virtual timer expired"),
    (27, "Profiling timer expired"), (29, "I/O possible"), (30, "Power failure"),
    (31, "Bad system call") ].lookup signal

/-- The signals that stop a process and do not end it. -/
def stoppingSignals : List Nat :=
  [19, 20, 21, 22]

namespace Running

/-! ## Processes that are there -/

/-- The number of a new process. -/
def newProcess : Running Nat := do
  modify fun state => { state with processes := state.processes + 1 }
  return (← get).processes

/-- Makes known what a process does at signals. -/
def enter (process : Nat) (actions : List (Nat × String)) : Running Unit :=
  modify fun state =>
    { state with
      living := (process, actions) :: state.living.filter fun entry => entry.1 != process }

/-- Makes known what the own process does at signals, unless this is only a copy of it. -/
def publishTraps : Running Unit := do
  let shell ← shell
  if !shell.isCopy then enter shell.own (shell.ignored.map (·, "") ++ shell.traps)

/-- Takes note that a process is not there any more. -/
def leave (process : Nat) : Running Unit :=
  modify fun state =>
    { state with living := state.living.filter fun entry => entry.1 != process }

/-- Takes note of how a process has ended, if that is not known yet. -/
def end_ (process : Nat) (status : ExitStatus) : Running Unit :=
  modify fun state =>
    if (state.ended.lookup process).isSome then state
    else { state with ended := (process, status) :: state.ended }

/-- Forgets the jobs that have been waited for, as soon as another process is made. -/
def forgetJobs : Running Unit :=
  modifyShell fun shell => { shell with jobs := shell.jobs.filter fun job => !job.isWaitedFor }

/-- How long it takes to make a copy of a process. -/
def copyTime : Nat := 100

/-- How long it takes to start a program. -/
def programTime : Nat := 500

/-! ## Ends -/

/-- Takes note of how a process has ended, and tells if a signal has ended it. -/
def noteEnd (status : ExitStatus) : Running Unit := do
  setStatus status.code
  match status with
  | .killed signal =>
      if let some words := signalWords signal then errorLine words
  | .exited _ => return

/-- Runs something up to where it is left. -/
def untilLeft (running : Running Unit) : Running Unit :=
  tryCatch running fun leaving =>
    match leaving with
    | .exit (some status) => setStatus status
    | .exit none | .failure | .return_ | .break_ _ | .continue_ _ => return
    | .killed _ _ | .overdue | .exhausted => throw leaving

/-- What is to be done when something happens. -/
def trap? (number : Nat) : Running (Option String) := do
  return (← shell).traps.lookup number

/-- Forgets what is to be done when something happens. -/
def removeTrap (number : Nat) : Running Unit :=
  modifyShell fun shell =>
    { shell with traps := shell.traps.filter fun entry => entry.1 != number }

/-! ## Traps -/

/-- Does what is to be done at the end; the status stays unless that exits with another one. -/
def runExitTrap (runner : Runner) : Running Unit := do
  match ← trap? 0 with
  | none => return
  | some action => do
      let status := (← shell).status
      removeTrap 0
      tryCatch (do
        runner.runText false action.toList
        setStatus status) fun leaving =>
          match leaving with
          | .exit (some given) => setStatus given
          | .exit none | .return_ | .break_ _ | .continue_ _ => setStatus status
          | .failure => return
          | .killed _ _ | .overdue | .exhausted => throw leaving

/-- Does what is to be done when a signal comes; the status stays. -/
def runSignalTrap (runner : Runner) (action : String) : Running Unit := do
  let status := (← shell).status
  tryCatch (runner.runText false action.toList) fun leaving =>
    throw (if leaving = .exit none then .exit (some status) else leaving)
  setStatus status

/-- Meets a signal: it is ignored, or something is done, or the process ends. -/
def meetSignal (runner : Runner) (signal : Nat) : Running Unit := do
  let process := (← shell).own
  match ← trap? signal with
  | some action =>
      if signal = 9 then throw (.killed process signal)
      else if action.isEmpty then return
      else runSignalTrap runner action
  | none =>
      if harmlessSignals.contains signal || stoppingSignals.contains signal then return
      else throw (.killed process signal)

/-- Meets the signals that have been sent to the process. -/
def meetSignals (runner : Runner) : Running Unit := do
  let shell ← shell
  if shell.isCopy then return
  let (mine, others) := (← get).pending.partition fun sending => sending.process == shell.own
  if mine.isEmpty then return
  modify fun state => { state with pending := others }
  mine.forM fun sending => meetSignal runner sending.signal

/-! ## Copies -/

/-- Runs something on a copy of what the script knows; only its status stays. -/
def apart (runner : Runner) (running : Running Unit) : Running Unit := do
  forgetJobs
  spend copyTime
  let before ← shell
  modifyShell fun shell =>
    { shell with
      isCopy := true, jobs := [], traps := shell.traps.filter fun entry => entry.2.isEmpty }
  untilLeft running
  runExitTrap runner
  let status := (← shell).status % 256
  modifyShell fun _ => { before with status := status }

/-- The bytes that have been written to a stream by all that could do so. -/
def finishedBytes (number : Nat) : Running Bytes := do
  if !(← get).isAlone then pause (.release number)
  match ← streamAt number with
  | .written reversed => do
      setStream number .nothing
      return reversed.reverse
  | _ => return []

/-- Runs something apart and takes what it writes to its output; the status is kept for assignments. -/
def captured (runner : Runner) (running : Running Unit) : Running Bytes := do
  let status := (← shell).status
  let number ← addStream (.written [])
  apart runner do
    connect 1 number
    running
  modifyShell fun shell =>
    { shell with status := status, substitutionStatus := shell.status }
  finishedBytes number

/-- Runs something as a process of its own, up to its end. -/
def untilEnd (runner : Runner) (running : Running Unit) : Running ExitStatus := do
  let process := (← shell).own
  let killed ← tryCatch (do
    untilLeft running
    runExitTrap runner
    return none) fun leaving =>
      match leaving with
      | .killed number signal => if number = process then return some signal else throw leaving
      | _ => throw leaving
  match killed with
  | some signal => return .killed signal
  | none => return .exited ((← shell).status % 256)

end Running

/-- What a script knows when it is started. -/
def Shell.start (name : String) (arguments : List String) (bindings : List (String × Variable))
    (directory : String) (channels : List (Nat × Nat)) (process parent : Nat) : Shell :=
  { name := name, line := 1, nextLine := 1, command := none, arguments := arguments
    bindings := bindings, hidden := [], functions := [], aliases := [], options := []
    status := 0, substitutionStatus := 0, directory := directory, traps := []
    channels := channels, process := process, own := process, parent := parent, isCopy := false
    ignored := [], lastBackground := none, jobs := [], loops := 0, mask := 18, optionPlace := 0
    deadline := none }

/-- The variables that are set in every script. -/
def standardVariables (directory : String) : List (String × Variable) :=
  [ ("IFS", ⟨some " \t\n", false, false⟩), ("OPTIND", ⟨some "1", false, false⟩),
    ("PS1", ⟨some "# ", false, false⟩), ("PS2", ⟨some "> ", false, false⟩),
    ("PS4", ⟨some "+ ", false, false⟩), ("PWD", ⟨some directory, false, false⟩) ]

/-- Runs something as a script of its own, which knows the variables that are exported. -/
def Running.asScript (runner : Runner) (name : String) (arguments : List String)
    (running : Running Unit) : Running ExitStatus := do
  let before ← Running.shell
  let process ← Running.newProcess
  let exported := before.bindings.filter fun entry => entry.2.isExported && entry.2.value.isSome
  let kept := exported.map fun entry => (entry.1, { entry.2 with isReadonly := false })
  let standard := standardVariables before.directory
  let added := standard.filter fun entry => (kept.lookup entry.1).isNone || entry.1 == "IFS"
  let others := kept.filter fun entry => entry.1 != "IFS"
  let parent := ("PPID", ⟨some (toString before.own), false, false⟩)
  let ignored := before.traps.filter fun entry => entry.2.isEmpty
  Running.modifyShell fun shell =>
    { Shell.start name arguments (parent :: added ++ others) shell.directory shell.channels process
        before.own with
      mask := before.mask, ignored := before.ignored ++ ignored.map Prod.fst
      deadline := before.deadline }
  Running.publishTraps
  let status ← Running.untilEnd runner running
  Running.leave process
  Running.modifyShell fun _ => before
  return status

end Script
end TileProgram
