import TileProgram.Script.Builtin.Control
import TileProgram.Script.Redirection

/-!
# Running commands

How each kind of command is run, given how its parts are run.  A failure that
nothing tests can end the script.
-/

namespace TileProgram
namespace Script

open Files (Failure)

namespace Runner

/-- The bytes that a command in a substitution writes. -/
def substitute (runner : Runner) : Substitute := fun body =>
  Running.captured runner (runner.run false body)

end Runner

/-- Ends the script if it is to end at failures and the last command has failed. -/
def checkFailure (isTested : Bool) : Running Unit := do
  let shell ← Running.shell
  if !isTested && shell.status != 0 && shell.options.contains 'e' then throw (.exit none)

/-! ## Simple commands -/

/-- The commands whose arguments can assign. -/
def assigningNames : List String :=
  ["alias", "export", "local", "readonly"]

/-- The fields of words; after the name of a command whose arguments can assign, those that do are not split. -/
def commandFields (substitute : Substitute) (words : List Word) : Running (List String) :=
  words.foldlM (fun fields word => do
    let assigns := (fields.head?.map assigningNames.contains).getD false
    match if assigns then Word.assignment? word else none with
    | some (name, value) => return fields ++ [name ++ "=" ++ (← assignedText substitute value)]
    | none => return fields ++ (← fieldsOf substitute word)) []

/-- Shows a command before it is run, if that is wanted; the channel is the one that it does not lead elsewhere. -/
def traceCommand (channels : List (Nat × Nat)) (words : List String) : Running Unit := do
  if ← Running.hasOption 'x' then
    if let some number := channels.lookup 2 then
      let start := (← Running.value? "PS4").getD ""
      let _ ← Running.writeTo number (lineBytes (start ++ " ".intercalate words))

/-- Sets a variable that is passed on to programs. -/
def exportVariable (name value : String) : Running Unit := do
  Running.setVariable name value
  Running.putVariable name { (← Running.variableOf name) with isExported := true }

/-- Runs the body of a function with arguments of its own; variables that it hides are restored. -/
def callFunction (runner : Runner) (isTested : Bool) (body : Command) (arguments : List String) :
    Running Unit := do
  let before ← Running.shell
  Running.modifyShell fun shell =>
    { shell with arguments := arguments, optionPlace := 0, loops := 0, hidden := [] :: shell.hidden }
  let restore : Running Unit := do
    let frame := (← Running.shell).hidden.headD []
    for (name, given) in frame do Running.putVariable name given
    Running.modifyShell fun shell =>
      { shell with
        arguments := before.arguments, optionPlace := before.optionPlace, loops := before.loops
        hidden := shell.hidden.tail }
  let body : Running Unit := tryCatch (runner.run isTested body) fun leaving =>
    if leaving = .return_ then return else throw leaving
  Running.always body restore

/-- Starts a program and waits for it. -/
def callProgram (runner : Runner) (name : String) (arguments : List String) : Running Unit := do
  Running.forgetJobs
  Running.spend Running.programTime
  match ← if name.isEmpty then pure (.error .missing) else runner.start name arguments with
  | .ok status => Running.noteEnd status
  | .error failure => do
      let (text, status) := Builtin.startFailure name failure
      Running.complain text
      Running.setStatus status

/-- Runs a command of the script itself; if it is not a special one, its failure is only a status. -/
def callBuiltin (isSpecial : Bool) (name : String) (body : Running Nat) : Running Unit := do
  let running : Running Unit := do
    Running.setStatus (← Running.named name body)
  if isSpecial then running
  else
    let _ ← Running.attempt running

/-- Runs a command by its name, but no function. -/
def callPlain (runner : Runner) (isTested isSpecial : Bool) (name : String)
    (arguments : List String) : Running Unit :=
  match Builtin.find? runner isTested name with
  | some body => callBuiltin isSpecial name (body arguments)
  | none => callProgram runner name arguments

/-- Runs a command by its name, but no function, or tells what it is. -/
def callCommand (runner : Runner) (isTested : Bool) (arguments : List String) : Running Unit := do
  let isReady ← Running.attempt (Running.named "command" do
    let (letters, rest) ← Builtin.options "pvV" arguments
    if letters.contains 'v' || letters.contains 'V' then
      match rest with
      | [] => Running.setStatus 0
      | name :: _ => Running.setStatus (← Builtin.describe (letters.contains 'V') name)
    else Running.setStatus 0)
  let options := arguments.takeWhile fun text => text.startsWith "-" && text != "-"
  let asks := options.any fun text => text.toList.any fun letter => letter == 'v' || letter == 'V'
  let rest := arguments.drop options.length
  if isReady && !asks then
    match rest with
    | [] => return
    | name :: more => callPlain runner isTested false name more

/-- Runs a command by its name. -/
def callNamed (runner : Runner) (isTested isSpecial : Bool) (name : String)
    (arguments : List String) : Running Unit := do
  match (← Running.shell).functions.lookup name with
  | some body => callFunction runner isTested body arguments
  | none =>
      if name = "command" then callCommand runner isTested arguments
      else callPlain runner isTested isSpecial name arguments

/-- Makes the assignments of a command; gives their texts. -/
def assignAll (runner : Runner) (set_ : String → String → Running Unit)
    (assignments : List (String × Word)) : Running (List String) :=
  assignments.mapM fun (name, word) => do
    let text ← assignedText runner.substitute word
    set_ name text
    return name ++ "=" ++ text

/-- Runs a simple command. -/
def runSimple (runner : Runner) (isTested : Bool) (assignments : List (String × Word))
    (words : List Word) (redirections : List Redirection) : Running Unit := do
  Running.modifyShell fun shell => { shell with substitutionStatus := 0 }
  let fields ← commandFields runner.substitute words
  let targets ← redirections.mapM (targetOf runner.substitute)
  let shell ← Running.shell
  let name := fields.headD ""
  let isFunction := (shell.functions.lookup name).isSome
  let isSpecial := !isFunction && specialNames.contains name
  let keepsChannels := isSpecial && fields == ["exec"]
  let restoring (running : Running Unit) : Running Unit :=
    if keepsChannels then running else restoringChannels running
  restoring do
    if ← Running.attempt (redirectAll targets) then
      match fields with
      | [] => do
          let shown ← assignAll runner Running.setVariable assignments
          if !shown.isEmpty then traceCommand shell.channels shown
          Running.setStatus (← Running.shell).substitutionStatus
      | _ :: arguments =>
          if isSpecial then
            let set_ := if name = "exec" then exportVariable else Running.setVariable
            let shown ← assignAll runner set_ assignments
            traceCommand shell.channels (shown ++ fields)
            callNamed runner isTested true name arguments
          else
            let before ← assignments.mapM fun (name, _) => do
              return (name, ← Running.variableOf name)
            let body : Running Unit := do
              let shown ← assignAll runner exportVariable assignments
              traceCommand shell.channels (shown ++ fields)
              callNamed runner isTested false name arguments
            Running.always body (before.reverse.forM fun (name, given) =>
              Running.putVariable name given)
    else if isSpecial then throw .failure
  checkFailure isTested

/-! ## Constructs -/

/-- How many rounds a loop may have. -/
def roundLimit : Nat := 1000000

/-- Goes on with a loop after a round that may have been left; tells whether there is to be another one. -/
def runRound (round : Running Unit) : Running Bool :=
  tryCatch (do
    round
    return true) fun leaving =>
      match leaving with
      | .break_ (left + 2) => throw (.break_ (left + 1))
      | .break_ _ => return false
      | .continue_ (left + 2) => throw (.continue_ (left + 1))
      | .continue_ _ => return true
      | _ => throw leaving

/-- Runs something inside a loop. -/
def insideLoop (running : Running Unit) : Running Unit := do
  Running.modifyShell fun shell => { shell with loops := shell.loops + 1 }
  Running.always running (Running.modifyShell fun shell => { shell with loops := shell.loops - 1 })

/-- Runs rounds as long as a condition holds, at most a given number of them. -/
def runWhile (runner : Runner) (isTested isUntil : Bool) (condition body : Command)
    (status : Nat) : Nat → Running Unit
  | 0 => throw .exhausted
  | left + 1 => do
      Running.countStep
      let holds ← runTest
      match holds with
      | none => return
      | some false => Running.setStatus status
      | some true => do
          if ← runRound (runner.run isTested body) then
            runWhile runner isTested isUntil condition body (← Running.shell).status left
where
  /-- Whether the condition lets another round begin; nothing if the loop is left. -/
  runTest : Running (Option Bool) := do
    let isNext ← runRound (runner.run true condition)
    if isNext then return some (((← Running.shell).status == 0) != isUntil) else return none

/-- Runs a round for every field. -/
def runFor (runner : Runner) (isTested : Bool) (name : String) (body : Command) :
    List String → Running Unit
  | [] => return
  | field :: rest => do
      Running.countStep
      Running.setVariable name field
      if ← runRound (runner.run isTested body) then runFor runner isTested name body rest

/-- The body of the first arm with a pattern that fits a text. -/
def fittingArm (substitute : Substitute) (letters : List Char) :
    List (List Word × Command) → Running (Option Command)
  | [] => return none
  | (patterns, body) :: rest => do
      let isFit ← patterns.anyM fun pattern => do
        return fitsAll (elements 0 (← marksOf substitute pattern)) letters
      if isFit then return some body else fittingArm substitute letters rest

/-- How many steps a command may take whose output is read by another one; that may not want all of it. -/
def producerLimit : Nat := 20000

/-- Runs something apart that may be stopped when it has taken many steps. -/
def runProducer (runner : Runner) (running : Running Unit) : Running Unit := do
  let before ← get
  let allowed := min before.steps producerLimit
  modify fun state => { state with steps := allowed }
  let isStopped ← tryCatch (do
    Running.apart runner running
    return false) fun leaving =>
      if leaving = .exhausted && allowed < before.steps then return true else throw leaving
  if isStopped then Running.modifyShell fun _ => before.shell
  modify fun state => { state with steps := before.steps - (allowed - state.steps) }

/-- Runs commands each of which reads what the one before has written. -/
def runPipeline (runner : Runner) (isTested : Bool) (input : Option Nat) :
    List Command → Running Unit
  | [] => return
  | part :: rest => do
      let start : Running Unit := do
        if let some number := input then Running.connect 0 number
      match rest with
      | [] => Running.apart runner do
          start
          runner.run isTested part
      | _ => do
          let output ← Running.addStream (.written [])
          runProducer runner do
            start
            Running.connect 1 output
            runner.run isTested part
          let bytes ← Running.finishedBytes output
          runPipeline runner isTested (some (← Running.addStream (.waiting bytes))) rest

/-- What a job does: what is in parentheses needs no other copy. -/
def jobBody : Command → Command
  | .subshell _ body => body
  | .redirected line (.subshell _ body) redirections => .redirected line body redirections
  | command => command

/-- How many processes there can be. -/
def processLimit : Nat := 5000

/-- The first place from a given one on that no job has. -/
def freePlace (jobs : List Job) (fuel place : Nat) : Nat :=
  match fuel with
  | 0 => place
  | left + 1 =>
      if jobs.any (·.place == place) then freePlace jobs left (place + 1) else place

/-- Lets a command be run beside the script.  It has no input, and cannot be interrupted. -/
def runBackground (body : Command) : Running Unit := do
  Running.forgetJobs
  let process ← Running.newProcess
  if processLimit < process then throw .exhausted
  let input ← Running.addStream .nothing
  let shell ← Running.shell
  let traps := shell.traps.filter fun entry => entry.2.isEmpty
  let ignored := shell.ignored ++ traps.map Prod.fst
  let copy :=
    { shell with
      own := process, isCopy := false, jobs := [], ignored := [2, 3] ++ ignored, traps := traps
      channels := (0, input) :: shell.channels.filter fun entry => entry.1 != 0 }
  Running.enter process (ignored.map (·, ""))
  modify fun state =>
    { state with isAlone := false, started := ⟨process, jobBody body, copy⟩ :: state.started }
  Running.modifyShell fun shell =>
    { shell with
      lastBackground := some process
      jobs := ⟨process, freePlace shell.jobs (shell.jobs.length + 1) 1, false⟩ :: shell.jobs }
  Running.setStatus 0
  Running.spend Running.copyTime

/-- Runs a command that has been started beside a script. -/
def runJob (runner : Runner) (process : Nat) (body : Command) : Running Unit := do
  let status ← Running.untilEnd runner do
    Running.meetSignals runner
    Running.publishTraps
    runner.run true body
  Running.end_ process status
  Running.leave process

/-- How long it takes to come to a command. -/
def commandTime : Nat := 5

/-- Comes to a line. -/
def comeTo (line : Nat) : Running Unit :=
  Running.modifyShell fun shell => { shell with line := line }

/-- Runs a command, given how its parts are run; nothing is run if that is not wanted. -/
def runCommand (runner : Runner) (isTested : Bool) (command : Command) : Running Unit := do
  if ← Running.hasOption 'n' then return
  match command with
  | .nothing => return
  | .simple line assignments words redirections => do
      Running.countStep
      Running.spend commandTime
      comeTo line
      runSimple runner isTested assignments words redirections
      Running.meetSignals runner
  | .redirected line body redirections => do
      comeTo line
      let targets ← redirections.mapM (targetOf runner.substitute)
      let isReady ← restoringChannels do
        let isReady ← Running.attempt (redirectAll targets)
        if isReady then runner.run isTested body
        return isReady
      if !isReady then checkFailure isTested
  | .negated body => do
      runner.run true body
      Running.setStatus (if (← Running.shell).status = 0 then 1 else 0)
  | .pipeline parts => do
      runPipeline runner isTested none parts
      checkFailure isTested
      Running.meetSignals runner
  | .background body => runBackground body
  | .joined .always first second => do
      runner.run isTested first
      runner.run isTested second
  | .joined joint first second => do
      runner.run true first
      if ((← Running.shell).status == 0) == (joint == .ifSuccessful) then
        runner.run isTested second
  | .branch condition consequence alternative => do
      runner.run true condition
      let holds := (← Running.shell).status == 0
      match if holds then consequence else alternative with
      | .nothing => Running.setStatus 0
      | chosen => runner.run isTested chosen
  | .loop isUntil condition body =>
      insideLoop (runWhile runner isTested isUntil condition body 0 roundLimit)
  | .iteration line name items body => do
      comeTo line
      let fields ← items.mapM (fieldsOf runner.substitute)
      Running.setStatus 0
      insideLoop (runFor runner isTested name body fields.flatten)
  | .choice line subject arms => do
      comeTo line
      let letters := (← textOf runner.substitute subject).toList
      match ← fittingArm runner.substitute letters arms with
      | some .nothing | none => Running.setStatus 0
      | some body => runner.run isTested body
  | .subshell line body => do
      comeTo line
      Running.apart runner (runner.run isTested body)
      checkFailure isTested
      Running.meetSignals runner
  | .definition _ name body => do
      Running.modifyShell fun shell =>
        { shell with
          functions := (name, body) :: shell.functions.filter fun entry => entry.1 != name }
      Running.setStatus 0

/-! ## Texts -/

/-- Runs the lines of a source; tells whether there was any command. -/
def runLines (runner : Runner) (isTested : Bool) (fuel : Nat) (source : Source) (isIdle : Bool) :
    Running Bool := do
  match fuel with
  | 0 => return isIdle
  | left + 1 =>
      match source.readLine with
      | .error fault => do
          comeTo fault.line
          Running.fail ("Syntax error: " ++ fault.cause.message)
      | .ok none => return isIdle
      | .ok (some (command, rest)) => do
          if ← Running.hasOption 'v' then
            let _ ← Running.write 2
              (letterBytes (source.letters.take (source.letters.length - rest.letters.length)))
          Running.modifyShell fun shell => { shell with nextLine := rest.line }
          let isEmpty := match command with
            | .nothing => true
            | _ => false
          runner.run isTested command
          let aliases := (← Running.shell).aliases
          runLines runner isTested left { rest with aliases := aliases } (isIdle && isEmpty)

/-- Runs a text; one without commands succeeds. -/
def runText (runner : Runner) (isTested : Bool) (letters : List Char) : Running Unit := do
  let aliases := (← Running.shell).aliases
  let source := Source.ofLetters 1 letters aliases
  let isIdle ← runLines runner isTested (letters.length + 1) source true
  if isIdle then Running.setStatus 0

/-- How running commands goes on, at most a given number of levels inside one another. -/
def runner : Nat → Runner
  | 0 => ⟨fun _ _ => throw .exhausted, fun _ _ => throw .exhausted, fun _ _ => throw .exhausted⟩
  | left + 1 =>
      ⟨fun isTested command state => runCommand (runner left) isTested command state,
        fun isTested letters state => runText (runner left) isTested letters state,
        fun program arguments state => startProgram (runner left) true program arguments state⟩

end Script
end TileProgram
