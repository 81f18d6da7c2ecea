import TileProgram.Script.Condition
import TileProgram.Script.Process
import TileProgram.Script.Tool.Files
import TileProgram.Script.Tool.Grep
import TileProgram.Script.Tool.Letters
import TileProgram.Script.Tool.Sed
import TileProgram.Script.Tool.Words

/-!
# Programs

The programs that are always there, and how any program is started.
-/

/-!
## Programs that scripts can rely on

The programs that are always there, by name.  They know the arguments and the
channels that they are given, and the exported variables.
-/

namespace TileProgram
namespace Script
namespace Tool

open Files (Action)
open Running (misused toolLine withFlags)

/-- Shows words; backslashes only count if that is wanted. -/
def echo (arguments : List String) : Running Nat := do
  let isOption (text : String) : Bool :=
    match text.toList with
    | '-' :: letter :: letters => (letter :: letters).all ("neE".toList.contains ·)
    | _ => false
  let options := (arguments.takeWhile isOption).flatMap String.toList
  let text := " ".intercalate (arguments.dropWhile isOption)
  let unescapes := options.contains 'e'
  let (letters, stops) := if unescapes then unescape 0 text.toList else (text.toList, false)
  let ending := if options.contains 'n' || stops then [] else ['\n']
  Running.output (letterBytes (letters ++ ending))
  return 0

/-- Fills arguments into a format. -/
def printf (arguments : List String) : Running Nat := do
  match arguments with
  | [] => misused "printf" 1 "missing operand"
  | format :: rest => do
      let filling := filled format rest
      for complaint in filling.complaints.reverse do toolLine "printf" complaint
      Running.output (letterBytes filling.reversed.reverse)
      return if filling.complaints.isEmpty then 0 else 1

/-- Shows the values of exported variables. -/
def printenv (arguments : List String) : Running Nat := do
  let exported := ((← Running.shell).bindings.filter fun entry => entry.2.isExported).filterMap
    fun entry => entry.2.value.map fun value => (entry.1, value)
  match arguments with
  | [] => do
      for (name, value) in exported.reverse do Running.outputLine (name ++ "=" ++ value)
      return 0
  | names => do
      for name in names do
        if let some value := exported.lookup name then Running.outputLine value
      return if names.all fun name => (exported.lookup name).isSome then 0 else 1

/-- Shows the working directory. -/
def pwd (_arguments : List String) : Running Nat := do
  Running.outputLine (octetsOfText (← Running.shell).directory)
  return 0

/-- Makes a file or a directory with a name of its own, and shows it. -/
def mktemp (arguments : List String) : Running Nat :=
  withFlags ⟨"mktemp", "dqut", "p", [("directory", 'd')], 1⟩ arguments fun flags => do
    modify fun state => { state with processes := state.processes + 1 }
    let number := toString (← get).processes
    let letters := String.ofList (List.replicate (10 - number.length) 'A') ++ number
    let path := "/tmp/tmp." ++ letters
    if flags.has 'd' then
      let _ ← Running.onPath Action.makeDirectory path
    else
      let _ ← Running.writeFile path []
    Running.outputLine path
    return 0

/-- A command that only has a status. -/
def silent (status : Nat) (_arguments : List String) : Running Nat :=
  return status

end Tool

/-- The programs that are always there. -/
def toolbox : List (String × (List String → Running Nat)) :=
  [ ("basename", Tool.basename), ("cat", Tool.cat), ("chmod", Tool.chmod), ("cmp", Tool.cmp),
    ("cp", Tool.cp), ("cut", Tool.cut), ("dd", Tool.dd), ("dirname", Tool.dirname),
    ("echo", Tool.echo), ("expr", Tool.expr), ("false", Tool.silent 1), ("grep", Tool.grep),
    ("egrep", fun arguments => Tool.grep ("-E" :: arguments)),
    ("fgrep", fun arguments => Tool.grep ("-F" :: arguments)), ("head", Tool.head),
    ("id", Tool.id), ("ln", Tool.ln), ("ls", Tool.ls), ("mkdir", Tool.mkdir),
    ("mktemp", Tool.mktemp), ("mv", Tool.mv), ("nl", Tool.nl), ("od", Tool.od),
    ("paste", Tool.paste), ("printenv", Tool.printenv), ("printf", Tool.printf),
    ("pwd", Tool.pwd), ("readlink", Tool.readlink),
    ("realpath", fun arguments => Tool.readlink ("-f" :: arguments)), ("rev", Tool.rev),
    ("rm", Tool.rm), ("rmdir", Tool.rmdir), ("sed", Tool.sed), ("seq", Tool.seq),
    ("sleep", Tool.sleep), ("sort", Tool.sort), ("stat", Tool.stat), ("sync", Tool.silent 0),
    ("tac", Tool.tac), ("tail", Tool.tail), ("tee", Tool.tee), ("touch", Tool.touch),
    ("tr", Tool.tr), ("true", Tool.silent 0), ("truncate", Tool.truncate),
    ("uname", Tool.uname), ("uniq", Tool.uniq), ("wc", Tool.wc), ("yes", Tool.yes),
    ("unlink", Tool.rm), ("chown", Tool.silent 0), ("test", testStatus "test"),
    ("[", testStatus "[") ]

end Script
end TileProgram

/-!
## Starting programs

A program is one of those that are always there, or a file that can be
executed.  Such a file says on its first line which program is to read it; one
that does not is a script.
-/

namespace TileProgram
namespace Script

open Files (Action Failure Kind)
open Running (toolLine withFlags misused)

/-! ## Finding -/

/-- The programs that read scripts. -/
def shellNames : List String :=
  ["sh", "dash", "bash"]

/-- The programs that start others. -/
def starterNames : List String :=
  ["env", "nice", "nohup", "timeout", "which", "xargs"]

/-- Whether a program with a name is always there. -/
def isToolName (name : String) : Bool :=
  (toolbox.lookup name).isSome || shellNames.contains name || starterNames.contains name

/-- The parts of a path after steps back have been taken. -/
def plainParts (path : String) : List String :=
  ((Files.Path.steps path).foldl (fun parts part =>
    if part = "." then parts else if part = ".." then parts.tail else part :: parts) []).reverse

/-- The program that is always there under a path. -/
def toolAt? (path : String) : Running (Option String) := do
  let place ← Running.resolve path
  let name := match plainParts place with
    | ["bin", name] => some name
    | ["usr", "bin", name] => some name
    | _ => none
  return if path.toList.getLast? == some '/' then none else name.filter isToolName

/-- The directories in which programs are looked for. -/
def searchDirectories : Running (List String) := do
  let usual := "/usr/local/sbin:/usr/local/bin:/usr/sbin:/usr/bin:/sbin:/bin"
  return ((← Running.value? "PATH").getD usual).splitOn ":"

/-- Looks for a program in directories; tells why none was found, usually because there is none. -/
def locateIn (name : String) (failure : Failure) : List String → Running (Except Failure String)
  | [] => return .error failure
  | directory :: rest => do
      let path := if directory.isEmpty then name else directory ++ "/" ++ name
      if (← toolAt? path).isSome then return .ok path
      match ← Running.kind path with
      | .ok .executable => return .ok path
      | .ok _ => locateIn name .denied rest
      | .error .missing | .error .notDirectory => locateIn name failure rest
      | .error other => locateIn name other rest

/-- Looks for a program; a name with a slash is a path. -/
def locate (name : String) : Running (Except Failure String) := do
  if name.toList.contains '/' then return .ok name
  else locateIn name .missing (← searchDirectories)

/-! ## Scripts -/

/-- The letters of options that scripts have. -/
def optionLetters : List Char :=
  "efIimnsxvVECabup".toList

/-- The names of options; the last two have letters that nobody can write. -/
def optionNames : List (String × Char) :=
  [ ("errexit", 'e'), ("noglob", 'f'), ("ignoreeof", 'I'), ("interactive", 'i'),
    ("monitor", 'm'), ("noexec", 'n'), ("stdin", 's'), ("xtrace", 'x'), ("verbose", 'v'),
    ("vi", 'V'), ("emacs", 'E'), ("noclobber", 'C'), ("allexport", 'a'), ("notify", 'b'),
    ("nounset", 'u'), ("privileged", 'p'), ("nolog", '\x01'), ("debug", '\x02') ]

/-- Sets an option, or takes it back.  The letters are kept in the reverse of their usual order.  Jobs cannot be watched without somebody who could be asked. -/
def Running.setOption (isOn : Bool) (letter : Char) : Running Unit := do
  if isOn && letter == 'm' then
    Running.complain "can't access tty; job control turned off"
  else
    Running.modifyShell fun shell =>
      { shell with
        options := (optionNames.map Prod.snd).reverse.filter fun other =>
          if other = letter then isOn else shell.options.contains other }

/-- What the arguments of a program that reads scripts say: options that are set or taken back, whether a text is to be run, and the other arguments. -/
structure ShellArguments where
  options : List (Bool × Char)
  hasText : Bool
  others : List String
  deriving DecidableEq

/-- Adds options to those that have been read, before the others. -/
def ShellArguments.with (read : ShellArguments) (options : List (Bool × Char)) (hasText : Bool) :
    ShellArguments :=
  ⟨options ++ read.options, hasText || read.hasText, read.others⟩

/-- Options that letters stand for, up to a letter that asks for a name; whether a text is to be run, and what follows that letter, if there is one. -/
def shellOptions (isOn : Bool) :
    List Char → Except String (List (Bool × Char) × Bool × Option (Bool × List Char))
  | [] => .ok ([], false, none)
  | letter :: letters =>
      if letter = 'o' then .ok ([], false, some (isOn, letters))
      else if letter = 'c' then
        (shellOptions isOn letters).map fun (options, _, rest) => (options, true, rest)
      else if optionLetters.contains letter then
        (shellOptions isOn letters).map fun (options, hasText, rest) =>
          ((isOn, letter) :: options, hasText, rest)
      else .error ("Illegal option " ++ (if isOn then "-" else "+") ++ String.ofList [letter])

/-- Reads the arguments of a program that reads scripts; a letter may still wait for the name of an option, with others after it. -/
def shellArguments (awaits : Option (Bool × List Char)) :
    List String → Except String ShellArguments
  | [] => .ok ⟨[], false, []⟩
  | word :: rest =>
      match awaits, word.toList with
      | some (isOn, letters), _ =>
          match optionNames.lookup word with
          | none => .error ("Illegal option " ++ (if isOn then "-o " else "+o ") ++ word)
          | some found => do
              let (options, hasText, awaits) ← shellOptions isOn letters
              return (← shellArguments awaits rest).with ((isOn, found) :: options) hasText
      | none, ['-'] | none, ['-', '-'] => .ok ⟨[], false, rest⟩
      | none, sign :: letter :: letters =>
          if sign = '-' || sign = '+' then do
            let (options, hasText, awaits) ← shellOptions (sign == '-') (letter :: letters)
            return (← shellArguments awaits rest).with options hasText
          else .ok ⟨[], false, word :: rest⟩
      | none, ['+'] => shellArguments none rest
      | none, _ => .ok ⟨[], false, word :: rest⟩

/-- Runs a text as a script of its own. -/
def runScript (runner : Runner) (name : String) (arguments : List String)
    (options : List (Bool × Char)) (text : String) : Running ExitStatus :=
  Running.asScript runner name arguments do
    options.forM fun (isOn, letter) => Running.setOption isOn letter
    runner.runText false text.toList

/-- Runs a program that reads scripts, which is called by a name. -/
def runShell (runner : Runner) (called : String) (arguments : List String) :
    Running ExitStatus := do
  let refuse (text : String) : Running ExitStatus := do
    Running.errorLine (called ++ ": 0: " ++ text)
    return .exited 2
  match shellArguments none arguments with
  | .error text => refuse text
  | .ok read =>
      if read.hasText then
        match read.others with
        | [] => refuse "-c requires an argument"
        | text :: rest => runScript runner (rest.headD called) rest.tail read.options text
      else
        let readsInput := read.options.contains (true, 's')
        match read.others with
        | path :: rest =>
            if readsInput then
              let text := octets (← Running.inputBytes)
              runScript runner called read.others read.options text
            else match ← Running.readFile path with
              | .ok bytes => runScript runner path rest read.options (octets bytes)
              | .error .isDirectory => runScript runner path rest read.options ""
              | .error failure => do
                  let words := match failure with
                    | .missing | .notDirectory => "No such file"
                    | _ => failure.words
                  refuse ("cannot open " ++ path ++ ": " ++ words)
        | [] => do
            let text := octets (← Running.inputBytes)
            runScript runner called [] (read.options ++ [(true, 's')]) text

/-! ## Programs that start others -/

/-- Starts a program for another one, which complains if that is not possible. -/
def startFor (runner : Runner) (refuse : Failure → Running Unit) (command : List String) :
    Running Nat := do
  match command with
  | [] => return 0
  | program :: arguments =>
      match ← runner.start program arguments with
      | .ok status => return status.code
      | .error failure => do
          refuse failure
          return if failure = .missing then 127 else 126

/-- Runs a program with other variables, or shows the variables. -/
def envTool (runner : Runner) (arguments : List String) : Running Nat := do
  let known : KnownFlags := ⟨"env", "i0v", "uSC", [("ignore-environment", 'i'), ("unset", 'u')], 125⟩
  let isPlain (text : String) : Bool := !text.startsWith "-" && !text.toList.contains '='
  let command := arguments.dropWhile fun text => !isPlain text
  let settings := arguments.takeWhile fun text => !isPlain text
  let (command, settings) :=
    match settings.getLast?, command with
    | some "-u", name :: rest => (rest, settings ++ [name])
    | _, _ => (command, settings)
  withFlags known settings fun flags => do
    let before := (← Running.shell).bindings
    Running.always (do
      if flags.has 'i' then Running.modifyShell fun shell => { shell with bindings := [] }
      if let some name := flags.value? 'u' then
        Running.modifyShell fun shell =>
          { shell with bindings := shell.bindings.filter fun entry => entry.1 != name }
      for setting in flags.operands do
        let name := String.ofList (setting.toList.takeWhile (· != '='))
        let value := String.ofList ((setting.toList.dropWhile (· != '=')).drop 1)
        Running.putVariable name ⟨some value, true, false⟩
      let split := match flags.value? 'S' with
        | some text => (text.splitOn " ").filter fun word => !word.isEmpty
        | none => []
      match split ++ command with
      | [] => Tool.printenv []
      | words =>
          startFor runner (fun failure =>
            toolLine "env" (curled (words.headD "") ++ ": " ++ failure.words)) words)
      (Running.modifyShell fun shell => { shell with bindings := before })

/-- The words in a text, which blanks separate; quotes and backslashes keep blanks. -/
def wordsIn (quote : Option Char) (current : Option (List Char)) : List Char → List String
  | [] => (current.map fun letters => String.ofList letters.reverse).toList
  | letter :: rest =>
      let add (letter : Char) : List String := wordsIn quote (some (letter :: current.getD [])) rest
      match quote with
      | some '\\' => wordsIn none (some (letter :: current.getD [])) rest
      | some sign => if letter = sign then wordsIn none current rest else add letter
      | none =>
          if letter = '\'' || letter = '"' || letter = '\\' then
            wordsIn (some letter) (some (current.getD [])) rest
          else if letter = ' ' || letter = '\t' || letter = '\n' then
            (current.map fun letters => String.ofList letters.reverse).toList ++
              wordsIn none none rest
          else add letter

/-- Splits arguments into options, some of which take the next argument as their value, and a command. -/
def splitCommand (valued : List String) (isTaken : Bool) :
    List String → List String × List String
  | [] => ([], [])
  | word :: rest =>
      if isTaken || word.startsWith "-" then
        let (options, command) := splitCommand valued (!isTaken && valued.contains word) rest
        (word :: options, command)
      else ([], word :: rest)

/-- Runs a program with the words of the input as arguments. -/
def xargsTool (runner : Runner) (arguments : List String) : Running Nat := do
  let known : KnownFlags := ⟨"xargs", "0rtx", "nILPsdE", [("no-run-if-empty", 'r'), ("null", '0')], 1⟩
  let (options, command) := splitCommand ["-n", "-I", "-L", "-P", "-s", "-d"] false arguments
  withFlags known options fun flags => do
    let text := octets (← Running.inputBytes)
    let items :=
      if flags.has '0' then (text.splitOn "\x00").filter fun item => !item.isEmpty
      else if flags.has 'I' then
        ((text.splitOn "\n").map fun line => String.ofList (line.toList.dropWhile (· == ' '))).filter
          fun line => !line.isEmpty
      else wordsIn none none text.toList
    let command := if command.isEmpty then ["echo"] else command
    let commands : List (List String) :=
      match flags.value? 'I', (flags.value? 'n').bind number? with
      | some mark, _ => items.map fun item => command.map fun word => word.replace mark item
      | none, some count => (Tool.chunks (max count 1) (items.length + 1) items).map (command ++ ·)
      | none, none => if items.isEmpty && flags.has 'r' then [] else [command ++ items]
    commands.foldlM (fun status words => do
      let result ← startFor runner (fun failure =>
        toolLine "xargs" (words.headD "" ++ ": " ++ failure.words)) words
      return if result = 0 then status
        else if result = 126 || result = 127 then result
        else 123) 0

/-- Shows where programs are. -/
def whichTool (arguments : List String) : Running Nat :=
  Running.forOperands (arguments.filter fun argument => !argument.startsWith "-") fun name => do
    match ← locate name with
    | .ok path => do
        if name.toList.contains '/' && (← toolAt? path).isNone &&
            (← Running.kind path).toOption != some .executable then return 1
        Running.outputLine path
        return 0
    | .error _ => return 1

/-- Runs something for at most a time; nothing if it is not done by then. -/
def forTime (time : Nat) (running : Running Value) : Running (Option Value) := do
  let before ← get
  let limit := before.clock + time
  let outer := before.shell.deadline
  if time = 0 || outer.any (· ≤ limit) then return some (← running)
  Running.modifyShell fun shell => { shell with deadline := some limit }
  let value ← tryCatch (do
    let value ← running
    return if (← get).clock < limit then some value else none) fun leaving =>
    if leaving = .overdue || leaving = .exhausted then do
      modify fun state =>
        { state with clock := max state.clock limit, steps := before.steps / 2, shell := before.shell }
      return none
    else throw leaving
  Running.modifyShell fun shell => { shell with deadline := outer }
  return value

/-- Runs a program for at most a time. -/
def timeoutTool (runner : Runner) (arguments : List String) : Running ExitStatus := do
  let known : KnownFlags :=
    ⟨"timeout", "vpf", "ks", [("signal", 's'), ("kill-after", 'k'), ("preserve-status", 'p'),
      ("foreground", 'f'), ("verbose", 'v')], 125⟩
  let (options, command) := splitCommand ["-s", "-k", "--signal", "--kill-after"] false arguments
  let run (flags : Flags) : Running ExitStatus := do
    match command with
    | time :: program :: rest =>
        match Tool.duration? time with
        | none => return .exited (← misused "timeout" 125 ("invalid time interval " ++ curled time))
        | some length => do
            let refuse (failure : Failure) : Running Unit :=
              toolLine "timeout"
                ("failed to run command " ++ curled program ++ ": " ++ failure.words)
            match ← forTime length (startFor runner refuse (program :: rest)) with
            | some status => return .exited status
            | none =>
                let isKilled := ["9", "KILL", "SIGKILL"].contains ((flags.value? 's').getD "")
                return if isKilled then .killed 9 else .exited (if flags.has 'p' then 143 else 124)
    | _ => do
        Running.errorLine "Try 'timeout --help' for more information."
        return .exited 125
  match Flags.read known false options with
  | .ok flags => run flags
  | .error text => return .exited (← misused "timeout" 125 text)

/-- Runs a program that starts others. -/
def runStarter (runner : Runner) (name : String) (arguments : List String) : Running Nat :=
  let run (command : List String) : Running Nat :=
    startFor runner (fun failure =>
      toolLine name ("failed to run command " ++ curled (command.headD "") ++ ": " ++ failure.words))
      command
  match name with
  | "env" => envTool runner arguments
  | "xargs" => xargsTool runner arguments
  | "which" => whichTool arguments
  | "nice" =>
      match arguments with
      | "-n" :: _ :: rest => run rest
      | _ => run (arguments.dropWhile fun text => text.startsWith "-")
  | _ => run arguments

/-- Runs a program that is always there, which is called by a name. -/
def runTool (runner : Runner) (called tool : String) (arguments : List String) :
    Running ExitStatus := do
  if shellNames.contains tool then runShell runner called arguments
  else if tool = "timeout" then timeoutTool runner arguments
  else match toolbox.lookup tool with
    | some run => return .exited (← run arguments)
    | none => return .exited (← runStarter runner tool arguments)

/-! ## Files that can be executed -/

/-- The program that is to read a file, with an argument for it, as the first line of the file says. -/
def interpreter? (bytes : Bytes) : Option (String × Option String) :=
  let isBlank (letter : Char) : Bool := letter == ' ' || letter == '\t'
  match (octets (bytes.take 256)).toList with
  | '#' :: '!' :: rest =>
      let line := (rest.takeWhile (· != '\n')).dropWhile isBlank
      let name := line.takeWhile fun letter => !isBlank letter
      let after := (line.drop name.length).dropWhile isBlank
      let argument := (after.reverse.dropWhile isBlank).reverse
      if name.isEmpty then none
      else some (String.ofList name,
        if argument.isEmpty then none else some (String.ofList argument))
  | _ => none

/-- Whether a byte does not occur in texts. -/
def isForeign (byte : UInt8) : Bool :=
  byte < 9 || (15 < byte && byte < 32 && byte != 27) || byte == 127

/-- Whether the first line of a file shows that it is no text. -/
def isBinary (bytes : Bytes) : Bool :=
  ((bytes.take 256).takeWhile (· != 10)).any isForeign

/-- How many programs can read each other. -/
def interpreterLimit : Nat := 5

/-- Starts the file under a path; one that does not say which program is to read it is run as a script if that is allowed. -/
def startFile (runner : Runner) (allowsPlain : Bool) (fuel : Nat) (called path : String)
    (arguments : List String) : Running (Except Failure ExitStatus) := do
  match fuel with
  | 0 => return .error .tooManyLinks
  | left + 1 => do
      match ← toolAt? path with
      | some tool => return .ok (← runTool runner called tool arguments)
      | none =>
          match ← Running.kind path with
          | .error failure => return .error failure
          | .ok .executable => do
              match ← Running.readFile path with
              | .error failure => return .error failure
              | .ok bytes =>
                  match interpreter? bytes with
                  | some (program, argument) =>
                      let words := argument.toList ++ path :: arguments
                      startFile runner false left program program words
                  | none =>
                      if allowsPlain && !isBinary bytes then
                        return .ok (← runScript runner path arguments [] (octets bytes))
                      else return .error .badFormat
          | .ok _ => return .error .denied

/-- Starts a program that is looked for by its name. -/
def startProgram (runner : Runner) (allowsPlain : Bool) (program : String)
    (arguments : List String) : Running (Except Failure ExitStatus) := do
  match ← locate program with
  | .error failure => return .error failure
  | .ok path => startFile runner allowsPlain interpreterLimit program path arguments

end Script
end TileProgram
