import TileProgram.Script.Program

/-!
# Commands on variables

Commands of the script itself that set, mark and show variables, options,
arguments and aliases.
-/

namespace TileProgram
namespace Script
namespace Builtin

/-- Splits arguments into the letters of options and the others; a letter with a value takes it along. -/
def options (allowed : String) (arguments : List String) :
    Running (List Char × List String) := do
  let isOption (text : String) : Bool :=
    match text.toList with
    | '-' :: _ :: _ => text != "--"
    | _ => false
  let given := arguments.takeWhile isOption
  let rest := arguments.dropWhile isOption
  let letters := given.flatMap fun text => text.toList.drop 1
  match letters.find? fun letter => !allowed.toList.contains letter with
  | some letter => Running.fail ("Illegal option -" ++ String.ofList [letter])
  | none => return (letters, if rest.head? == some "--" then rest.tail else rest)

/-- The number that an argument stands for. -/
def numberOf (text : String) : Running Nat := do
  match number? text with
  | some value => return value
  | none => Running.fail ("Illegal number: " ++ text)

/-- A text in quotes, so that it can be read again. -/
def singleQuoted (text : String) : String :=
  String.ofList (quote text.toList false)
where
  /-- Letters in quotes; the second argument says whether quotes of the other kind are open. -/
  quote (letters : List Char) (isOpen : Bool) : List Char :=
    match letters with
    | [] => if isOpen then ['"'] else ['\'', '\'']
    | _ => '\'' :: inside letters
  /-- Letters after an opening quote. -/
  inside : List Char → List Char
    | [] => ['\'']
    | '\'' :: rest => '\'' :: '"' :: '\'' :: marks rest
    | letter :: rest => letter :: inside rest
  /-- Letters after a quote that stands between quotes of the other kind. -/
  marks : List Char → List Char
    | [] => ['"']
    | '\'' :: rest => '\'' :: marks rest
    | letter :: rest => '"' :: '\'' :: letter :: inside rest

/-- Checks that a text is a name. -/
def requireName (name : String) : Running Unit :=
  if isName name.toList then return else Running.fail (name ++ ": bad variable name")

/-- The name and the value of an argument that assigns; there may be no value. -/
def assigned (argument : String) : String × Option String :=
  let letters := argument.toList
  let name := letters.takeWhile (· != '=')
  let rest := letters.drop name.length
  (String.ofList name, if rest.isEmpty then none else some (String.ofList (rest.drop 1)))

/-- Shows variables in order of their names. -/
def showVariables (start : String) (isShown : Variable → Bool) : Running Unit := do
  let bindings := (← Running.shell).bindings.filter fun entry => isShown entry.2
  let sorted := sortBy (fun first second => first.1 < second.1) bindings
  for (name, given) in sorted do
    match given.value with
    | some value => Running.outputLine (start ++ name ++ "=" ++ singleQuoted value)
    | none => if !start.isEmpty then Running.outputLine (start ++ name)

/-- Marks variables, which may be set first. -/
def marking (start : String) (mark : Variable → Variable) (isMarked : Variable → Bool)
    (arguments : List String) : Running Nat := do
  let (_, names) ← options "p" arguments
  if names.isEmpty then showVariables start isMarked
  else
    for argument in names do
      let (name, value) := assigned argument
      requireName name
      if let some text := value then Running.setVariable name text
      Running.putVariable name (mark (← Running.variableOf name))
  return 0

/-- Passes variables on to programs. -/
def export_ (arguments : List String) : Running Nat :=
  marking "export " (fun given => { given with isExported := true }) Variable.isExported arguments

/-- Protects variables. -/
def readonly (arguments : List String) : Running Nat :=
  marking "readonly " (fun given => { given with isReadonly := true }) Variable.isReadonly arguments

/-- Restores variables at the end of the function that is being run. -/
def local_ (arguments : List String) : Running Nat := do
  for argument in arguments do
    let (name, value) := assigned argument
    match (← Running.shell).hidden with
    | [] => Running.fail "not in a function"
    | frame :: frames => do
        requireName name
        let before ← Running.variableOf name
        if (frame.lookup name).isNone then
          Running.modifyShell fun shell => { shell with hidden := ((name, before) :: frame) :: frames }
        if let some text := value then Running.setVariable name text
  if (← Running.shell).hidden.isEmpty then Running.fail "not in a function"
  return 0

/-- Forgets variables or functions. -/
def unset (arguments : List String) : Running Nat := do
  let (letters, names) ← options "vf" arguments
  for name in names do
    if letters.contains 'f' then
      Running.modifyShell fun shell =>
        { shell with functions := shell.functions.filter fun entry => entry.1 != name }
    else
      requireName name
      if (← Running.variableOf name).isReadonly then Running.fail (name ++ ": is read only")
      Running.modifyShell fun shell =>
        { shell with bindings := shell.bindings.filter fun entry => entry.1 != name }
  return 0

/-! ## Options and arguments -/

/-- Shows which options are set, for a reader or as commands that set them again. -/
def showOptions (isForReader : Bool) : Running Unit := do
  if isForReader then Running.outputLine "Current option settings"
  for (name, letter) in optionNames do
    let isOn ← Running.hasOption letter
    let filled := name ++ String.ofList (List.replicate (16 - name.length) ' ')
    Running.outputLine
      (if isForReader then filled ++ (if isOn then "on" else "off")
        else (if isOn then "set -o " else "set +o ") ++ name)

/-- Replaces the arguments of the script. -/
def setArguments (arguments : List String) : Running Unit :=
  Running.modifyShell fun shell => { shell with arguments := arguments, optionPlace := 0 }

/-- Sets the option that a name stands for. -/
def setNamed (isOn : Bool) (name : String) : Running Unit :=
  match optionNames.lookup name with
  | some letter => Running.setOption isOn letter
  | none => Running.fail ("Illegal option " ++ (if isOn then "-o " else "+o ") ++ name)

/-- Sets options up to a letter that asks for a name; what follows that letter, if there is one. -/
def setLetters (isOn : Bool) : List Char → Running (Option (Bool × List Char))
  | [] => return none
  | letter :: letters => do
      if letter = 'o' then return some (isOn, letters)
      if optionLetters.contains letter then Running.setOption isOn letter
      else Running.fail ("Illegal option " ++ (if isOn then "-" else "+") ++ String.ofList [letter])
      setLetters isOn letters

/-- Sets options, and then arguments if there are any; a letter may still wait for a name, with others after it. -/
def setAll (awaits : Option (Bool × List Char)) : List String → Running Unit
  | [] => (awaits.map fun (isOn, _) => showOptions isOn).getD (return)
  | word :: rest =>
      match awaits, word.toList with
      | some (isOn, letters), _ => do
          setNamed isOn word
          setAll (← setLetters isOn letters) rest
      | none, ['-', '-'] => setArguments rest
      | none, sign :: letter :: letters =>
          if sign = '-' || sign = '+' then do
            setAll (← setLetters (sign == '-') (letter :: letters)) rest
          else setArguments (word :: rest)
      | none, ['-'] => do
          Running.setOption false 'x'
          Running.setOption false 'v'
          if !rest.isEmpty then setArguments rest
      | none, ['+'] => setAll none rest
      | none, _ => setArguments (word :: rest)

/-- Sets options and arguments, or shows the variables. -/
def set_ (arguments : List String) : Running Nat := do
  if arguments.isEmpty then showVariables "" fun _ => true else setAll none arguments
  return 0

/-- Drops the first arguments of the script. -/
def shift (arguments : List String) : Running Nat := do
  let count ← match arguments with
    | [] => pure 1
    | text :: _ => numberOf text
  let present := (← Running.shell).arguments
  if present.length < count then Running.fail "can't shift that many"
  setArguments (present.drop count)
  return 0

/-- What is left of a word from which options are taken: the letters after a number of them. -/
def restOfWord (words : List String) (index place : Nat) : List Char :=
  if index ≤ 1 || place = 0 then []
  else ((words.getD (index - 2) "").toList).drop place

/-- Whether the letters of options allow one, and whether it takes a value. -/
def optionKind (allowed : List Char) (letter : Char) : Option Bool :=
  match allowed with
  | [] => none
  | first :: rest =>
      if first = letter && letter != ':' then some (rest.head? == some ':')
      else optionKind rest letter

/-- Takes the next option from words: the letter, the value if there is one, the number of the next word and the place in it; nothing if there are no more. -/
def getopts (arguments : List String) : Running Nat := do
  match arguments with
  | allowed :: name :: words => do
      let shell ← Running.shell
      let words := if words.isEmpty then shell.arguments else words
      let index := (((← Running.value? "OPTIND").bind number?).getD 1)
      let isQuiet := allowed.toList.head? == some ':'
      let finish (status : Nat) (letter : Char) (next place : Nat) : Running Nat := do
        Running.putVariable "OPTIND" { (← Running.variableOf "OPTIND") with value := some (toString next) }
        requireName name
        Running.setVariable name (String.ofList [letter])
        Running.modifyShell fun shell => { shell with optionPlace := place }
        return status
      let setValue (value : Option String) : Running Unit := do
        Running.putVariable "OPTARG" { (← Running.variableOf "OPTARG") with value := value }
      let inside := restOfWord words index shell.optionPlace
      let (letters, next, place) : List Char × Nat × Nat :=
        if !inside.isEmpty then (inside, index, shell.optionPlace)
        else match words[index - 1]? with
          | some word =>
              match word.toList with
              | '-' :: letter :: letters =>
                  if letter = '-' && letters.isEmpty then ([], index + 1, 0)
                  else (letter :: letters, index + 1, 1)
              | _ => ([], index, 0)
          | none => ([], index, 0)
      match letters with
      | [] => finish 1 '?' next 0
      | letter :: rest =>
          let after := if rest.isEmpty then 0 else place + 1
          match optionKind allowed.toList letter with
          | none => do
              if isQuiet then setValue (some (String.ofList [letter]))
              else
                Running.errorLine ("Illegal option -" ++ String.ofList [letter])
                setValue none
              finish 0 '?' next after
          | some false => do
              setValue (some "")
              finish 0 letter next after
          | some true =>
              match rest, words[next - 1]? with
              | [], none => do
                  if isQuiet then
                    setValue (some (String.ofList [letter]))
                    finish 0 ':' next 0
                  else
                    Running.errorLine ("No arg for -" ++ String.ofList [letter] ++ " option")
                    setValue none
                    finish 0 '?' next 0
              | [], some value => do
                  setValue (some value)
                  finish 0 letter (next + 1) 0
              | _, _ => do
                  setValue (some (String.ofList rest))
                  finish 0 letter next 0
  | _ => Running.fail "Usage: getopts optstring var [arg]"

/-! ## Reading -/

/-- The letters of a line with the notes whether backslashes have kept them; a backslash before the end of the line asks for another one. -/
def lineMarks (isRaw : Bool) : List Char → List Mark × Bool
  | [] => ([], false)
  | '\\' :: '\n' :: [] => if isRaw then ([('\\', false)], false) else ([], true)
  | '\\' :: next :: rest =>
      if isRaw then
        let (marks, goesOn) := lineMarks isRaw (next :: rest)
        (('\\', false) :: marks, goesOn)
      else
        let (marks, goesOn) := lineMarks isRaw rest
        ((next, true) :: marks, goesOn)
  | '\n' :: _ => ([], false)
  | letter :: rest =>
      let (marks, goesOn) := lineMarks isRaw rest
      ((letter, false) :: marks, goesOn)

/-- Reads a line, with the lines that it asks for; tells whether the last one has ended. -/
def readMarks (isRaw : Bool) : Nat → Running (List Mark × Bool)
  | 0 => return ([], true)
  | left + 1 => do
      let bytes ← Running.take 0 (Tool.linesLength 1)
      let letters := (octets (bytes.filter (· != 0))).toList
      let isEnded := letters.getLast? == some '\n'
      let (marks, goesOn) := lineMarks isRaw letters
      if goesOn then
        let (more, isEnded) ← readMarks isRaw left
        return (marks ++ more, isEnded)
      else return (marks, isEnded)

/-- Splits letters into a number of fields; the last one takes the rest. -/
def splitFields (separators : List Char) : Nat → List Mark → List (List Mark)
  | 0, _ => []
  | count + 1, marks =>
      let isBlank (mark : Mark) : Bool :=
        !mark.2 && " \t\n".toList.contains mark.1 && separators.contains mark.1
      let isSeparator (mark : Mark) : Bool := !mark.2 && separators.contains mark.1
      let marks := marks.dropWhile isBlank
      let field := marks.takeWhile fun mark => !isSeparator mark
      let after := (marks.drop field.length).dropWhile isBlank
      let rest := match after with
        | mark :: more => if isSeparator mark then more else after
        | [] => []
      if count = 0 then
        if (rest.dropWhile isBlank).isEmpty then [field]
        else [(marks.reverse.dropWhile isBlank).reverse]
      else field :: splitFields separators count rest

/-- Reads a line into variables. -/
def read (arguments : List String) : Running Nat := do
  let arguments := match arguments with
    | "-p" :: _ :: rest => rest
    | "-r" :: "-p" :: _ :: rest => "-r" :: rest
    | "-p" :: [] => []
    | other => other
  let (letters, names) ← options "rp" arguments
  if names.isEmpty then Running.fail "arg count"
  let (marks, isEnded) ← readMarks (letters.contains 'r') 1000
  let fields := splitFields (← Running.separators) names.length marks
  for (name, place) in names.zipIdx do
    requireName name
    Running.setVariable name (textOfMarks (fields.getD place []))
  return if isEnded then 0 else 1

/-! ## Aliases -/

/-- Shows or sets the words that stand for others. -/
def alias_ (arguments : List String) : Running Nat := do
  let show_ (name text : String) : Running Unit :=
    Running.outputLine (name ++ "=" ++ singleQuoted text)
  if arguments.isEmpty then
    let sorted := sortBy (fun first second => first.1 < second.1) (← Running.shell).aliases
    for (name, text) in sorted do show_ name text
    return 0
  Running.forOperands arguments fun argument => do
    match assigned argument with
    | (name, some text) => do
        Running.modifyShell fun shell =>
          { shell with
            aliases := (name, text) :: shell.aliases.filter fun entry => entry.1 != name }
        return 0
    | (name, none) =>
        match (← Running.shell).aliases.lookup name with
        | some text => do
            show_ name text
            return 0
        | none => do
            Running.errorLine ("alias: " ++ name ++ " not found")
            return 1

/-- Forgets the words that stand for others. -/
def unalias (arguments : List String) : Running Nat := do
  let (letters, names) ← options "a" arguments
  if letters.contains 'a' then Running.modifyShell fun shell => { shell with aliases := [] }
  Running.forOperands names fun name => do
    if ((← Running.shell).aliases.lookup name).isNone then
      Running.errorLine ("unalias: " ++ name ++ " not found")
      return 1
    else
      Running.modifyShell fun shell =>
        { shell with aliases := shell.aliases.filter fun entry => entry.1 != name }
      return 0

/-! ## Directories -/

/-- Goes to another directory. -/
def cd (arguments : List String) : Running Nat := do
  let (_, operands) ← options "LP" arguments
  let before := octetsOfText (← Running.shell).directory
  let target ← match operands with
    | [] => do pure ((← Running.value? "HOME").getD "")
    | "-" :: _ => do pure ((← Running.value? "OLDPWD").getD before)
    | path :: _ => pure path
  if target.isEmpty then return 0
  let place := "/" ++ "/".intercalate (plainParts (← Running.resolve target))
  match ← Running.kind target with
  | .ok .directory => do
      Running.modifyShell fun shell => { shell with directory := place }
      Running.setVariable "OLDPWD" before
      Running.setVariable "PWD" (octetsOfText place)
      if operands.head? == some "-" then Running.outputLine (octetsOfText place)
      return 0
  | _ => Running.fail ("can't cd to " ++ target)

end Builtin
end Script
end TileProgram
