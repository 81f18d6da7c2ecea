import TileProgram.Script.Tool.Flags

/-!
# Tools that handle files

Copying, moving, removing and making files, and looking at directories.
-/

namespace TileProgram
namespace Script
namespace Tool

open Files (Action Failure Kind)
open Running (misused forOperands toolLine withFlags)

/-- Tells what went wrong with an operand, if anything did. -/
def report (tool start : String) (operand : String) (result : Except Failure Value) :
    Running Nat := do
  match result with
  | .ok _ => return 0
  | .error failure => do
      toolLine tool (start ++ quoted operand ++ ": " ++ failure.words)
      return 1

/-- Whether a directory stands under a path. -/
def isDirectory (path : String) : Running Bool := do
  return (← Running.kind path).toOption == some .directory

/-- Without operands there is nothing to do. -/
def requireOperand (tool : String) (flags : Flags) (use : Running Nat) : Running Nat :=
  if flags.operands.isEmpty then misused tool 1 "missing operand" else use

/-! ## Copying and moving -/

/-- Whether two paths lead to the same place. -/
def isSame (first second : String) : Running Bool := do
  let parts (path : String) : List String :=
    Files.Path.steps path |>.filter (· != ".")
  return parts (← Running.resolve first) == parts (← Running.resolve second)

/-- Copies a file to a path. -/
def copyFile (tool source target : String) : Running Nat := do
  let before ← Running.kind target
  match ← Running.readFile source with
  | .error failure => do
      toolLine tool ("cannot open " ++ quoted source ++ " for reading: " ++ failure.words)
      return 1
  | .ok bytes => do
      if ← isSame source target then
        toolLine tool (quoted source ++ " and " ++ quoted target ++ " are the same file")
        return 1
      let written ← Running.writeFile target bytes
      let isNew := before.toOption.isNone
      if isNew && written.toOption.isSome && (← Running.kind source).toOption == some .executable then
        let _ ← Running.onPath (fun path => Action.setExecutable path true) target
      let isClosed := target.toList.getLast? == some '/'
      let result := match written with
        | .error .isDirectory => if isClosed then .error .notDirectory else written
        | _ => written
      report tool "cannot create regular file " target result

/-- Copies what stands under a path to another path, with everything in it if that is wanted. -/
def copy (tool : String) (isDeep : Bool) (fuel : Nat) (source target : String) : Running Nat := do
  match fuel with
  | 0 => throw .exhausted
  | left + 1 => do
      match ← Running.kind source with
      | .error failure => report tool "cannot stat " source (Except.error (α := Unit) failure)
      | .ok .directory => do
          if !isDeep then
            toolLine tool ("-r not specified; omitting directory " ++ quoted source)
            return 1
          if !(← isDirectory target) then
            let made ← Running.onPath Action.makeDirectory target
            if let .error _ := made then return ← report tool "cannot create directory " target made
          let names := ((← Running.onPath Action.list source).toOption).getD []
          forOperands (names.map octetsOfText) fun name =>
            copy tool isDeep left (Files.Path.join source name) (Files.Path.join target name)
      | .ok _ => copyFile tool source target

/-- How deep directories can be nested. -/
def depthLimit : Nat := 256

/-- Moves what stands under a path to another path. -/
def move (source target : String) : Running Nat := do
  match ← Running.kind source with
  | .error failure => report "mv" "cannot stat " source (Except.error (α := Unit) failure)
  | .ok _ => do
      if ← isSame source target then
        toolLine "mv" (quoted source ++ " and " ++ quoted target ++ " are the same file")
        return 1
      let old ← Running.resolve source
      match ← Running.onPath (Action.rename old) target with
      | .ok () => return 0
      | .error failure => do
          toolLine "mv"
            ("cannot move " ++ quoted source ++ " to " ++ quoted target ++ ": " ++ failure.words)
          return 1

/-- Applies something to pairs of sources and targets: the last operand is the target, or the directory of the targets. -/
def forTargets (tool : String) (flags : Flags) (use : String → String → Running Nat) :
    Running Nat := do
  let inside (directory source : String) : Running Nat :=
    use source (Files.Path.join directory (Files.Path.name source))
  match flags.value? 't', flags.operands.reverse with
  | some directory, _ => forOperands flags.operands (inside directory)
  | none, [] => misused tool 1 "missing file operand"
  | none, [only] => misused tool 1 ("missing destination file operand after " ++ quoted only)
  | none, target :: sources => do
      if (← isDirectory target) && !flags.has 'T' then
        forOperands sources.reverse (inside target)
      else
        match sources with
        | [source] => use source target
        | _ => do
            let words := match ← Running.kind target with
              | .ok _ => Failure.words .notDirectory
              | .error failure => failure.words
            toolLine tool ("target " ++ quoted target ++ ": " ++ words)
            return 1

/-- Copies files. -/
def cp (arguments : List String) : Running Nat :=
  let known : KnownFlags :=
    ⟨"cp", "afrRpvniudLPHTlsx", "t",
      [("force", 'f'), ("recursive", 'r'), ("archive", 'a'), ("target-directory", 't'),
        ("no-clobber", 'n'), ("verbose", 'v'), ("preserve", 'p')], 1⟩
  withFlags known arguments fun flags =>
    let isDeep := flags.has 'r' || flags.has 'R' || flags.has 'a'
    forTargets "cp" flags fun source target => do
      if flags.has 'n' && (← Running.kind target).toOption.isSome then return 0
      let status ← copy "cp" isDeep depthLimit source target
      if flags.has 'v' && status = 0 then
        Running.outputLine (quoted source ++ " -> " ++ quoted target)
      return status

/-- Moves files. -/
def mv (arguments : List String) : Running Nat :=
  let known : KnownFlags :=
    ⟨"mv", "fvniuT", "t",
      [("force", 'f'), ("target-directory", 't'), ("no-clobber", 'n'), ("verbose", 'v')], 1⟩
  withFlags known arguments fun flags =>
    forTargets "mv" flags fun source target => do
      if flags.has 'n' && (← Running.kind target).toOption.isSome then return 0
      let status ← move source target
      if flags.has 'v' && status = 0 then
        Running.outputLine ("renamed " ++ quoted source ++ " -> " ++ quoted target)
      return status

/-- Makes links; those that are not to be followed by their text are copies. -/
def ln (arguments : List String) : Running Nat :=
  let known : KnownFlags :=
    ⟨"ln", "sfnvTrL", "t", [("symbolic", 's'), ("force", 'f'), ("no-dereference", 'n')], 1⟩
  withFlags known arguments fun flags => do
    let operands := match flags.operands with
      | [only] => [only, Files.Path.name only]
      | operands => operands
    forTargets "ln" { flags with operands := operands } fun source target => do
      if flags.has 'f' then let _ ← Running.onPath Action.remove target
      if flags.has 's' then
        let made ← Running.onPath (Action.link (textOfOctets source)) target
        report "ln" "failed to create symbolic link " target made
      else
        match ← Running.kind source, ← Running.kind target with
        | .error failure, _ =>
            report "ln" "failed to access " source (Except.error (α := Unit) failure)
        | .ok .directory, _ => do
            toolLine "ln" (source ++ ": hard link not allowed for directory")
            return 1
        | _, .ok _ =>
            report "ln" "failed to create hard link " target (Except.error (α := Unit) Failure.exists_)
        | _, _ => copyFile "ln" source target

/-! ## Removing and making -/

/-- Removes what stands under a path, with everything in it if that is wanted. -/
def remove (isDeep isForced removesEmpty : Bool) (fuel : Nat) (path : String) : Running Nat := do
  match fuel with
  | 0 => throw .exhausted
  | left + 1 => do
      let isLink := (← Running.onPath Action.linkTarget path).toOption.isSome
      match ← Running.kind path with
      | .ok .directory => do
          if isLink then
            report "rm" "cannot remove " path (← Running.onPath Action.remove path)
          else if isDeep then
            let names := ((← Running.onPath Action.list path).toOption).getD []
            let status ← forOperands (names.map octetsOfText) fun name =>
              remove isDeep isForced removesEmpty left (Files.Path.join path name)
            let removed ← Running.onPath Action.removeDirectory path
            return max status (← report "rm" "cannot remove " path removed)
          else if removesEmpty then
            report "rm" "cannot remove " path (← Running.onPath Action.removeDirectory path)
          else report "rm" "cannot remove " path (Except.error (α := Unit) Failure.isDirectory)
      | _ => do
          let removed ← Running.onPath Action.remove path
          let isMissing := match removed with
            | .error .missing | .error .notDirectory => true
            | _ => false
          if isForced && isMissing then return 0 else report "rm" "cannot remove " path removed

/-- Removes files. -/
def rm (arguments : List String) : Running Nat :=
  let known : KnownFlags :=
    ⟨"rm", "frRdvi", "", [("force", 'f'), ("recursive", 'r'), ("dir", 'd'), ("verbose", 'v')], 1⟩
  withFlags known arguments fun flags =>
    if flags.operands.isEmpty && flags.has 'f' then return 0
    else requireOperand "rm" flags (forOperands flags.operands fun path => do
      let isDeep := flags.has 'r' || flags.has 'R'
      if [".", ".."].contains (Files.Path.name path) && isDeep then
        toolLine "rm" ("refusing to remove '.' or '..' directory: skipping " ++ quoted path)
        return 1
      let status ← remove isDeep (flags.has 'f') (flags.has 'd') depthLimit path
      if flags.has 'v' && status = 0 then Running.outputLine ("removed " ++ quoted path)
      return status)

/-- Makes directories. -/
def mkdir (arguments : List String) : Running Nat :=
  let known : KnownFlags :=
    ⟨"mkdir", "pv", "m", [("parents", 'p'), ("verbose", 'v'), ("mode", 'm')], 1⟩
  withFlags known arguments fun flags =>
    requireOperand "mkdir" flags (forOperands flags.operands fun path => do
      let make := if flags.has 'p' then Action.makeDirectories else Action.makeDirectory
      let made ← Running.onPath make path
      if flags.has 'v' && made.toOption.isSome then
        Running.outputLine ("mkdir: created directory " ++ quoted path)
      match made with
      | .ok () => return 0
      | .error failure => do
          toolLine "mkdir" ("cannot create directory " ++ curled path ++ ": " ++ failure.words)
          return 1)

/-- Removes empty directories. -/
def rmdir (arguments : List String) : Running Nat :=
  let known : KnownFlags := ⟨"rmdir", "pv", "", [("parents", 'p'), ("verbose", 'v')], 1⟩
  withFlags known arguments fun flags =>
    requireOperand "rmdir" flags (forOperands flags.operands fun path => do
      report "rmdir" "failed to remove " path (← Running.onPath Action.removeDirectory path))

/-- Makes empty files where there are none. -/
def touch (arguments : List String) : Running Nat :=
  let known : KnownFlags := ⟨"touch", "camfh", "tdr", [("no-create", 'c')], 1⟩
  withFlags known arguments fun flags =>
    if flags.operands.isEmpty then misused "touch" 1 "missing file operand"
    else forOperands flags.operands fun path => do
      match ← Running.kind path with
      | .ok _ => return 0
      | .error _ =>
          if flags.has 'c' then return 0
          else report "touch" "cannot touch " path (← Running.writeFile path [])

/-- Cuts files to a size, or fills them up with zeros. -/
def truncate (arguments : List String) : Running Nat :=
  let known : KnownFlags := ⟨"truncate", "co", "sr", [("no-create", 'c'), ("size", 's')], 1⟩
  withFlags known arguments fun flags =>
    match flags.value? 's' with
    | none => misused "truncate" 1 ("you must specify either " ++ curled "--size" ++ " or " ++ curled "--reference")
    | some text =>
        match number? text with
        | none => do
            toolLine "truncate" ("Invalid number: " ++ curled text)
            return 1
        | some size =>
            if flags.operands.isEmpty then misused "truncate" 1 "missing file operand"
            else forOperands flags.operands fun path => do
              let before := ((← Running.readFile path).toOption).getD []
              let written ← Running.writeFile path (before.resize size)
              match written with
              | .ok () => return 0
              | .error failure => do
                  toolLine "truncate"
                    ("cannot open " ++ quoted path ++ " for writing: " ++ failure.words)
                  return 1

/-- Who may execute a file: its owner, its group, and others. -/
structure Executors where
  owner : Bool
  group : Bool
  others : Bool
  deriving DecidableEq

/-- What a clause of a mode makes of who may execute a file, if it can be read. -/
def clauseExecutors? (before : Executors) (clause : String) : Option Executors :=
  let who := clause.toList.takeWhile ("ugoa".toList.contains ·)
  let concerns (letter : Char) : Bool := who.isEmpty || who.contains 'a' || who.contains letter
  match clause.toList.drop who.length with
  | sign :: bits =>
      if "+-=".toList.contains sign && bits.all ("rwxXst".toList.contains ·) then
        let hasExecute := bits.contains 'x'
        let change (letter : Char) (present : Bool) : Bool :=
          if !concerns letter then present
          else if sign = '=' then hasExecute
          else if hasExecute then sign == '+'
          else present
        some ⟨change 'u' before.owner, change 'g' before.group, change 'o' before.others⟩
      else none
  | [] => none

/-- Who may execute a file after a mode has been set, if the mode can be read. -/
def executors? (before : Executors) (mode : String) : Option Executors :=
  let letters := mode.toList
  if letters.isEmpty then none
  else if letters.all fun letter => '0' ≤ letter && letter ≤ '7' then
    let isOdd (place : Nat) : Bool :=
      ((letters.reverse[place]?).map fun digit => decide ((digit.toNat - '0'.toNat) % 2 = 1)).getD
        false
    some ⟨isOdd 2, isOdd 1, isOdd 0⟩
  else (mode.splitOn ",").foldlM clauseExecutors? before

/-- Whether a file can be executed after a mode has been set, if the mode can be read. -/
def executableAfter? (isExecutable : Bool) (mode : String) : Option Bool :=
  (executors? ⟨isExecutable, isExecutable, isExecutable⟩ mode).map fun after =>
    after.owner || after.group || after.others

/-- Lets files be executed, or not. -/
def chmod (arguments : List String) : Running Nat :=
  let isMode (text : String) : Bool :=
    text.startsWith "-" && (executableAfter? false text).isSome
  let modes := arguments.filter isMode
  let known : KnownFlags :=
    ⟨"chmod", "Rvcf", "", [("recursive", 'R'), ("verbose", 'v'), ("quiet", 'f')], 1⟩
  withFlags known (arguments.filter fun argument => !isMode argument) fun flags =>
    match modes ++ flags.operands with
    | [] => misused "chmod" 1 "missing operand"
    | [only] => misused "chmod" 1 ("missing operand after " ++ curled only)
    | mode :: paths =>
        if (executableAfter? false mode).isNone then
          misused "chmod" 1 ("invalid mode: " ++ curled mode)
        else forOperands paths fun path => do
          match ← Running.kind path with
          | .error failure => report "chmod" "cannot access " path (Except.error (α := Unit) failure)
          | .ok kind => do
              let given := (executableAfter? (kind == .executable) mode).getD false
              let _ ← Running.onPath (fun path => Action.setExecutable path given) path
              return 0

/-! ## Looking -/

/-- The names in a directory that are shown. -/
def shownNames (flags : Flags) (path : String) : Running (List String) := do
  let names := (((← Running.onPath Action.list path).toOption).getD []).map octetsOfText
  let all := if flags.has 'a' then "." :: ".." :: names else names
  let showsHidden := flags.has 'a' || flags.has 'A'
  let shown := all.filter fun name => showsHidden || name.toList.head? != some '.'
  return if flags.has 'r' then (sortTexts shown).reverse else sortTexts shown

/-- Shows the names of files and in directories. -/
def ls (arguments : List String) : Running Nat :=
  let known : KnownFlags :=
    ⟨"ls", "1aAdlrtFhRipsSCxnog", "", [("all", 'a'), ("almost-all", 'A'), ("directory", 'd'),
      ("reverse", 'r')], 2⟩
  withFlags known arguments fun flags => do
    let operands := if flags.operands.isEmpty then ["."] else sortTexts flags.operands
    let status ← forOperands operands fun path => do
      match ← Running.kind path with
      | .ok _ => return 0
      | .error failure => do
          toolLine "ls" ("cannot access " ++ quoted path ++ ": " ++ failure.words)
          return 2
    let present ← operands.filterM fun path => do return (← Running.kind path).toOption.isSome
    let directories ← present.filterM fun path => do return !flags.has 'd' && (← isDirectory path)
    let files := present.filter fun path => !directories.contains path
    for file in files do Running.outputLine file
    for (directory, place) in directories.zipIdx do
      let hasHead := 1 < operands.length
      if hasHead then
        if 0 < place || !files.isEmpty then Running.outputLine ""
        Running.outputLine (directory ++ ":")
      for name in ← shownNames flags directory do Running.outputLine name
    return status

/-- Writes the input to the output and to files. -/
def tee (arguments : List String) : Running Nat :=
  let known : KnownFlags := ⟨"tee", "aip", "", [("append", 'a')], 1⟩
  withFlags known arguments fun flags => do
    let input ← Running.readInput
    let bytes := (input.toOption).getD []
    if let .error failure := input then toolLine "tee" ("read error: " ++ failure.words)
    Running.output bytes
    let status := if input.toOption.isSome then 0 else 1
    return max status <| ← forOperands flags.operands fun path => do
      let before ← if flags.has 'a' then Running.readFile path else pure (.ok [])
      match ← Running.writeFile path ((before.toOption).getD [] ++ bytes) with
      | .ok () => return 0
      | .error failure => do
          toolLine "tee" (quotedIfNeeded path ++ ": " ++ failure.words)
          return 1

/-- The number of the first byte in which two texts differ, counted from a number, with the number of its line; nothing if one of them ends before. -/
def firstDifference (byte line : Nat) : Bytes → Bytes → Option (Nat × Nat)
  | first :: left, second :: right =>
      if first = second then
        firstDifference (byte + 1) (if first = 10 then line + 1 else line) left right
      else some (byte, line)
  | _, _ => none

/-- Compares two files. -/
def cmp (arguments : List String) : Running Nat :=
  let known : KnownFlags :=
    ⟨"cmp", "slb", "n", [("silent", 's'), ("quiet", 's'), ("bytes", 'n')], 2⟩
  withFlags known arguments fun flags => do
    match flags.operands with
    | [] => misused "cmp" 2 "missing operand after 'cmp'"
    | first :: others => do
        let second := others.headD "-"
        match ← Running.operandBytes first, ← Running.operandBytes second with
        | .error failure, _ => do
            if !flags.has 's' then toolLine "cmp" (first ++ ": " ++ failure.words)
            return 2
        | _, .error failure => do
            if !flags.has 's' then toolLine "cmp" (second ++ ": " ++ failure.words)
            return 2
        | .ok left, .ok right => do
            let limit := ((flags.value? 'n').bind number?).getD (max left.length right.length)
            let left := left.take limit
            let right := right.take limit
            match firstDifference 1 1 left right with
            | some (byte, line) => do
                if !flags.has 's' then
                  Running.outputLine
                    (first ++ " " ++ second ++ " differ: char " ++ toString byte ++ ", line " ++
                      toString line)
                return 1
            | none =>
                if left.length = right.length then return 0
                else
                  let (name, shorter) :=
                    if left.length < right.length then (first, left) else (second, right)
                  if !flags.has 's' then
                    if shorter.isEmpty then
                      toolLine "cmp" ("EOF on " ++ name ++ " which is empty")
                    else
                      let line := shorter.count 10 + 1
                      let isWhole := shorter.getLast? == some 10
                      let place := if isWhole then "line " ++ toString (line - 1)
                        else "in line " ++ toString line
                      toolLine "cmp"
                        ("EOF on " ++ name ++ " after byte " ++ toString shorter.length ++ ", " ++
                          place)
                  return 1

/-- The number of bytes that a size stands for. -/
def blockSize? (text : String) : Option Nat :=
  let digits := text.toList.takeWhile Char.isDigit
  let factor : Option Nat := match String.ofList (text.toList.drop digits.length) with
    | "" | "c" => some 1
    | "w" => some 2
    | "b" => some 512
    | "k" | "K" | "KiB" => some 1024
    | "kB" | "KB" => some 1000
    | "M" | "MiB" => some 1048576
    | "MB" => some 1000000
    | _ => none
  if digits.isEmpty then none else factor.map fun factor => factor * digitsValue 10 0 digits

/-- The value of a setting among arguments. -/
def setting? (arguments : List String) (name : String) : Option String :=
  let start := name.toList ++ ['=']
  (arguments.reverse.find? fun argument => start.isPrefixOf argument.toList).map fun argument =>
    String.ofList (argument.toList.drop start.length)

/-- Copies blocks of bytes from one file to another one. -/
def dd (arguments : List String) : Running Nat := do
  let size (name : String) (usual : Nat) : Nat :=
    ((setting? arguments name).bind blockSize?).getD usual
  let names := ["if", "of", "bs", "ibs", "obs", "count", "skip", "seek", "conv", "status", "iflag",
    "oflag", "cbs"]
  let isKnown (argument : String) : Bool :=
    names.any fun name => (name.toList ++ ['=']).isPrefixOf argument.toList
  match arguments.find? fun argument => !isKnown argument with
  | some argument => misused "dd" 1 ("unrecognized operand " ++ quoted argument)
  | none => do
      let block := size "bs" (size "ibs" 512)
      let limit := (setting? arguments "count").bind blockSize?
      let isExact := (setting? arguments "conv").any fun text => (text.splitOn ",").contains "notrunc"
      let source ← match setting? arguments "if" with
        | some path => Running.readFile path
        | none => Running.readInput
      match source with
      | .error .isDirectory => do
          let path := quoted ((setting? arguments "if").getD "standard input")
          toolLine "dd" ("error reading " ++ path ++ ": " ++ Failure.isDirectory.words)
          return 1
      | .error failure => do
          let path := quoted ((setting? arguments "if").getD "")
          toolLine "dd" ("failed to open " ++ path ++ ": " ++ failure.words)
          return 1
      | .ok bytes => do
          let rest := bytes.drop (block * size "skip" 0)
          let copied := (limit.map fun count => rest.take (count * block)).getD rest
          let place := block * size "seek" 0
          let status ← match setting? arguments "of" with
            | none => do
                Running.output copied
                pure 0
            | some path => do
                let before := ((← Running.readFile path).toOption).getD []
                let kept := if isExact then before else before.take place
                let all := if place = 0 && !isExact then copied
                  else Running.overwritten kept place copied
                match ← Running.writeFile path all with
                | .ok () => pure 0
                | .error failure => do
                    toolLine "dd" ("failed to open " ++ quoted path ++ ": " ++ failure.words)
                    return 1
          let whole := toString (copied.length / block) ++ "+" ++
            (if copied.length % block = 0 then "0" else "1")
          if setting? arguments "status" != some "none" then
            Running.errorLine (whole ++ " records in")
            Running.errorLine (whole ++ " records out")
          return status

end Tool
end Script
end TileProgram
