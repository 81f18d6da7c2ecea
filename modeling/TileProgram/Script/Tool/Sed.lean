import TileProgram.Script.Tool.EditScript
import TileProgram.Script.Tool.Texts

/-!
# Editing lines

An edit script is run once for every line.  It works on the line and on a
second text that is held; the line is shown at the end.
-/

namespace TileProgram
namespace Script
namespace Tool

open Running (toolLine withFlags)

/-- What an edit knows: the lines to come, the line that is worked on with its number and the note whether it ends, the text that is held, what has been written, last piece first, whether that ends with a whole line, what follows the line, the commands whose ranges have begun with the lines they end on, whether something has been replaced, the expression used last, what files become, and the status if the edit is over. -/
structure Edit where
  input : List String
  line : String
  number : Nat
  isEnded : Bool
  held : String
  reversed : List String
  isOpen : Bool
  queue : List (Bool × String)
  ranges : List (Nat × Option Nat)
  hasReplaced : Bool
  recent : Option Regular
  files : List (String × String)
  status : Option Nat

namespace Edit

/-- Adds a text to what has been written. -/
def write (edit : Edit) (text : String) : Edit :=
  if text.isEmpty then edit
  else
    let pieces := if edit.isOpen then "\n" :: edit.reversed else edit.reversed
    { edit with
      reversed := text :: pieces, isOpen := text.toList.getLast? != some '\n' }

/-- Adds a line to what has been written; the last one may lack its end. -/
def writeLine (edit : Edit) (text : String) : Edit :=
  edit.write (if edit.isEnded then text ++ "\n" else text)

/-- Adds a line to what a file becomes. -/
def writeTo (edit : Edit) (path text : String) : Edit :=
  let before := (edit.files.lookup path).getD ""
  { edit with
    files := (path, before ++ text ++ "\n") :: edit.files.filter fun entry => entry.1 != path }

/-- Adds the contents of a file to what has been written; they count as whole lines. -/
def writeContents (edit : Edit) (text : String) : Edit :=
  { edit.write text with isOpen := text.isEmpty && edit.isOpen }

/-- Writes what is to follow the line: texts, and contents of files. -/
def flush (edit : Edit) : Edit :=
  let add (edit : Edit) (entry : Bool × String) : Edit :=
    if entry.1 then edit.writeContents entry.2 else edit.write entry.2
  { edit.queue.foldl add edit with queue := [] }

/-- Takes the next line. -/
def advance (edit : Edit) (change : String → String) : Edit :=
  match edit.input with
  | [] => edit
  | next :: rest =>
      let plain := withoutEnd next
      { edit with
        input := rest, line := change plain, number := edit.number + 1, isEnded := plain != next }

/-- Whether an address selects the line; gives the expression used last. -/
def fits (edit : Edit) (address : Address) : Bool × Edit :=
  match address with
  | .line number => (edit.number == number, edit)
  | .last => (edit.input.isEmpty, edit)
  | .every first step =>
      let isFit := if step = 0 then edit.number == first
        else first ≤ edit.number && (edit.number - first) % step == 0
      (isFit, edit)
  | .count _ => (false, edit)
  | .fits regular ignoresCase =>
      let found := regular.orElse fun _ => edit.recent
      let isFit := found.any fun regular => (regular.fit? ignoresCase edit.line.toList).isSome
      (isFit, { edit with recent := found })

/-- Whether a command at a place is to be run for the line. -/
def selects (edit : Edit) (place : Nat) (selection : Selection) : Bool × Edit :=
  match selection.first, selection.second with
  | none, _ => (true, edit)
  | some first, none => edit.fits first
  | some first, some second =>
      let others := edit.ranges.filter fun entry => entry.1 != place
      match edit.ranges.lookup place with
      | some (some last) =>
          if edit.number < last then (true, edit)
          else if edit.number = last then (true, { edit with ranges := others })
          else
            let (isFirst, edit) := { edit with ranges := others }.fits first
            (isFirst, edit)
      | some none =>
          let (isLast, edit) := edit.fits second
          (true, if isLast then { edit with ranges := others } else edit)
      | none =>
          let (isFirst, edit) := edit.fits first
          if !isFirst then (false, edit)
          else
            let last : Option Nat := match second with
              | .line last => some last
              | .count number => some (edit.number + number)
              | _ => none
            let isOver := (last.map fun last => decide (last ≤ edit.number)).getD
              (match second with
                | .last => edit.input.isEmpty
                | _ => false)
            (true, if isOver then edit else { edit with ranges := (place, last) :: others })

/-- What a replacement becomes for a fit. -/
def replaced (parts : List ReplacementPart) (fit : Fit) : List Char :=
  parts.flatMap fun part =>
    match part with
    | .letter letter => [letter]
    | .group 0 => fit.inside
    | .group number => (fit.groups.lookup number).getD []

/-- Replaces fits in letters that follow others, last one first; tells whether there were any.  The first fits may be passed over, and a fit of nothing does not count where another one ends. -/
def replaceFits (regular : Regular) (substitution : Substitution) (fuel : Nat) (passedFits : Nat)
    (afterFit : Bool) (passed letters : List Char) : List Char × Bool :=
  match fuel with
  | 0 => (letters, false)
  | left + 1 =>
      match regular.fitAfter? substitution.ignoresCase passed letters with
      | none => (letters, false)
      | some fit =>
          let start := fit.before.length - passed.length
          let before := letters.take start
          let isIdle := fit.inside.isEmpty && afterFit && start = 0
          let count := if isIdle then passedFits else passedFits + 1
          let isWanted := !isIdle && substitution.from_ ≤ count
          let new := if isWanted then replaced substitution.parts fit else fit.inside
          let seen := (before ++ fit.inside).reverse ++ passed
          if isWanted && !substitution.isGlobal then (before ++ new ++ fit.after, true)
          else if fit.inside.isEmpty then
            match fit.after with
            | [] => (before ++ new, isWanted)
            | letter :: rest =>
                let (others, more) :=
                  replaceFits regular substitution left count false (letter :: seen) rest
                (before ++ new ++ letter :: others, isWanted || more)
          else
            let (others, more) := replaceFits regular substitution left count true seen fit.after
            (before ++ new ++ others, isWanted || more)

/-- Runs a replacement. -/
def substitute (edit : Edit) (substitution : Substitution) : Edit :=
  match substitution.regular.orElse fun _ => edit.recent with
  | none => edit
  | some regular =>
      let letters := edit.line.toList
      let (changed, isChanged) :=
        replaceFits regular substitution (letters.length + 2) 0 false [] letters
      let edit := { edit with recent := some regular }
      if !isChanged then edit
      else
        let edit := { edit with line := String.ofList changed, hasReplaced := true }
        let edit := if substitution.isShown then edit.writeLine edit.line else edit
        match substitution.file with
        | some path => edit.writeTo path edit.line
        | none => edit

/-- The first line of a text, with what follows it. -/
def firstLine (text : String) : String × Option String :=
  let letters := text.toList
  let first := letters.takeWhile (· != '\n')
  match letters.drop first.length with
  | [] => (text, none)
  | _ :: rest => (String.ofList first, some (String.ofList rest))

end Edit

/-- Where the commands of an edit go on: at a place, at the end of the script, with the next line, or with the same line again. -/
inductive EditStep where
  | goOn (place : Nat)
  | finish
  | next
  | again

/-- The place after the brace that closes one at a place. -/
def afterBrace (commands : List EditCommand) (place : Nat) : Nat :=
  let step (state : Nat × Nat × Bool) (command : EditCommand) : Nat × Nat × Bool :=
    let (depth, count, isOver) := state
    if isOver then state
    else match command.action with
      | .open_ => (depth + 1, count + 1, false)
      | .close => (depth - 1, count + 1, depth = 1)
      | _ => (depth, count + 1, false)
  place + ((commands.drop place).foldl step (0, 0, false)).2.1

/-- Runs a command that is one letter. -/
def plainStep (isSilent : Bool) (edit : Edit) (place : Nat) (letter : Char) : Edit × EditStep :=
  let goOn (edit : Edit) : Edit × EditStep := (edit, .goOn (place + 1))
  match letter with
  | 'p' => goOn (edit.writeLine edit.line)
  | 'P' => goOn (edit.write ((Edit.firstLine edit.line).1 ++ "\n"))
  | 'd' => (edit, .next)
  | 'D' =>
      match (Edit.firstLine edit.line).2 with
      | none => (edit, .next)
      | some rest => ({ edit with line := rest }, .again)
  | 'n' =>
      if edit.input.isEmpty then
        ((if isSilent then edit else edit.writeLine edit.line).flush, .next)
      else
        let shown := if isSilent then edit else edit.writeLine edit.line
        goOn (shown.flush.advance id)
  | 'N' =>
      if edit.input.isEmpty then (edit, .finish)
      else goOn (edit.flush.advance fun next => edit.line ++ "\n" ++ next)
  | 'h' => goOn { edit with held := edit.line }
  | 'H' => goOn { edit with held := edit.held ++ "\n" ++ edit.line }
  | 'g' => goOn { edit with line := edit.held }
  | 'G' => goOn { edit with line := edit.line ++ "\n" ++ edit.held }
  | 'x' => goOn { edit with line := edit.held, held := edit.line }
  | '=' => goOn (edit.write (toString edit.number ++ "\n"))
  | 'z' => goOn { edit with line := "" }
  | _ => goOn edit

/-- Runs what a command does. -/
def actionStep (isSilent : Bool) (commands : List EditCommand) (contents : List (String × String))
    (edit : Edit) (place : Nat) (selection : Selection) (action : EditAction) : Edit × EditStep :=
  let goOn (edit : Edit) : Edit × EditStep := (edit, .goOn (place + 1))
  let jump (edit : Edit) (name : String) : Edit × EditStep :=
    match labelPlace? commands name with
    | some target => (edit, .goOn target)
    | none => (edit, .finish)
  match action with
  | .open_ | .close | .label _ => goOn edit
  | .substitute substitution => goOn (edit.substitute substitution)
  | .exchange source target =>
      let change (letter : Char) : Char :=
        ((source.zip target).lookup letter).getD letter
      goOn { edit with line := String.ofList (edit.line.toList.map change) }
  | .append text => goOn { edit with queue := edit.queue ++ [(false, text)] }
  | .insert text => goOn (edit.write text)
  | .change text =>
      let isOver := selection.isNegated || (edit.ranges.lookup place).isNone
      (if isOver then edit.write text else edit, .next)
  | .read path =>
      let more := (contents.lookup path).toList.map fun text => (true, text)
      goOn { edit with queue := edit.queue ++ more }
  | .write path =>
      if path == "/dev/stdout" then goOn (edit.writeLine edit.line)
      else goOn (edit.writeTo path edit.line)
  | .branch name => jump edit name
  | .branchIfReplaced name =>
      if edit.hasReplaced then jump { edit with hasReplaced := false } name else goOn edit
  | .branchUnlessReplaced name =>
      if edit.hasReplaced then goOn { edit with hasReplaced := false } else jump edit name
  | .quit status => ({ edit with status := some status }, .finish)
  | .quitSilently status => ({ edit with status := some status }, .next)
  | .plain letter => plainStep isSilent edit place letter

/-- Runs commands from a place on; tells how it goes on with the lines. -/
def runCommands (isSilent : Bool) (commands : List EditCommand)
    (contents : List (String × String)) (fuel : Nat) (edit : Edit) (place : Nat) :
    Edit × EditStep :=
  match fuel with
  | 0 => ({ edit with status := some 4 }, .next)
  | left + 1 =>
      match commands[place]? with
      | none => (edit, .finish)
      | some command =>
          let (isFit, edit) := edit.selects place command.selection
          if isFit == command.selection.isNegated then
            let next := match command.action with
              | .open_ => afterBrace commands place
              | _ => place + 1
            runCommands isSilent commands contents left edit next
          else
            match actionStep isSilent commands contents edit place command.selection
              command.action with
            | (edit, .goOn next) => runCommands isSilent commands contents left edit next
            | result => result

/-- Runs commands for all lines; a line that is worked on again is not taken anew. -/
def runLines (isSilent : Bool) (commands : List EditCommand) (contents : List (String × String))
    (fuel : Nat) (isAgain : Bool) (edit : Edit) : Edit :=
  match fuel with
  | 0 => edit
  | left + 1 =>
      if !isAgain && edit.input.isEmpty then edit
      else
        let start := if isAgain then edit else { edit.advance id with hasReplaced := false }
        let (edit, step) := runCommands isSilent commands contents left start 0
        let shown := match step with
          | .finish => if isSilent then edit else edit.writeLine edit.line
          | _ => edit
        let isAgain := match step with
          | .again => true
          | _ => false
        let shown := shown.flush
        if shown.status.isSome then shown
        else runLines isSilent commands contents left isAgain shown

/-- How many steps an edit may take. -/
def editLimit : Nat := 200000

/-- Edits lines. -/
def editLines (isSilent : Bool) (commands : List EditCommand)
    (contents : List (String × String)) (input : List String) : Edit :=
  runLines isSilent commands contents editLimit false
    ⟨input, "", 0, true, "", [], false, [], [], false, none, [], none⟩

/-- The files whose contents commands show. -/
def shownFiles (commands : List EditCommand) : List String :=
  commands.filterMap fun command =>
    match command.action with
    | .read path => some path
    | _ => none

/-- The files that commands write. -/
def writtenFiles (commands : List EditCommand) : List String :=
  commands.filterMap fun command =>
    match command.action with
    | .write path => some path
    | .substitute substitution => substitution.file
    | _ => none

/-- Reads the lines of operands; also gives a status: two if a file is missing, and four if there is a directory, at which reading ends. -/
def editInput : List String → Running (List String × Nat)
  | [] => return ([], 0)
  | operand :: rest => do
      match ← Running.operandBytes operand with
      | .ok bytes => do
          let (lines, status) ← editInput rest
          return (linesOf bytes ++ lines, status)
      | .error .isDirectory => do
          let name := if operand == "-" then "stdin" else operand
          toolLine "sed" ("read error on " ++ name ++ ": " ++ Files.Failure.isDirectory.words)
          return ([], 4)
      | .error failure => do
          toolLine "sed" ("can't read " ++ operand ++ ": " ++ failure.words)
          let (lines, status) ← editInput rest
          return (lines, max 2 status)

/-- Writes what files become. -/
def writeFiles (files : List (String × String)) (paths : List String) : Running Unit :=
  paths.forM fun path => do
    let _ ← Running.writeFile path (octetBytes ((files.lookup path).getD ""))

/-- Edits lines of files. -/
def sed (arguments : List String) : Running Nat :=
  let inPlace (argument : String) : Bool :=
    argument.startsWith "-i" || argument.startsWith "--in-place"
  let editsFiles := arguments.any inPlace
  let known : KnownFlags :=
    ⟨"sed", "nErsuz", "ef", [("quiet", 'n'), ("silent", 'n'), ("expression", 'e'), ("file", 'f'),
      ("regexp-extended", 'E')], 1⟩
  withFlags known (arguments.filter fun argument => !inPlace argument) fun flags => do
    let parts ← flags.options.mapM fun (letter, value) => do
      if letter == 'e' then return some value
      else if letter == 'f' then
        return some (octets (((← Running.operandBytes value).toOption).getD []))
      else return none
    let given := parts.filterMap id
    let script := if given.isEmpty then flags.operands.headD "" else "\n".intercalate given
    let operands := if given.isEmpty then flags.operands.drop 1 else flags.operands
    match readEditScript (flags.has 'E' || flags.has 'r') script with
    | .error complaint => do
        toolLine "sed" complaint.message
        return 1
    | .ok commands => do
        let isSilent := flags.has 'n' || script.startsWith "#n\n"
        let contents ← (shownFiles commands).mapM fun path => do
          return (path, octets (((← Running.readFile path).toOption).getD []))
        let edit (input : List String) : Edit := editLines isSilent commands contents input
        let result (edit : Edit) : String := "".intercalate edit.reversed.reverse
        if editsFiles then
          Running.forOperands operands fun operand => do
            if (← Running.readFile operand) matches .error .isDirectory then
              toolLine "sed" ("couldn't edit " ++ operand ++ ": not a regular file")
              return 4
            let (input, status) ← editInput [operand]
            if status != 0 then return 4
            let done := edit input
            let rest := if done.status.isSome then "".intercalate done.input else ""
            let _ ← Running.writeFile operand (octetBytes (result done ++ rest))
            writeFiles done.files (writtenFiles commands)
            return done.status.getD 0
        else
          let operands := if operands.isEmpty then ["-"] else operands
          let (input, status) ← editInput operands
          let done := edit input
          Running.output (octetBytes (result done))
          writeFiles done.files (writtenFiles commands)
          return if status = 4 then 4 else done.status.getD status

end Tool
end Script
end TileProgram
