import TileProgram.Script.Format
import TileProgram.Script.Regular

/-!
# Scripts that edit lines

An edit script is a list of commands.  Each of them can be limited to the
lines that an address selects: by number, by a regular expression, or from one
such line to another.
-/

namespace TileProgram
namespace Script

/-- What selects a line. -/
inductive Address where
  | line (number : Nat)
  | last
  | every (first step : Nat)
  | fits (regular : Option Regular) (ignoresCase : Bool)
  | count (number : Nat)

/-- The lines that a command is limited to. -/
structure Selection where
  first : Option Address
  second : Option Address
  isNegated : Bool

/-- A part of what a fit is replaced by. -/
inductive ReplacementPart where
  | letter (letter : Char)
  | group (number : Nat)
  deriving DecidableEq

/-- A replacement: what is looked for, what it becomes, from which fit on and whether for all after it, whether the line is shown then, and a file that it is written to. -/
structure Substitution where
  regular : Option Regular
  ignoresCase : Bool
  parts : List ReplacementPart
  from_ : Nat
  isGlobal : Bool
  isShown : Bool
  file : Option String

/-- What a command of an edit script does. -/
inductive EditAction where
  | open_
  | close
  | label (name : String)
  | substitute (substitution : Substitution)
  | exchange (source target : List Char)
  | append (text : String)
  | insert (text : String)
  | change (text : String)
  | read (path : String)
  | write (path : String)
  | branch (name : String)
  | branchIfReplaced (name : String)
  | branchUnlessReplaced (name : String)
  | quit (status : Nat)
  | quitSilently (status : Nat)
  | plain (letter : Char)

/-- A command of an edit script. -/
structure EditCommand where
  selection : Selection
  action : EditAction

/-- Why an edit script cannot be read. -/
inductive EditFault where
  | unknownCommand (letter : Char)
  | missingCommand
  | unterminated (letter : Char)
  | unterminatedAddress
  | unexpectedComma
  | unknownOption
  | extraCharacters
  | badRegular (text : String)
  | unmatched (letter : Char)
  | unequalLengths
  | expectedText
  | badReference (number : Nat)
  | missingLabel (name : String)
  deriving DecidableEq

/-- The wording of a fault of an edit script. -/
def EditFault.message : EditFault → String
  | .unknownCommand letter => "unknown command: \x60" ++ String.ofList [letter] ++ "'"
  | .missingCommand => "missing command"
  | .unterminated letter => "unterminated \x60" ++ String.ofList [letter] ++ "' command"
  | .unterminatedAddress => "unterminated address regex"
  | .unexpectedComma => "unexpected \x60,'"
  | .unknownOption => "unknown option to \x60s'"
  | .extraCharacters => "extra characters after command"
  | .badRegular text => text
  | .unmatched letter =>
      let what := if letter == '\x7d' then "unexpected" else "unmatched"
      what ++ " \x60" ++ String.ofList [letter] ++ "'"
  | .unequalLengths => "strings for \x60y' command are different lengths"
  | .expectedText => "expected \\ after \x60a', \x60c' or \x60i'"
  | .badReference number =>
      "invalid reference \\" ++ toString number ++ " on \x60s' command's RHS"
  | .missingLabel name => "can't find label for jump to \x60" ++ name ++ "'"

/-- A step of reading an edit script, which knows what is left of it. -/
abbrev ReadingEdit := ExceptT EditFault (StateM (List Char))

namespace ReadingEdit

/-- Passes over letters that satisfy a condition, and gives them. -/
def takeWhile (condition : Char → Bool) : ReadingEdit (List Char) :=
  modifyGet fun letters => (letters.takeWhile condition, letters.dropWhile condition)

/-- Passes over letters. -/
def skip (count : Nat) : ReadingEdit Unit :=
  modify fun letters => letters.drop count

/-- Reads letters up to a sign; a backslash keeps the sign, and goes together with any other letter. -/
def delimited (sign : Char) (fault : EditFault) : ReadingEdit (List Char) := do
  let letters ← get
  match find false false letters with
  | none => do
      set ([] : List Char)
      throw fault
  | some (text, rest) => do
      set rest
      return text
where
  /-- Finds the sign; the arguments say whether a backslash has just been passed, and whether a set of letters has been opened. -/
  find (isEscaped isSet : Bool) : List Char → Option (List Char × List Char)
    | [] => none
    | letter :: rest =>
        let add (kept : List Char) (isEscaped isSet : Bool) : Option (List Char × List Char) :=
          (find isEscaped isSet rest).map fun (text, others) => (kept ++ text, others)
        if isEscaped then
          if letter = sign then add [letter] false isSet
          else if letter = 'n' then add ['\n'] false isSet
          else add ['\\', letter] false isSet
        else if letter = '\\' then add [] true isSet
        else if letter = sign && !isSet then some ([], rest)
        else if letter = '[' && !isSet then
          add [letter] false true
        else if letter = ']' && isSet then add [letter] false false
        else add [letter] false isSet

/-- Reads letters of a replacement up to a sign; a backslash goes together with the letter after it. -/
def plainDelimited (sign : Char) (fault : EditFault) : ReadingEdit (List Char) := do
  let letters ← get
  match find false letters with
  | none => do
      set ([] : List Char)
      throw fault
  | some (text, rest) => do
      set rest
      return text
where
  /-- Finds the sign; the first argument says whether a backslash has just been passed. -/
  find (isEscaped : Bool) : List Char → Option (List Char × List Char)
    | [] => none
    | letter :: rest =>
        let add (kept : List Char) (isEscaped : Bool) : Option (List Char × List Char) :=
          (find isEscaped rest).map fun (text, others) => (kept ++ text, others)
        if isEscaped then
          if letter = sign then add [letter] false else add ['\\', letter] false
        else if letter = '\\' then add [] true
        else if letter = sign then some ([], rest)
        else add [letter] false

/-- Reads a number. -/
def number : ReadingEdit (Option Nat) := do
  let digits ← takeWhile Char.isDigit
  return if digits.isEmpty then none else some (digitsValue 10 0 digits)

/-- Reads blanks. -/
def blanks : ReadingEdit Unit := do
  let _ ← takeWhile fun letter => letter == ' ' || letter == '\t'

/-- Reads the regular expression that letters write; no letters stand for the one used last. -/
def regular (isExtended : Bool) (letters : List Char) : ReadingEdit (Option Regular) := do
  if letters.isEmpty then return none
  else match Regular.parse isExtended (String.ofList letters) with
    | .ok regular => return some regular
    | .error fault => throw (.badRegular (fault.message isExtended))

/-- Reads an address between signs. -/
def fitsAddress (isExtended : Bool) (sign : Char) : ReadingEdit (Option Address) := do
  let text ← delimited sign .unterminatedAddress
  let found ← regular isExtended text
  match ← get with
  | 'I' :: rest => do
      set rest
      return some (.fits found true)
  | _ => return some (.fits found false)

/-- Reads an address, if there is one. -/
def address (isExtended : Bool) : ReadingEdit (Option Address) := do
  match ← get with
  | '$' :: _ => do
      skip 1
      return some .last
  | '/' :: _ => do
      skip 1
      fitsAddress isExtended '/'
  | '\\' :: sign :: _ => do
      skip 2
      fitsAddress isExtended sign
  | '+' :: rest => do
      set rest
      return (← number).map .count
  | _ => do
      match ← number with
      | none => return none
      | some first =>
          match ← get with
          | '~' :: rest => do
              set rest
              return some (.every first ((← number).getD 0))
          | _ => return some (.line first)

/-- Reads what a command is limited to. -/
def selection (isExtended : Bool) : ReadingEdit Selection := do
  let first ← address isExtended
  blanks
  let second ← match first, ← get with
    | some _, ',' :: rest => do
        set rest
        blanks
        match ← address isExtended with
        | some second => pure (some second)
        | none => do
            skip 1
            throw .unexpectedComma
    | _, _ => pure none
  blanks
  let signs ← takeWhile fun letter => letter == '!' || letter == ' '
  return ⟨first, second, signs.contains '!'⟩

/-- The parts of a replacement; a backslash has been kept with the letter after it. -/
def replacementParts (isEscaped : Bool) : List Char → List ReplacementPart
  | [] => []
  | letter :: rest =>
      if isEscaped then
        let part : ReplacementPart :=
          if letter.isDigit then .group (digitsValue 10 0 [letter])
          else if letter = '\n' || letter = '&' || letter = '\\' then .letter letter
          else .letter ((escapes.lookup letter).getD letter)
        part :: replacementParts false rest
      else if letter = '\\' then replacementParts true rest
      else if letter = '&' then .group 0 :: replacementParts false rest
      else .letter letter :: replacementParts false rest

/-- Reads the options of a replacement. -/
def substitutionOptions (fuel : Nat) (substitution : Substitution) : ReadingEdit Substitution := do
  match fuel with
  | 0 => return substitution
  | left + 1 =>
      match ← get with
      | 'g' :: rest => do
          set rest
          substitutionOptions left { substitution with isGlobal := true }
      | 'p' :: rest => do
          set rest
          substitutionOptions left { substitution with isShown := true }
      | 'i' :: rest | 'I' :: rest => do
          set rest
          substitutionOptions left { substitution with ignoresCase := true }
      | 'w' :: rest => do
          set rest
          blanks
          let path ← takeWhile (· != '\n')
          return { substitution with file := some (String.ofList path) }
      | letter :: _ =>
          if letter.isDigit then
            substitutionOptions left { substitution with from_ := (← number).getD 1 }
          else if " \t\n;\x7d#".toList.contains letter then return substitution
          else do
            skip 1
            throw .unknownOption
      | [] => return substitution

/-- The largest group that parts of a replacement name. -/
def greatestGroup (parts : List ReplacementPart) : Nat :=
  (parts.map fun part =>
    match part with
    | .group number => number
    | .letter _ => 0).foldl max 0

/-- The number of groups of a regular expression. -/
def groupCount : Regular → Nat
  | .sequence first second | .either first second => max (groupCount first) (groupCount second)
  | .repeated _ _ body => groupCount body
  | .group number body => max number (groupCount body)
  | _ => 0

/-- Reads a replacement. -/
def substitution (isExtended : Bool) : ReadingEdit EditAction := do
  match ← get with
  | [] => throw (.unterminated 's')
  | sign :: rest => do
      set rest
      let pattern ← delimited sign (.unterminated 's')
      let target ← plainDelimited sign (.unterminated 's')
      let found ← regular isExtended pattern
      let parts := replacementParts false target
      let wanted := greatestGroup parts
      if (found.map fun found => decide (groupCount found < wanted)).getD false then
        throw (.badReference wanted)
      let start : Substitution := ⟨found, false, parts, 1, false, false, none⟩
      return .substitute (← substitutionOptions ((← get).length + 1) start)

/-- Reads the exchange of letters. -/
def exchange : ReadingEdit EditAction := do
  match ← get with
  | [] => throw (.unterminated 'y')
  | sign :: rest => do
      set rest
      let plain (letters : List Char) : List Char := (unescape 0 letters).1
      let source := plain (← plainDelimited sign (.unterminated 'y'))
      let target := plain (← plainDelimited sign (.unterminated 'y'))
      if source.length = target.length then return .exchange source target
      else throw .unequalLengths

/-- The lines of a text that go on where a backslash stands before the end of a line; tells what follows them. -/
def continuedText : List Char → List Char × List Char
  | [] => ([], [])
  | '\\' :: letter :: rest =>
      let (text, after) := continuedText rest
      (letter :: text, after)
  | '\n' :: rest => ([], rest)
  | letter :: rest =>
      let (text, after) := continuedText rest
      (letter :: text, after)

/-- Reads the text of a command. -/
def text : ReadingEdit String := do
  blanks
  match ← get with
  | [] => throw .expectedText
  | '\\' :: rest => do
      set rest
      blanks
      match ← get with
      | '\n' :: more => set more
      | _ => pure ()
  | _ => pure ()
  let (letters, rest) := continuedText (← get)
  set rest
  return String.ofList letters ++ "\n"

/-- Reads a word up to the end of a command. -/
def word : ReadingEdit String := do
  blanks
  let letters ← takeWhile fun letter => letter != '\n' && letter != ';' && letter != '\x7d'
  return String.ofList ((letters.reverse.dropWhile (· == ' ')).reverse)

/-- Reads a path, which goes on to the end of the line. -/
def path : ReadingEdit String := do
  blanks
  return String.ofList (← takeWhile (· != '\n'))

/-- Checks that a command has come to its end. -/
def ended : ReadingEdit Unit := do
  blanks
  match ← get with
  | [] => return
  | letter :: _ =>
      if "\n;\x7d#".toList.contains letter then return
      else
        skip 1
        throw .extraCharacters

/-- Reads what a command does. -/
def action (isExtended : Bool) (letter : Char) : ReadingEdit EditAction := do
  match letter with
  | '\x7b' => return .open_
  | '\x7d' => do
      ended
      return .close
  | ':' => return .label (← word)
  | 's' => do
      let found ← substitution isExtended
      ended
      return found
  | 'y' => do
      let found ← exchange
      ended
      return found
  | 'a' => return .append (← text)
  | 'i' => return .insert (← text)
  | 'c' => return .change (← text)
  | 'r' => return .read (← path)
  | 'w' => return .write (← path)
  | 'b' => return .branch (← word)
  | 't' => return .branchIfReplaced (← word)
  | 'T' => return .branchUnlessReplaced (← word)
  | 'q' => do
      blanks
      return .quit ((← number).getD 0)
  | 'Q' => do
      blanks
      return .quitSilently ((← number).getD 0)
  | _ =>
      if "pPdDnNhHgGx=lz".toList.contains letter then do
        ended
        return .plain letter
      else throw (.unknownCommand letter)

/-- Reads commands up to the end. -/
def commands (isExtended : Bool) (fuel : Nat) : ReadingEdit (List EditCommand) := do
  match fuel with
  | 0 => return []
  | left + 1 => do
      let _ ← takeWhile fun letter => " \t\n;".toList.contains letter
      match ← get with
      | [] => return []
      | '#' :: _ => do
          let _ ← takeWhile (· != '\n')
          commands isExtended left
      | _ => do
          let selection ← selection isExtended
          match ← get with
          | [] => throw .missingCommand
          | letter :: rest => do
              set rest
              let action ← action isExtended letter
              return ⟨selection, action⟩ :: (← commands isExtended left)

end ReadingEdit

/-- How deep braces are open after commands; nothing if one is closed that is not open. -/
def braceDepth? (commands : List EditCommand) : Option Nat :=
  commands.foldlM (fun depth command =>
    match command.action with
    | .open_ => some (depth + 1)
    | .close => if depth = 0 then none else some (depth - 1)
    | _ => some depth) 0

/-- The place of a label. -/
def labelPlace? (commands : List EditCommand) (name : String) : Option Nat :=
  commands.findIdx? fun command =>
    match command.action with
    | .label other => other == name
    | _ => false

/-- The label that a command leads to and that is not there. -/
def missingLabel? (commands : List EditCommand) : Option String :=
  commands.findSome? fun command =>
    match command.action with
    | .branch name | .branchIfReplaced name | .branchUnlessReplaced name =>
        if name.isEmpty || (labelPlace? commands name).isSome then none else some name
    | _ => none

/-- Why an edit script cannot be read, with the number of letters that have been read; labels are looked for at the end. -/
structure EditComplaint where
  fault : EditFault
  place : Option Nat
  deriving DecidableEq

/-- The wording of a complaint about an edit script. -/
def EditComplaint.message (complaint : EditComplaint) : String :=
  match complaint.place with
  | some place =>
      "-e expression #1, char " ++ toString place ++ ": " ++ complaint.fault.message
  | none => complaint.fault.message

/-- Reads an edit script. -/
def readEditScript (isExtended : Bool) (text : String) : Except EditComplaint (List EditCommand) :=
  let letters := text.toList
  match (ReadingEdit.commands isExtended (letters.length + 1)).run.run letters with
  | (.error fault, rest) => .error ⟨fault, some (letters.length - rest.length)⟩
  | (.ok commands, _) =>
      match braceDepth? commands, missingLabel? commands with
      | none, _ => .error ⟨.unmatched '\x7d', some 0⟩
      | some (_ + 1), _ => .error ⟨.unmatched '\x7b', some 0⟩
      | some 0, some name => .error ⟨.missingLabel name, none⟩
      | some 0, none => .ok commands

end Script
end TileProgram
