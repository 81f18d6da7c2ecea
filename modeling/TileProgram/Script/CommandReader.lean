import TileProgram.Script.WordReader

/-!
# Reading commands

Commands are read line by line, so that what stands before a fault can be run.
Keywords only count where a command can begin.
-/

namespace TileProgram
namespace Script

/-- The commands whose names functions cannot have. -/
def specialNames : List String :=
  [ ".", ":", "break", "continue", "eval", "exec", "exit", "export", "local", "readonly", "return",
    "set", "shift", "times", "trap", "unset" ]

namespace Reading

/-- The next token, which stays to be read. -/
def peek (nested : Nested) : Reading Token := do
  match (← get).waiting with
  | some token => return token
  | none => do
      let token ← readToken nested
      modify fun source => { source with waiting := some token }
      return token

/-- Passes over the token that has been looked at. -/
def drop : Reading Unit :=
  modify fun source => { source with waiting := none }

/-- Reads a token. -/
def next (nested : Nested) : Reading Token := do
  let token ← peek nested
  drop
  return token

/-- Passes over ends of lines, at most a given number of them. -/
def skipLines (nested : Nested) : Nat → Reading Unit
  | 0 => return
  | left + 1 => do
      match ← peek nested with
      | .newline => do
          drop
          skipLines nested left
      | _ => return

/-- Complains about a token. -/
def refuse (found : String) (expected : Option String) : Reading Value :=
  fail (.unexpected found expected)

/-- Reads a keyword. -/
def expect (nested : Nested) (keyword : String) : Reading Unit := do
  let token ← next nested
  if token.keyword? == some keyword then return
  else refuse token.nameAtStart (some keyword)

/-- Reads a closing parenthesis. -/
def expectClose (nested : Nested) : Reading Unit := do
  match ← next nested with
  | .close => return
  | token => refuse token.nameAtStart (some ")")

end Reading

/-- Whether a token can end a list of commands inside a construct. -/
def endsList (token : Token) : Bool :=
  match token with
  | .ending | .close | .armEnd => true
  | _ =>
      match token.keyword? with
      | some word =>
          ["do", "done", "elif", "else", "esac", "fi", "then", "\x7d"].contains word
      | none => false

/-- Reads what a sign of redirection leads to. -/
def readRedirection (nested : Nested) (channel : Option Nat) (sign : Sign) :
    Reading Redirection := do
  match ← Reading.next nested with
  | .word word =>
      match sign with
      | .flow flow =>
          let usual := match flow with
            | .input | .both => 0
            | _ => 1
          return .redirection (channel.getD usual) flow word
      | .copyInput => return .redirection (channel.getD 0) .copy word
      | .copyOutput => return .redirection (channel.getD 1) .copy word
      | .document isStripped =>
          return .redirection (channel.getD 0) .document (← readDocument nested isStripped word)
  | token => Reading.refuse token.name none

/-- Reads redirections after a construct, at most a given number of them. -/
def readRedirections (nested : Nested) : Nat → Reading (List Redirection)
  | 0 => return []
  | left + 1 => do
      match ← Reading.peek nested with
      | .redirection channel sign => do
          Reading.drop
          let first ← readRedirection nested channel sign
          return first :: (← readRedirections nested left)
      | _ => return []

/-- The parts of a simple command that have been read. -/
structure Draft where
  assignments : List (String × Word)
  words : List Word
  redirections : List Redirection

/-- The text that stands for a token that is an alias and no keyword. -/
def alias? (source : Source) (token : Token) : Option (String × String) :=
  if token.keyword?.isSome then none
  else token.plain?.bind fun name => (source.aliases.lookup name).map fun text => (name, text)

/-- Whether a text ends with a blank. -/
def endsBlank (text : String) : Bool :=
  let last := text.toList.getLast?
  last == some ' ' || last == some '\t'

/-- Replaces aliases at the next token by what they stand for, at most a given number of times; while that is read they are no aliases.  What follows a text that ends with a blank may be an alias too. -/
def unfoldAlias (nested : Nested) : Nat → Reading Unit
  | 0 => return
  | left + 1 => do
      let token ← Reading.peek nested
      if let some (name, text) := alias? (← get) token then
        modify fun source =>
          { source with
            waiting := none
            letters := text.toList ++ ' ' :: source.letters
            aliases := source.aliases.filter fun entry => entry.1 != name
            aliasEnd := if endsBlank text then some source.letters.length else source.aliasEnd }
        unfoldAlias nested left

/-- Replaces aliases at the next token. -/
def unfoldAliases (nested : Nested) : Reading Unit := do
  unfoldAlias nested (← get).aliases.length

/-- Replaces aliases at the next token if that follows a text that says so. -/
def unfoldNext (nested : Nested) : Reading Unit := do
  let source ← get
  if let some limit := source.aliasEnd then
    if (source.letters.drop (blankLength source.letters)).length ≤ limit then
      set { source with aliasEnd := none }
      unfoldAliases nested

/-- Reads the words, assignments and redirections of a simple command, at most a given number of them. -/
def readSimple (nested : Nested) (draft : Draft) : Nat → Reading Draft
  | 0 => Reading.fail .tooDeep
  | left + 1 => do
      match ← Reading.peek nested with
      | .redirection channel sign => do
          Reading.drop
          let more ← readRedirection nested channel sign
          readSimple nested { draft with redirections := draft.redirections ++ [more] } left
      | .word word => do
          Reading.drop
          match if draft.words.isEmpty then Word.assignment? word else none with
          | some assignment =>
              let assignments := draft.assignments ++ [assignment]
              readSimple nested { draft with assignments := assignments } left
          | none => do
              unfoldNext nested
              readSimple nested { draft with words := draft.words ++ [word] } left
      | _ => return draft

/-- The name of the function that a draft before a parenthesis begins to define. -/
def functionName? (draft : Draft) : Option Word :=
  match draft with
  | ⟨[], [name], []⟩ => some name
  | _ => none

/-- Reads the words of an iteration. -/
def readItems (nested : Nested) : Nat → Reading (List Word)
  | 0 => Reading.fail .tooDeep
  | left + 1 => do
      match ← Reading.peek nested with
      | .word word => do
          Reading.drop
          return word :: (← readItems nested left)
      | _ => return []

/-- Reads the patterns of an arm up to the closing parenthesis. -/
def readPatterns (nested : Nested) : Nat → Reading (List Word)
  | 0 => Reading.fail .tooDeep
  | left + 1 => do
      match ← Reading.next nested with
      | .word word => do
          match ← Reading.next nested with
          | .pipe => return word :: (← readPatterns nested left)
          | .close => return [word]
          | token => Reading.refuse token.name (some ")")
      | token => Reading.refuse token.name (some ")")

/-- All arguments, each a word. -/
def allArguments : Word :=
  [.parameter .each .value false [] true]

/-- Reads the head of an iteration: its name and its words. -/
def readIterationHead (nested : Nested) (fuel : Nat) : Reading (String × List Word) := do
  let token ← Reading.next nested
  match token.plain?.filter fun name => isName name.toList with
  | none => Reading.fail .badVariable
  | some name => do
      Reading.skipLines nested fuel
      let token ← Reading.peek nested
      if token.keyword? == some "in" then
        Reading.drop
        let items ← readItems nested fuel
        match ← Reading.next nested with
        | .newline | .semicolon => return (name, items)
        | other => Reading.refuse other.name none
      else
        match token with
        | .semicolon => do
            Reading.drop
            return (name, [allArguments])
        | _ => return (name, [allArguments])

mutual

/-- The readers for what stands in substitutions. -/
def nestedReaders (fuel : Nat) : Nested :=
  match fuel with
  | 0 => ⟨Reading.fail .tooDeep, Reading.fail .tooDeep⟩
  | left + 1 =>
      ⟨fun source => (readEnclosed left).run source, fun source => (readWhole left).run source⟩

/-- Reads commands up to a closing parenthesis. -/
def readEnclosed (fuel : Nat) : Reading Command := do
  match fuel with
  | 0 => Reading.fail .tooDeep
  | left + 1 =>
      let body ← readList left true .nothing
      Reading.expectClose (nestedReaders left)
      return body

/-- Reads commands up to the end of the text. -/
def readWhole (fuel : Nat) : Reading Command := do
  match fuel with
  | 0 => Reading.fail .tooDeep
  | left + 1 =>
      let body ← readList left true .nothing
      match ← Reading.next (nestedReaders left) with
      | .ending => return body
      | token => Reading.refuse token.nameAtStart none

/-- Reads a list of commands inside a construct, after those that have been read; it may be empty if that is allowed. -/
def readList (fuel : Nat) (allowsEmpty : Bool) (before : Command) : Reading Command := do
  match fuel with
  | 0 => Reading.fail .tooDeep
  | left + 1 =>
      let nested := nestedReaders left
      Reading.skipLines nested fuel
      let token ← Reading.peek nested
      let isOver := match token with
        | .ending => true
        | _ => allowsEmpty && endsList token
      if isOver then return before
      else
        let (command, goesOn) ← readItem left
        let all := before.followedBy command
        if goesOn then readList left true all else return all

/-- Reads a command of a list with the sign after it; tells whether that lets the list go on. -/
def readItem (fuel : Nat) : Reading (Command × Bool) := do
  match fuel with
  | 0 => Reading.fail .tooDeep
  | left + 1 =>
      let nested := nestedReaders left
      let command ← readJoined left
      match ← Reading.peek nested with
      | .background => do
          Reading.drop
          return (.background command, true)
      | .semicolon => do
          Reading.drop
          return (command, true)
      | .newline => return (command, true)
      | _ => return (command, false)

/-- Reads commands joined by conditions. -/
def readJoined (fuel : Nat) : Reading Command := do
  match fuel with
  | 0 => Reading.fail .tooDeep
  | left + 1 => readJoints left (← readPipeline left)

/-- Reads what is joined to a command. -/
def readJoints (fuel : Nat) (first : Command) : Reading Command := do
  match fuel with
  | 0 => Reading.fail .tooDeep
  | left + 1 =>
      let nested := nestedReaders left
      let joint ← Reading.peek nested
      let found := match joint with
        | .both => some Joint.ifSuccessful
        | .either => some Joint.ifFailed
        | _ => none
      match found with
      | none => return first
      | some joint => do
          Reading.drop
          Reading.skipLines nested fuel
          readJoints left (.joined joint first (← readPipeline left))

/-- Reads commands that pass their output on. -/
def readPipeline (fuel : Nat) : Reading Command := do
  match fuel with
  | 0 => Reading.fail .tooDeep
  | left + 1 =>
      let nested := nestedReaders left
      let isNegated := (← Reading.peek nested).keyword? == some "!"
      if isNegated then Reading.drop
      let parts ← readParts left
      let pipeline := match parts with
        | [part] => part
        | _ => .pipeline parts
      return if isNegated then .negated pipeline else pipeline

/-- Reads the commands of a pipeline. -/
def readParts (fuel : Nat) : Reading (List Command) := do
  match fuel with
  | 0 => Reading.fail .tooDeep
  | left + 1 =>
      let nested := nestedReaders left
      let first ← readCommand left
      match ← Reading.peek nested with
      | .pipe => do
          Reading.drop
          Reading.skipLines nested fuel
          return first :: (← readParts left)
      | _ => return [first]

/-- Reads a command. -/
def readCommand (fuel : Nat) : Reading Command := do
  match fuel with
  | 0 => Reading.fail .tooDeep
  | left + 1 =>
      let nested := nestedReaders left
      unfoldAliases nested
      let token ← Reading.peek nested
      let line := (← get).line
      match token, token.keyword? with
      | .open_, _ => do
          Reading.drop
          let body ← readList left false .nothing
          Reading.expectClose nested
          redirect nested line (.subshell line body)
      | _, some keyword => do
          Reading.drop
          let construct ← readConstruct left line keyword
          redirect nested line construct
      | .word _, none => readSimpleCommand left line
      | .redirection _ _, none => readSimpleCommand left line
      | _, none => Reading.refuse token.nameAtStart none
where
  /-- Adds the redirections that follow a construct. -/
  redirect (nested : Nested) (line : Nat) (construct : Command) : Reading Command := do
    match ← readRedirections nested fuel with
    | [] => return construct
    | redirections => return .redirected line construct redirections

/-- Reads a construct after the keyword that begins it. -/
def readConstruct (fuel line : Nat) (keyword : String) : Reading Command := do
  match fuel with
  | 0 => Reading.fail .tooDeep
  | left + 1 =>
      let nested := nestedReaders left
      match keyword with
      | "if" => readBranches left
      | "while" | "until" => do
          let condition ← readList left false .nothing
          Reading.expect nested "do"
          let body ← readList left false .nothing
          Reading.expect nested "done"
          return .loop (keyword == "until") condition body
      | "for" => do
          let (name, items) ← readIterationHead nested fuel
          Reading.skipLines nested fuel
          Reading.expect nested "do"
          let body ← readList left false .nothing
          Reading.expect nested "done"
          return .iteration line name items body
      | "case" => do
          match ← Reading.next nested with
          | .word subject => do
              Reading.skipLines nested fuel
              Reading.expect nested "in"
              return .choice line subject (← readArms left)
          | token => Reading.refuse token.name (some "word")
      | "\x7b" => do
          let body ← readList left false .nothing
          Reading.expect nested "\x7d"
          return body
      | _ => Reading.refuse ("\"" ++ keyword ++ "\"") none

/-- Reads the condition of a branch and what follows it. -/
def readBranches (fuel : Nat) : Reading Command := do
  match fuel with
  | 0 => Reading.fail .tooDeep
  | left + 1 =>
      let nested := nestedReaders left
      let condition ← readList left false .nothing
      Reading.expect nested "then"
      let consequence ← readList left false .nothing
      let token ← Reading.next nested
      match token.keyword? with
      | some "elif" => return .branch condition consequence (← readBranches left)
      | some "else" => do
          let alternative ← readList left false .nothing
          Reading.expect nested "fi"
          return .branch condition consequence alternative
      | some "fi" => return .branch condition consequence .nothing
      | _ => Reading.refuse token.nameAtStart (some "fi")

/-- Reads the arms of a choice. -/
def readArms (fuel : Nat) : Reading (List (List Word × Command)) := do
  match fuel with
  | 0 => Reading.fail .tooDeep
  | left + 1 =>
      let nested := nestedReaders left
      Reading.skipLines nested fuel
      let token ← Reading.peek nested
      if token.keyword? == some "esac" then
        Reading.drop
        return []
      else
        match token with
        | .open_ => Reading.drop
        | _ => pure ()
        let patterns ← readPatterns nested fuel
        let body ← readList left true .nothing
        let arm := (patterns, body)
        let token ← Reading.next nested
        match token, token.keyword? with
        | .armEnd, _ => return arm :: (← readArms left)
        | _, some "esac" => return [arm]
        | _, _ => Reading.refuse token.nameAtStart (some ";;")

/-- Reads a simple command or the definition of a function. -/
def readSimpleCommand (fuel line : Nat) : Reading Command := do
  match fuel with
  | 0 => Reading.fail .tooDeep
  | left + 1 =>
      let nested := nestedReaders left
      let draft ← readSimple nested ⟨[], [], []⟩ fuel
      match ← Reading.peek nested, functionName? draft with
      | .open_, some word => do
          Reading.drop
          Reading.expectClose nested
          match Word.plain? word with
          | some name =>
              if isName name.toList && !specialNames.contains name then
                let line := (← get).line
                Reading.skipLines nested fuel
                return .definition line name (← readCommand left)
              else Reading.fail .badFunction
          | none => Reading.fail .badFunction
      | _, _ => return .simple line draft.assignments draft.words draft.redirections

end

/-- Reads commands up to the end of a line, after those that have been read; at the end of the script there may be none. -/
def readLine (fuel : Nat) (before : Option Command) : Reading (Option Command) := do
  match fuel with
  | 0 => Reading.fail .tooDeep
  | left + 1 =>
      let nested := nestedReaders left
      match ← Reading.peek nested with
      | .newline => do
          Reading.drop
          return some (before.getD .nothing)
      | .ending => return before
      | _ => do
          let (command, goesOn) ← readItem left
          let all := some ((before.getD .nothing).followedBy command)
          if goesOn then readLine left all
          else
            match ← Reading.peek nested with
            | .ending => return all
            | token => Reading.refuse token.nameAtStart none

/-- What reading a line gives: commands with the source after them, nothing at the end of the script, or a fault. -/
def Source.readLine (source : Source) : Except Fault (Option (Command × Source)) :=
  let fuel := 8 * source.letters.length + 64
  match (Script.readLine fuel none).run { source with waiting := none } with
  | .ok (some command, rest) => .ok (some (command, rest))
  | .ok (none, _) => .ok none
  | .error fault => .error fault

end Script
end TileProgram
