import TileProgram.Script.Arithmetic
import TileProgram.Script.Pattern
import TileProgram.Script.State

/-!
# Filling in words

Before a command is run its words are turned into fields.  Parameters,
substitutions and arithmetic are filled in; what they give outside quotes is
split at separators; and a field with the signs of a pattern stands for the
files whose names fit.
-/

namespace TileProgram
namespace Script

open Files (Action)

/-- A part of a word after it has been filled in.  Letters outside quotes that were filled in can separate fields; a mark makes a field even if it holds nothing; at a gap a field always ends. -/
inductive Atom where
  | letter (letter : Char) (isQuoted : Bool) (isFilledIn : Bool)
  | mark
  | gap
  deriving DecidableEq

/-- The atoms of a text that is filled in. -/
def filledIn (isQuoted : Bool) (text : String) : List Atom :=
  text.toList.map fun letter => .letter letter isQuoted (!isQuoted)

/-! ## Fields -/

/-- The fields that have been found, last one first; the letters of the one that is being built, last one first; and whether blanks have just ended one. -/
structure Fields where
  finished : List (List Mark)
  current : Option (List Mark)
  isAfterBlank : Bool

namespace Fields

/-- Adds a letter. -/
def add (fields : Fields) (mark : Mark) : Fields :=
  { fields with current := some (mark :: fields.current.getD []), isAfterBlank := false }

/-- Ends the field that is being built, if one has begun. -/
def finish (fields : Fields) : Fields :=
  match fields.current with
  | some letters => ⟨letters.reverse :: fields.finished, none, false⟩
  | none => fields

/-- Adds a separator.  Blanks end a field; another separator ends one even if it is empty, unless blanks have just done so. -/
def separate (fields : Fields) (letter : Char) : Fields :=
  if " \t\n".toList.contains letter then
    match fields.current with
    | some _ => { fields.finish with isAfterBlank := true }
    | none => fields
  else
    match fields.current with
    | some _ => fields.finish
    | none =>
        if fields.isAfterBlank then { fields with isAfterBlank := false }
        else { fields with finished := [] :: fields.finished }

/-- Adds an atom. -/
def step (separators : List Char) (fields : Fields) (atom : Atom) : Fields :=
  match atom with
  | .letter letter isQuoted isFilledIn =>
      if isFilledIn && separators.contains letter then fields.separate letter
      else fields.add (letter, isQuoted)
  | .mark => { fields with current := some (fields.current.getD []) }
  | .gap => { fields.finish with isAfterBlank := false }

/-- The fields of atoms. -/
def ofAtoms (separators : List Char) (atoms : List Atom) : List (List Mark) :=
  (atoms.foldl (step separators) ⟨[], none, false⟩).finish.finished.reverse

end Fields

/-- The letters of atoms that are not split; gaps are filled with a separator. -/
def joinedMarks (separators : List Char) (atoms : List Atom) : List Mark :=
  atoms.flatMap fun atom =>
    match atom with
    | .letter letter isQuoted _ => [(letter, isQuoted)]
    | .mark => []
    | .gap => (separators.take 1).map fun letter => (letter, true)

/-! ## Names of files -/

/-- Splits marked letters at slashes. -/
def splitMarks : List Mark → List (List Mark)
  | [] => [[]]
  | mark :: rest =>
      if mark.1 = '/' then [] :: splitMarks rest
      else match splitMarks rest with
        | [] => [[mark]]
        | part :: parts => (mark :: part) :: parts

/-- The letters that elements stand for if each of them fits one letter only. -/
def literalOf (pattern : List Element) : String :=
  String.ofList (pattern.filterMap fun element =>
    match element with
    | .exactly letter => some letter
    | _ => none)

/-- Whether a pattern begins with a point, so that hidden names can fit. -/
def fitsHidden (pattern : List Element) : Bool :=
  pattern.head? == some (.exactly '.')

/-- The names in a directory that fit a pattern. -/
def fittingNames (directory : String) (pattern : List Element) : Running (List String) := do
  match ← Running.onPath Action.list directory with
  | .error _ => return []
  | .ok names =>
      let all := "." :: ".." :: names.map octetsOfText
      return all.filter fun name =>
        (name.toList.head? != some '.' || fitsHidden pattern) && fitsAll pattern name.toList

/-- The paths that begin with a text and go on with parts that fit. -/
def fittingPaths (before : String) : List (List Mark) → Running (List String)
  | [] => return [before]
  | part :: rest => do
      let pattern := elements 0 part
      let isLast := rest.isEmpty
      if isOpenPattern pattern then
        let directory := if before.isEmpty then "." else before
        let names ← fittingNames directory pattern
        let found ← names.mapM fun name => do
          if isLast then return [before ++ name]
          else
            match ← Running.kind (before ++ name) with
            | .ok .directory => fittingPaths (before ++ name ++ "/") rest
            | _ => return []
        return found.flatten
      else
        let next := before ++ literalOf pattern
        if !isLast then fittingPaths (next ++ "/") rest
        else
          match ← Running.kind next with
          | .ok _ => return [next]
          | .error _ => return []

/-- The paths that a field stands for: those that fit if it is a pattern that some fit, otherwise itself. -/
def pathsOf (field : List Mark) : Running (List String) := do
  let text := textOfMarks field
  if (← Running.hasOption 'f') || !isOpenPattern (elements 0 field) then return [text]
  else
    match ← fittingPaths "" (splitMarks field) with
    | [] => return [text]
    | paths => return sortTexts paths

/-! ## Parameters -/

/-- The name of a parameter in complaints. -/
def Parameter.name : Parameter → String
  | .argument number => toString number
  | .each => "@"
  | .joined => "*"
  | .count => "#"
  | .status => "?"
  | .options => "-"
  | .process => "$"
  | .background => "!"
  | .variable name => name

/-- The value of a parameter that is one text. -/
def parameterValue? (which : Parameter) : Running (Option String) := do
  let shell ← Running.shell
  match which with
  | .argument 0 => return some shell.name
  | .argument (number + 1) => return shell.arguments[number]?
  | .count => return some (toString shell.arguments.length)
  | .status => return some (toString shell.status)
  | .options => return some (String.ofList (shell.options.filter (' ' < ·)))
  | .process => return some (toString shell.process)
  | .background => return shell.lastBackground.map toString
  | .variable name => Running.value? name
  | .each | .joined =>
      if shell.arguments.isEmpty then return none
      else
        let separator := String.ofList ((← Running.separators).take 1)
        return some (separator.intercalate shell.arguments)

/-- The atoms of all arguments, each in fields of its own. -/
def argumentAtoms (isQuoted : Bool) (arguments : List String) : List Atom :=
  let one (text : String) : List Atom :=
    if isQuoted then .mark :: filledIn true text else filledIn false text
  [Atom.gap].intercalate (arguments.map one)

/-- The atoms of the value of a parameter. -/
def valueAtoms (which : Parameter) (isQuoted : Bool) (value : String) : Running (List Atom) := do
  match which, isQuoted with
  | .each, _ => return argumentAtoms isQuoted (← Running.shell).arguments
  | .joined, false => return argumentAtoms false (← Running.shell).arguments
  | _, _ => return filledIn isQuoted value

/-- Complains that a parameter has no value. -/
def refuseUnset (which : Parameter) : Running Value :=
  Running.fail (which.name ++ ": parameter not set")

/-- Sets a parameter, which has to be a variable. -/
def assignParameter (which : Parameter) (value : String) : Running Unit := do
  match which with
  | .variable name => Running.setVariable name value
  | _ => Running.fail (which.name ++ ": bad variable name")

/-! ## Words -/

/-- How substitutions are run: the bytes that commands write. -/
abbrev Substitute := Command → Running Bytes

/-- A text without the ends of lines at its end. -/
def withoutLastLines (text : String) : String :=
  String.ofList ((text.toList.reverse.dropWhile (· == '\n')).reverse)

/-- The part of a path that stands for a home directory, with what follows it. -/
def homeOf (word : Word) : Running (Option (String × Word)) := do
  let isEnd (piece : Piece) : Bool :=
    match piece with
    | .letter '/' false | .letter ':' false => true
    | _ => false
  match word with
  | .letter '~' false :: rest =>
      let (user, others) := rest.span fun piece => !isEnd piece
      match Word.plain? user with
      | some "" => return (← Running.value? "HOME").map fun home => (home, others)
      | some "root" => return some ("/root", others)
      | _ => return none
  | _ => return none

/-- The number that the text of an expression stands for. -/
def arithmeticText (text : String) : Running String := do
  let shell ← Running.shell
  let value (name : String) : String :=
    ((shell.bindings.lookup name).bind Variable.value).getD ""
  match arithmetic value text with
  | .error fault => Running.fail (fault.message text)
  | .ok (result, assigned) => do
      for (name, value) in assigned.reverse do
        Running.setVariable name (toString value)
      return toString result

/-- The letters that a word with atoms stands for if it is not split. -/
def wholeMarks (atoms : List Atom) : Running (List Mark) := do
  return joinedMarks (← Running.separators) atoms

mutual

/-- The atoms of a piece; a piece in the word of a parameter outside quotes counts as filled in. -/
def pieceAtoms (substitute : Substitute) (fuel : Nat) (isInner : Bool) (piece : Piece) :
    Running (List Atom) := do
  match fuel with
  | 0 => throw .exhausted
  | left + 1 =>
      match piece with
      | .letter letter isQuoted => return [.letter letter isQuoted (isInner && !isQuoted)]
      | .nothing => return [.mark]
      | .substitution body isQuoted => do
          let bytes ← substitute body
          let text := octets (bytes.filter (· != 0))
          return filledIn isQuoted (withoutLastLines text)
      | .arithmetic expression isQuoted => do
          let atoms ← wordAtoms substitute left false expression
          let text := textOfMarks (← wholeMarks atoms)
          return filledIn isQuoted (← arithmeticText text)
      | .parameter which operation countsEmpty word isQuoted => do
          let value ← parameterValue? which
          let present := value.filter fun text => !(countsEmpty && text.isEmpty)
          let isStrict := (← Running.hasOption 'u') && which != .each && which != .joined
          let require : Running String := do
            match value with
            | some text => return text
            | none => if isStrict then refuseUnset which else return ""
          let wholeWord : Running (List Mark) := do
            wholeMarks (← wordAtoms substitute left false word)
          match operation with
          | .value => do valueAtoms which isQuoted (← require)
          | .length => do return filledIn isQuoted (toString (← require).length)
          | .default_ =>
              match present with
              | some text => valueAtoms which isQuoted text
              | none => wordAtoms substitute left (!isQuoted) word
          | .replace =>
              match present with
              | some _ => wordAtoms substitute left (!isQuoted) word
              | none => return []
          | .assign =>
              match present with
              | some text => valueAtoms which isQuoted text
              | none => do
                  let text := textOfMarks (← wholeWord)
                  assignParameter which text
                  return filledIn isQuoted text
          | .require =>
              match present with
              | some text => valueAtoms which isQuoted text
              | none => do
                  let usual := "parameter not set" ++ (if countsEmpty then " or null" else "")
                  let words := textOfMarks (← wholeWord)
                  let words := if word.isEmpty then usual else words
                  Running.fail (which.name ++ ": " ++ words)
          | .withoutStart isLongest => do
              let text ← require
              let pattern := elements 0 (← wholeWord)
              let rest := Script.withoutStart isLongest pattern text.toList
              return filledIn isQuoted (String.ofList rest)
          | .withoutEnd isLongest => do
              let text ← require
              let pattern := elements 0 (← wholeWord)
              let rest := Script.withoutEnd isLongest pattern text.toList
              return filledIn isQuoted (String.ofList rest)
          | .unknown => Running.fail "Bad substitution"

/-- The atoms of a word. -/
def wordAtoms (substitute : Substitute) (fuel : Nat) (isInner : Bool) (word : Word) :
    Running (List Atom) := do
  match fuel with
  | 0 => throw .exhausted
  | left + 1 => do
      let (home, rest) ← do
        match ← homeOf word with
        | some (home, rest) => pure (filledIn true home, rest)
        | none => pure ([], word)
      let parts ← rest.mapM (pieceAtoms substitute left isInner)
      return home ++ parts.flatten

end

/-- How deep the words of parameters can be nested. -/
def wordDepth : Nat := 1000

/-- The fields of a word. -/
def fieldsOf (substitute : Substitute) (word : Word) : Running (List String) := do
  let atoms ← wordAtoms substitute wordDepth false word
  let fields := Fields.ofAtoms (← Running.separators) atoms
  return (← fields.mapM pathsOf).flatten

/-- The letters of a word that is not split. -/
def marksOf (substitute : Substitute) (word : Word) : Running (List Mark) := do
  wholeMarks (← wordAtoms substitute wordDepth false word)

/-- The text of a word that is not split. -/
def textOf (substitute : Substitute) (word : Word) : Running String := do
  return textOfMarks (← marksOf substitute word)

/-- Splits a word at colons outside quotes. -/
def splitAtColons : Word → List Word
  | [] => [[]]
  | .letter ':' false :: rest => [] :: splitAtColons rest
  | piece :: rest =>
      match splitAtColons rest with
      | [] => [[piece]]
      | part :: parts => (piece :: part) :: parts

/-- The text of a word that is assigned; home directories may also follow colons. -/
def assignedText (substitute : Substitute) (word : Word) : Running String := do
  let parts ← (splitAtColons word).mapM (textOf substitute)
  return ":".intercalate parts

end Script
end TileProgram
