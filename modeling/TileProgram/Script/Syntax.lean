/-!
# Words and commands of scripts

A script is a list of commands.  The words of a command are made of pieces, so
that what was quoted is known when parameters and substitutions are filled in.
-/

namespace TileProgram
namespace Script

/-- What a name after a dollar sign stands for. -/
inductive Parameter where
  | argument (number : Nat)
  | each
  | joined
  | count
  | status
  | options
  | process
  | background
  | variable (name : String)
  deriving DecidableEq

/-- What is made of the value of a parameter, with the help of a word. -/
inductive Operation where
  | value
  | length
  | default_
  | assign
  | require
  | replace
  | withoutStart (isLongest : Bool)
  | withoutEnd (isLongest : Bool)
  | unknown
  deriving DecidableEq

/-- What becomes of a channel: it reads or writes a file, is a copy of another channel, is closed, or reads a text. -/
inductive Flow where
  | input
  | output
  | append
  | overwrite
  | both
  | copy
  | document
  deriving DecidableEq

/-- The sides of a pair of commands that decide whether the second one is run. -/
inductive Joint where
  | always
  | ifSuccessful
  | ifFailed
  deriving DecidableEq

mutual

/-- A part of a word.  The marks of quotes that hold nothing are kept, since they make an empty word. -/
inductive Piece where
  | letter (letter : Char) (isQuoted : Bool)
  | nothing
  | parameter (which : Parameter) (operation : Operation) (countsEmpty : Bool)
      (word : List Piece) (isQuoted : Bool)
  | substitution (body : Command) (isQuoted : Bool)
  | arithmetic (expression : List Piece) (isQuoted : Bool)

/-- What becomes of a channel of a command. -/
inductive Redirection where
  | redirection (channel : Nat) (flow : Flow) (target : List Piece)

/-- A command.  Those that can fail by themselves know the line they stand on. -/
inductive Command where
  | nothing
  | simple (line : Nat) (assignments : List (String × List Piece)) (words : List (List Piece))
      (redirections : List Redirection)
  | redirected (line : Nat) (body : Command) (redirections : List Redirection)
  | negated (body : Command)
  | pipeline (parts : List Command)
  | background (body : Command)
  | joined (joint : Joint) (first second : Command)
  | branch (condition consequence alternative : Command)
  | loop (isUntil : Bool) (condition body : Command)
  | iteration (line : Nat) (name : String) (items : List (List Piece)) (body : Command)
  | choice (line : Nat) (subject : List Piece) (arms : List (List (List Piece) × Command))
  | subshell (line : Nat) (body : Command)
  | definition (line : Nat) (name : String) (body : Command)

end

/-- A word before its pieces are filled in. -/
abbrev Word := List Piece

/-- The letters of a word that has no quotes and nothing to fill in. -/
def Word.letters? (word : Word) : Option (List Char) :=
  word.mapM fun piece =>
    match piece with
    | .letter letter false => some letter
    | _ => none

/-- The text of a word that has no quotes and nothing to fill in. -/
def Word.plain? (word : Word) : Option String :=
  (Word.letters? word).map String.ofList

/-- Letters, digits and underscores make names. -/
def isNameLetter (letter : Char) : Bool :=
  letter.isAlphanum || letter == '_'

/-- Names do not begin with a digit. -/
def isName (letters : List Char) : Bool :=
  match letters with
  | [] => false
  | first :: _ => !first.isDigit && letters.all isNameLetter

/-- The name that a word assigns, and the word for its value. -/
def Word.assignment? (word : Word) : Option (String × Word) :=
  let isPlainName (piece : Piece) : Bool :=
    match piece with
    | .letter letter false => isNameLetter letter
    | _ => false
  match word.span isPlainName with
  | (name, .letter '=' false :: value) =>
      (Word.letters? name).bind fun letters =>
        if isName letters then some (String.ofList letters, value) else none
  | _ => none

/-- Two commands one after the other; an empty one adds nothing. -/
def Command.followedBy : Command → Command → Command
  | .nothing, second => second
  | first, .nothing => first
  | first, second => .joined .always first second

end Script
end TileProgram
