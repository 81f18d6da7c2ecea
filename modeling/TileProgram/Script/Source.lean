import TileProgram.Script.Octets
import TileProgram.Script.Syntax

/-!
# Sources of scripts

A source is the text of a script that is still to be read, with the number of
the line it begins on.  What is announced by a redirection to follow on the
next lines is taken from there at once, and passed over when the line ends.
-/

namespace TileProgram
namespace Script

/-- The sign that a redirection begins with. -/
inductive Sign where
  | flow (flow : Flow)
  | copyInput
  | copyOutput
  | document (isStripped : Bool)
  deriving DecidableEq

/-- A word, a sign, or the end of the script. -/
inductive Token where
  | word (word : Word)
  | redirection (channel : Option Nat) (sign : Sign)
  | newline
  | semicolon
  | background
  | both
  | either
  | pipe
  | open_
  | close
  | armEnd
  | ending

/-- The words that have a meaning of their own where a command can begin. -/
def keywords : List String :=
  [ "!", "case", "do", "done", "elif", "else", "esac", "fi", "for", "if", "in", "then", "until",
    "while", "\x7b", "\x7d" ]

namespace Token

/-- The text of a token that is a word without quotes and nothing to fill in. -/
def plain? : Token → Option String
  | .word pieces => Word.plain? pieces
  | _ => none

/-- The keyword that a token is. -/
def keyword? (token : Token) : Option String :=
  token.plain?.filter fun text => keywords.contains text

/-- The name of a token in a complaint. -/
def name : Token → String
  | .word _ => "word"
  | .redirection _ _ => "redirection"
  | .newline => "newline"
  | .semicolon => "\";\""
  | .background => "\"&\""
  | .both => "\"&&\""
  | .either => "\"||\""
  | .pipe => "\"|\""
  | .open_ => "\"(\""
  | .close => "\")\""
  | .armEnd => "\";;\""
  | .ending => "end of file"

/-- The name of a token where keywords count. -/
def nameAtStart (token : Token) : String :=
  match token.keyword? with
  | some text => "\"" ++ text ++ "\""
  | none => token.name

end Token

/-- Why a script cannot be read. -/
inductive Cause where
  | unexpected (found : String) (expected : Option String)
  | openQuote
  | openBrace
  | openArithmetic
  | openBackquote
  | badVariable
  | badFunction
  | badChannel
  | tooDeep
  deriving DecidableEq

/-- The wording of a cause. -/
def Cause.message : Cause → String
  | .unexpected found none => found ++ " unexpected"
  | .unexpected found (some expected) => found ++ " unexpected (expecting \"" ++ expected ++ "\")"
  | .openQuote => "Unterminated quoted string"
  | .openBrace => "Missing '\x7d'"
  | .openArithmetic => "Missing '))'"
  | .openBackquote => "EOF in backquote substitution"
  | .badVariable => "Bad for loop variable"
  | .badFunction => "Bad function name"
  | .badChannel => "Bad fd number"
  | .tooDeep => "too deep"

/-- A cause with the line on which it was found. -/
structure Fault where
  line : Nat
  cause : Cause
  deriving DecidableEq

/-- What is still to be read.  The letters ahead are those after the end of the line that have been read already; a token may have been read before it is wanted; and the token before a number of letters from the end may be followed by an alias. -/
structure Source where
  letters : List Char
  line : Nat
  ahead : Nat
  waiting : Option Token
  aliases : List (String × String)
  aliasEnd : Option Nat

/-- The source of letters that begin on a line. -/
def Source.ofLetters (line : Nat) (letters : List Char) (aliases : List (String × String)) :
    Source :=
  ⟨letters, line, 0, none, aliases, none⟩

/-- A step of reading a script. -/
abbrev Reading := StateT Source (Except Fault)

namespace Reading

/-- Ends reading with a cause, found on the line that is being read. -/
def fail (cause : Cause) : Reading Value := do
  throw ⟨(← get).line, cause⟩

/-- The letters that are still to be read. -/
def letters : Reading (List Char) := do
  return (← get).letters

/-- Passes over letters. -/
def skip (count : Nat) : Reading Unit :=
  modify fun source =>
    let (passed, rest) := source.letters.splitAt count
    { source with letters := rest, line := source.line + passed.count '\n' }

/-- Passes over letters; ends of lines among them do not count. -/
def skipUncounted (count : Nat) : Reading Unit :=
  modify fun source => { source with letters := source.letters.drop count }

/-- Passes over the end of a line, and what follows it and has been read already. -/
def endLine : Reading Unit := do
  skip (1 + (← get).ahead)
  modify fun source => { source with ahead := 0 }

/-- Reads other letters, which begin on a line, and then goes on where it was. -/
def within (line : Nat) (letters : List Char) (reading : Reading Value) : Reading Value := do
  let source ← get
  set { source with letters := letters, line := line, ahead := 0, waiting := none }
  let value ← reading
  set source
  return value

end Reading
end Script
end TileProgram
