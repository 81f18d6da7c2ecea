import TileProgram.Script.Source

/-!
# Reading words

Single quotes keep everything, double quotes keep all but parameters and
substitutions, and a backslash keeps the letter after it.  What stands in a
substitution is read as commands at once, so that its end is found.
-/

namespace TileProgram
namespace Script

/-- Where pieces end: at a blank or a sign, at a quote, at a brace, at the end of the text, or at two parentheses that close what two have opened. -/
inductive Ending where
  | blank
  | quote
  | brace
  | text
  | parentheses (depth : Nat)
  deriving DecidableEq

/-- Letters that end a word outside quotes. -/
def endsWord (letter : Char) : Bool :=
  " \t\n;&|<>()".toList.contains letter

/-- The letters that name a parameter by themselves. -/
def specialParameter? (letter : Char) : Option Parameter :=
  match letter with
  | '@' => some .each
  | '*' => some .joined
  | '#' => some .count
  | '?' => some .status
  | '-' => some .options
  | '$' => some .process
  | '!' => some .background
  | _ => none

/-- The parameter at the start of letters, with the number of its letters; outside braces the number of an argument has one digit. -/
def parameter? (inBraces : Bool) (letters : List Char) : Option (Parameter × Nat) :=
  match letters with
  | [] => none
  | first :: rest =>
      if first.isDigit then
        let digits := first :: if inBraces then rest.takeWhile Char.isDigit else []
        some (.argument (digitsValue 10 0 digits), digits.length)
      else if isNameLetter first then
        let name := first :: rest.takeWhile isNameLetter
        some (.variable (String.ofList name), name.length)
      else (specialParameter? first).map fun parameter => (parameter, 1)

/-- What follows the name of a parameter in braces: the operation, whether an empty value counts as none, and the number of letters. -/
def operation (letters : List Char) : Operation × Bool × Nat :=
  match letters with
  | '\x7d' :: _ => (.value, false, 0)
  | '#' :: '#' :: _ => (.withoutStart true, false, 2)
  | '#' :: _ => (.withoutStart false, false, 1)
  | '%' :: '%' :: _ => (.withoutEnd true, false, 2)
  | '%' :: _ => (.withoutEnd false, false, 1)
  | ':' :: sign :: _ => (named sign, true, 2)
  | sign :: _ => (named sign, false, 1)
  | [] => (.unknown, false, 0)
where
  /-- The operation that a sign stands for. -/
  named (sign : Char) : Operation :=
    match sign with
    | '-' => .default_
    | '=' => .assign
    | '?' => .require
    | '+' => .replace
    | _ => .unknown

/-- The head of a parameter in braces: the parameter, the operation, whether an empty value counts as none, and the number of letters. -/
def braceHead (letters : List Char) : Parameter × Operation × Bool × Nat :=
  let general : Parameter × Operation × Bool × Nat :=
    match parameter? true letters with
    | none => (.count, .unknown, false, if letters.head? == some '\n' then 1 else 0)
    | some (which, length) =>
        let (operation, countsEmpty, more) := operation (letters.drop length)
        (which, operation, countsEmpty, length + more)
  match letters with
  | '#' :: rest =>
      match parameter? true rest with
      | some (which, length) =>
          let isEnded := (rest.drop length).head? == some '\x7d'
          if isEnded then (which, .length, false, length + 1)
          else match which with
            | .variable _ => (which, .unknown, false, length + 1)
            | _ => general
      | none => general
  | _ => general

/-- The text between backquotes, with the number of its letters up to the closing one, if there is one. -/
def backquoted? (isQuoted : Bool) : List Char → Option (List Char × Nat)
  | [] => none
  | '\x60' :: _ => some ([], 1)
  | '\\' :: next :: rest =>
      (backquoted? isQuoted rest).map fun (text, length) =>
        let kept :=
          if next = '\n' then []
          else if "\\\x60$".toList.contains next || (isQuoted && next == '"') then [next]
          else ['\\', next]
        (kept ++ text, length + 2)
  | letter :: rest =>
      (backquoted? isQuoted rest).map fun (text, length) => (letter :: text, length + 1)

/-- The readers for what stands in substitutions: commands up to a closing parenthesis, and commands up to the end. -/
structure Nested where
  enclosed : Reading Command
  whole : Reading Command

/-- Whether a backslash in double quotes keeps a letter. -/
def isKeptInQuotes (ending : Ending) (letter : Char) : Bool :=
  "\\\x60$".toList.contains letter || (letter == '"' && ending != .text) ||
    (letter == '\x7d' && ending == .brace)

/-- Quoted letters as pieces. -/
def quotedPieces (letters : List Char) : Word :=
  letters.map fun letter => .letter letter true

/-- The pieces of double quotes around pieces.  Around all arguments alone they add nothing, so that no arguments make no word. -/
def quotesAround (pieces : Word) : Word :=
  match pieces with
  | [.parameter .each .value _ _ _] => pieces
  | _ => .nothing :: pieces

/-- Reads what stands between backquotes. -/
def readBackquoted (nested : Nested) (isQuoted : Bool) : Reading Piece := do
  match backquoted? isQuoted (← Reading.letters) with
  | none => do
      Reading.skip (← Reading.letters).length
      Reading.fail .openBackquote
  | some (text, length) => do
      let body ← Reading.within 1 text nested.whole
      Reading.skip length
      return .substitution body isQuoted

/-- Reads letters up to a single quote. -/
def readSingleQuoted : Reading Word := do
  let text := (← Reading.letters).takeWhile (· != '\'')
  let isClosed := text.length < (← Reading.letters).length
  Reading.skip (text.length + 1)
  if isClosed then return .nothing :: quotedPieces text else Reading.fail .openQuote

mutual

/-- Reads pieces up to an ending, after pieces that have been read, last one first. -/
def readPieces (nested : Nested) (fuel : Nat) (ending : Ending) (isQuoted : Bool) (before : Word) :
    Reading Word := do
  match fuel with
  | 0 => Reading.fail .tooDeep
  | left + 1 =>
      let goOn (more : Word) := readPieces nested left ending isQuoted (more.reverse ++ before)
      let take (count : Nat) (more : Word) := do
        Reading.skip count
        goOn more
      match ← Reading.letters, ending with
      | [], .quote => Reading.fail .openQuote
      | [], .brace => Reading.fail .openBrace
      | [], .parentheses _ => Reading.fail .openArithmetic
      | [], _ => return before.reverse
      | '"' :: _, .quote => do
          Reading.skip 1
          return before.reverse
      | '\x7d' :: _, .brace => do
          Reading.skip 1
          return before.reverse
      | '(' :: _, .parentheses depth => do
          Reading.skip 1
          readPieces nested left (.parentheses (depth + 1)) isQuoted (.letter '(' true :: before)
      | ')' :: _, .parentheses (depth + 1) => do
          Reading.skip 1
          readPieces nested left (.parentheses depth) isQuoted (.letter ')' true :: before)
      | ')' :: ')' :: _, .parentheses 0 => do
          Reading.skip 2
          return before.reverse
      | '\\' :: '\n' :: _, _ => take 2 []
      | ['\\'], _ => take 1 [.letter '\\' true]
      | '\\' :: next :: _, _ =>
          if isQuoted && !isKeptInQuotes ending next then take 1 [.letter '\\' true]
          else take 2 [.letter next true]
      | '$' :: _, _ => do
          Reading.skip 1
          goOn [← readDollar nested left isQuoted]
      | '\x60' :: _, _ => do
          Reading.skip 1
          goOn [← readBackquoted nested isQuoted]
      | '\'' :: _, _ => do
          Reading.skip 1
          if isQuoted then goOn [.letter '\'' true] else goOn (← readSingleQuoted)
      | letter :: _, _ =>
          let opensQuote := letter == '"' && (ending == .blank || ending == .brace)
          if opensQuote then do
            Reading.skip 1
            goOn (quotesAround (← readPieces nested left .quote true []))
          else if ending == .blank && endsWord letter then return before.reverse
          else take 1 [.letter letter isQuoted]

/-- Reads what a dollar sign begins. -/
def readDollar (nested : Nested) (fuel : Nat) (isQuoted : Bool) : Reading Piece := do
  match fuel with
  | 0 => Reading.fail .tooDeep
  | left + 1 =>
      match ← Reading.letters with
      | '(' :: '(' :: _ => do
          Reading.skip 2
          return .arithmetic (← readPieces nested left (.parentheses 0) true []) isQuoted
      | '(' :: _ => do
          Reading.skip 1
          return .substitution (← nested.enclosed) isQuoted
      | '\x7b' :: rest => do
          let (which, operation, countsEmpty, length) := braceHead rest
          Reading.skipUncounted (length + 1)
          let isPattern := match operation with
            | .withoutStart _ | .withoutEnd _ => true
            | _ => false
          let word ← readPieces nested left .brace (isQuoted && !isPattern) []
          return .parameter which operation countsEmpty word isQuoted
      | letters =>
          match parameter? false letters with
          | some (which, length) => do
              Reading.skip length
              return .parameter which .value false [] isQuoted
          | none => return .letter '$' isQuoted

end

/-- Reads pieces up to an ending. -/
def readWord (nested : Nested) (ending : Ending) : Reading Word := do
  let fuel := 2 * (← Reading.letters).length + 2
  readPieces nested fuel ending (ending == .text) []

/-- The lines of a document before the one that ends it, and the number of letters up to the next line.  Tabs at the starts of lines may not count. -/
def documentLines (isStripped : Bool) (ending : List Char) (letters : List Char) :
    List (List Char) × Nat :=
  let strip (line : List Char) : List Char :=
    if isStripped then line.dropWhile (· == '\t') else line
  let isEnd (line : List Char) : Bool := strip line == ending || strip line == ending ++ ['\n']
  let all := lines letters
  let inside := all.takeWhile fun line => !isEnd line
  (inside.map strip, (all.take (inside.length + 1)).flatten.length)

/-- The letters of a word as it was written but for its quotes, and whether there were any. -/
def delimiter (word : Word) : List Char × Bool :=
  let letters := word.filterMap fun piece =>
    match piece with
    | .letter letter _ => some letter
    | .parameter (.variable _) .value _ _ _ => some '$'
    | _ => none
  let isQuoted := word.any fun piece =>
    match piece with
    | .letter _ isQuoted => isQuoted
    | .nothing => true
    | _ => false
  (letters, isQuoted)

/-- Reads the document that a word will end.  It begins on the next line, after other documents. -/
def readDocument (nested : Nested) (isStripped : Bool) (word : Word) : Reading Word := do
  let source ← get
  let (ending, isQuoted) := delimiter word
  let rest := source.letters.dropWhile (· != '\n')
  let body := rest.drop (1 + source.ahead)
  let line := source.line + 1 + ((rest.drop 1).take source.ahead).count '\n'
  let (inside, length) := documentLines isStripped ending body
  set { source with ahead := source.ahead + length }
  let text := inside.flatten
  if isQuoted then return .nothing :: quotedPieces text
  else return .nothing :: (← Reading.within line text (readWord nested .text))

/-- The sign of a redirection at the start of letters, with the number of its letters. -/
def redirectionSign? (letters : List Char) : Option (Sign × Nat) :=
  match letters with
  | '>' :: '>' :: _ => some (.flow .append, 2)
  | '>' :: '|' :: _ => some (.flow .overwrite, 2)
  | '>' :: '&' :: _ => some (.copyOutput, 2)
  | '>' :: _ => some (.flow .output, 1)
  | '<' :: '<' :: '-' :: _ => some (.document true, 3)
  | '<' :: '<' :: _ => some (.document false, 2)
  | '<' :: '&' :: _ => some (.copyInput, 2)
  | '<' :: '>' :: _ => some (.flow .both, 2)
  | '<' :: _ => some (.flow .input, 1)
  | _ => none

/-- Reads the word or the redirection that begins here. -/
def readWordToken (nested : Nested) : Reading Token := do
  match redirectionSign? (← Reading.letters) with
  | some (sign, length) => do
      Reading.skip length
      return .redirection none sign
  | none => do
      let word ← readWord nested .blank
      let channel := match word with
        | [.letter digit false] => if digit.isDigit then some (digitsValue 10 0 [digit]) else none
        | _ => none
      match channel, redirectionSign? (← Reading.letters) with
      | some _, some (sign, length) => do
          Reading.skip length
          return .redirection channel sign
      | _, _ => return .word word

/-- The number of letters before the next token: blanks, ends of lines that do not count, and a comment. -/
def blankLength : List Char → Nat
  | ' ' :: rest => 1 + blankLength rest
  | '\t' :: rest => 1 + blankLength rest
  | '\\' :: '\n' :: rest => 2 + blankLength rest
  | '#' :: rest => 1 + (rest.takeWhile (· != '\n')).length
  | _ => 0

/-- The sign at the start of letters, with the number of its letters. -/
def sign? (letters : List Char) : Option (Token × Nat) :=
  match letters with
  | [] => some (.ending, 0)
  | '&' :: '&' :: _ => some (.both, 2)
  | '&' :: _ => some (.background, 1)
  | '|' :: '|' :: _ => some (.either, 2)
  | '|' :: _ => some (.pipe, 1)
  | ';' :: ';' :: _ => some (.armEnd, 2)
  | ';' :: _ => some (.semicolon, 1)
  | '(' :: _ => some (.open_, 1)
  | ')' :: _ => some (.close, 1)
  | _ => none

/-- Reads a token. -/
def readToken (nested : Nested) : Reading Token := do
  Reading.skip (blankLength (← Reading.letters))
  match ← Reading.letters with
  | '\n' :: _ => do
      Reading.endLine
      return .newline
  | letters =>
      match sign? letters with
      | some (token, length) => do
          Reading.skip length
          return token
      | none => readWordToken nested

end Script
end TileProgram
