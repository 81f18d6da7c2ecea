import TileProgram.Json.Value
import TileProgram.Text.Columns

/-!
# Reading JSON

A text is cut into tokens, and the tokens are read by a stack machine.
-/

/-!
## The lexical form of JSON

A text is scanned letter by letter into tokens.  A run of letters that are
neither blank, punctuation nor a quotation mark is a word, and a word is one of
the three names or a number.
-/

namespace TileProgram
namespace Json

open Decimal

/-- The units of the lexical form. -/
inductive Token where
  | arrayStart
  | arrayStop
  | objectStart
  | objectStop
  | colon
  | comma
  | null
  | truth (value : Bool)
  | number (numeral : Numeral)
  | text (quoted : Quoted)
  deriving DecidableEq

/-- Blanks between tokens. -/
def isBlank (letter : Char) : Bool :=
  letter == ' ' || letter == '\t' || letter == '\n' || letter == '\r'

/-- The punctuation of JSON. -/
def punctuation? : Char → Option Token
  | '[' => some .arrayStart
  | ']' => some .arrayStop
  | '\x7b' => some .objectStart
  | '\x7d' => some .objectStop
  | ':' => some .colon
  | ',' => some .comma
  | _ => none

/-- The digits at the start of a list of letters, and the letters after them. -/
def takeDigits : List Char → List Digit × List Char
  | [] => ([], [])
  | letter :: rest =>
      match Digit.ofChar? letter with
      | none => ([], letter :: rest)
      | some digit =>
          let (digits, others) := takeDigits rest
          (digit :: digits, others)

namespace Numeral

/-- Reads an exponent that fills the rest of a number, or nothing. -/
def exponentOf? : List Char → Option (Option (Bool × List Digit))
  | [] => some none
  | mark :: rest =>
      if mark = 'e' ∨ mark = 'E' then
        let (negative, letters) :=
          match rest with
          | '-' :: letters => (true, letters)
          | '+' :: letters => (false, letters)
          | letters => (false, letters)
        match takeDigits letters with
        | ([], _) => none
        | (digits, []) => some (some (negative, digits))
        | (_, _ :: _) => none
      else none

/-- Reads the part of a number after the whole digits: a fraction or nothing, then an exponent or nothing. -/
def tailOf? (negative : Bool) (whole : List Digit) : List Char → Option Numeral
  | '.' :: rest =>
      match takeDigits rest with
      | ([], _) => none
      | (fraction, letters) =>
          (exponentOf? letters).map fun exponent => ⟨negative, whole, some fraction, exponent⟩
  | letters => (exponentOf? letters).map fun exponent => ⟨negative, whole, none, exponent⟩

/-- Reads a number without a sign: the whole part is a single zero or starts with another digit. -/
def unsignedOf? (negative : Bool) (letters : List Char) : Option Numeral :=
  match takeDigits letters with
  | ([], _) => none
  | (first :: others, rest) =>
      if first = Decimal.Digit.zero ∧ others ≠ [] then none else tailOf? negative (first :: others) rest

/-- Reads a number that fills a list of letters. -/
def ofLetters? : List Char → Option Numeral
  | '-' :: letters => unsignedOf? true letters
  | letters => unsignedOf? false letters

end Numeral

/-- The token of a word. -/
def wordToken? (letters : List Char) : Option Token :=
  if letters = "null".toList then some .null
  else if letters = "true".toList then some (.truth true)
  else if letters = "false".toList then some (.truth false)
  else (Numeral.ofLetters? letters).map .number

/-- A text under construction: its characters so far, last one first, and the first half of a surrogate pair that waits for the second; `broken` once a half had no partner. -/
structure Draft where
  letters : List Char
  half : Option Nat
  broken : Bool
  deriving DecidableEq

namespace Draft

/-- The empty text. -/
def empty : Draft := ⟨[], none, false⟩

/-- Adds a character. -/
def push (draft : Draft) (letter : Char) : Draft :=
  ⟨letter :: draft.letters, none, draft.broken || draft.half.isSome⟩

/-- Adds a 16-bit unit that an escape names. -/
def pushUnit (draft : Draft) (unit : Nat) : Draft :=
  if 0xDC00 ≤ unit ∧ unit < 0xE000 then
    match draft.half with
    | some first =>
        let code := 0x10000 + (first - 0xD800) * 0x400 + (unit - 0xDC00)
        ⟨Char.ofNat code :: draft.letters, none, draft.broken⟩
    | none => { draft with broken := true }
  else if 0xD800 ≤ unit ∧ unit < 0xDC00 then
    ⟨draft.letters, some unit, draft.broken || draft.half.isSome⟩
  else draft.push (Char.ofNat unit)

/-- The finished text. -/
def quoted (draft : Draft) : Quoted :=
  if draft.broken || draft.half.isSome then none
  else some (String.ofList draft.letters.reverse)

end Draft

/-- The character that a letter after a backslash stands for. -/
def escape? : Char → Option Char
  | '"' => some '"'
  | '\\' => some '\\'
  | '/' => some '/'
  | 'b' => some '\x08'
  | 'f' => some '\x0c'
  | 'n' => some '\n'
  | 'r' => some '\r'
  | 't' => some '\t'
  | _ => none

/-- Where the scanner is: between tokens, in a word (last letter first), in a quoted text, after a backslash, or in an escaped unit that still misses some digits. -/
inductive Mode where
  | between
  | word (letters : List Char)
  | quoted (draft : Draft)
  | escaped (draft : Draft)
  | unit (draft : Draft) (missing value : Nat)
  deriving DecidableEq

/-- The scanner: its mode and the tokens so far, last one first. -/
structure Scanner where
  mode : Mode
  tokens : List Token
  deriving DecidableEq

namespace Scanner

/-- The start of a text. -/
def start : Scanner := ⟨.between, []⟩

/-- Reads a letter that is not part of a word. -/
def stepBetween (tokens : List Token) (letter : Char) : Scanner :=
  if isBlank letter then ⟨.between, tokens⟩
  else if letter = '"' then ⟨.quoted Draft.empty, tokens⟩
  else match punctuation? letter with
    | some token => ⟨.between, token :: tokens⟩
    | none => ⟨.word [letter], tokens⟩

/-- Whether a letter ends a word. -/
def endsWord (letter : Char) : Bool :=
  isBlank letter || letter == '"' || (punctuation? letter).isSome

/-- Reads one letter. -/
def step (scanner : Scanner) (letter : Char) : Option Scanner :=
  match scanner.mode with
  | .between => some (stepBetween scanner.tokens letter)
  | .word letters =>
      if endsWord letter then
        (wordToken? letters.reverse).map fun token =>
          stepBetween (token :: scanner.tokens) letter
      else some ⟨.word (letter :: letters), scanner.tokens⟩
  | .quoted draft =>
      if letter = '"' then some ⟨.between, .text draft.quoted :: scanner.tokens⟩
      else if letter = '\\' then some ⟨.escaped draft, scanner.tokens⟩
      else if letter.toNat < 0x20 then none
      else some ⟨.quoted (draft.push letter), scanner.tokens⟩
  | .escaped draft =>
      if letter = 'u' then some ⟨.unit draft 4 0, scanner.tokens⟩
      else (escape? letter).map fun meant => ⟨.quoted (draft.push meant), scanner.tokens⟩
  | .unit draft missing value =>
      (Text.hexDigit? letter).map fun digit =>
        let longer := 16 * value + digit
        if missing ≤ 1 then ⟨.quoted (draft.pushUnit longer), scanner.tokens⟩
        else ⟨.unit draft (missing - 1) longer, scanner.tokens⟩

/-- The tokens at the end of a text. -/
def finish (scanner : Scanner) : Option (List Token) :=
  match scanner.mode with
  | .between => some scanner.tokens.reverse
  | .word letters =>
      (wordToken? letters.reverse).map fun token => (token :: scanner.tokens).reverse
  | _ => none

end Scanner

/-- The tokens of a text. -/
def scan (letters : List Char) : Option (List Token) :=
  (letters.foldlM Scanner.step Scanner.start).bind Scanner.finish

end Json
end TileProgram

/-!
## Reading JSON documents

The tokens of a text are read by a stack machine, one token at a time.  The
stack holds the arrays and objects that are still open, innermost first, each
with what it has received so far, last one first.
-/

namespace TileProgram
namespace Json

/-- An array or object that waits for a value. -/
inductive Frame where
  | array (items : List Value)
  | object (members : List (Quoted × Value)) (key : Quoted)

/-- What the machine expects next. -/
inductive Reader where
  | expectValue (stack : List Frame)
  | expectFirstItem (stack : List Frame)
  | afterItem (stack : List Frame) (items : List Value)
  | expectFirstKey (stack : List Frame)
  | expectKey (stack : List Frame) (members : List (Quoted × Value))
  | expectColon (stack : List Frame) (members : List (Quoted × Value)) (key : Quoted)
  | afterMember (stack : List Frame) (members : List (Quoted × Value))
  | complete (value : Value)

namespace Reader

/-- Hands a finished value to the innermost open array or object. -/
def deliver : List Frame → Value → Reader
  | [], value => .complete value
  | .array items :: stack, value => .afterItem stack (value :: items)
  | .object members key :: stack, value => .afterMember stack ((key, value) :: members)

/-- Reads the first token of a value. -/
def openValue (stack : List Frame) : Token → Option Reader
  | .null => some (deliver stack .null)
  | .truth value => some (deliver stack (.truth value))
  | .number numeral => some (deliver stack (.number numeral))
  | .text quoted => some (deliver stack (.text quoted))
  | .arrayStart => some (.expectFirstItem stack)
  | .objectStart => some (.expectFirstKey stack)
  | _ => none

/-- Reads one token. -/
def step : Reader → Token → Option Reader
  | .expectValue stack, token => openValue stack token
  | .expectFirstItem stack, .arrayStop => some (deliver stack (.array []))
  | .expectFirstItem stack, token => openValue (.array [] :: stack) token
  | .afterItem stack items, .comma => some (.expectValue (.array items :: stack))
  | .afterItem stack items, .arrayStop => some (deliver stack (.array items.reverse))
  | .expectFirstKey stack, .objectStop => some (deliver stack (.object []))
  | .expectFirstKey stack, .text key => some (.expectColon stack [] key)
  | .expectKey stack members, .text key => some (.expectColon stack members key)
  | .expectColon stack members key, .colon => some (.expectValue (.object members key :: stack))
  | .afterMember stack members, .comma => some (.expectKey stack members)
  | .afterMember stack members, .objectStop => some (deliver stack (.object members.reverse))
  | _, _ => none

/-- The document, once it is complete. -/
def result? : Reader → Option Value
  | .complete value => some value
  | _ => none

end Reader

/-- The document of a list of tokens. -/
def readTokens (tokens : List Token) : Option Value :=
  (tokens.foldlM Reader.step (.expectValue [])).bind Reader.result?

/-- The document that a text holds, if the whole text is one. -/
def read (text : String) : Option Value :=
  (scan text.toList).bind readTokens

end Json
end TileProgram
