import TileProgram.Binary.Half
import TileProgram.Decimal.Shortest
import TileProgram.Json.Value

/-!
# Printing JSON documents

A document is printed on one line without blanks, or on several lines with two
blanks of indentation for each level, one item to a line.
-/

namespace TileProgram
namespace Json

open Decimal

/-- Numbers are positional when the power of ten of their first digit is from -6 to 12, and a tie goes to the even digit. -/
def numberLayout : Layout := ⟨-6, 12, .toEven⟩

/-- The document of a single precision number: `null` when it is not finite. -/
def Value.ofSingle (number : Binary.Single) : Value :=
  if number.isFinite then
    let written := numberLayout.write Binary.Format.single number.magnitude
    .number
      { isNegative := number.isNegative
        whole := written.whole
        fraction := if written.fraction.isEmpty then none else some written.fraction
        exponent := written.exponent.map fun power => (power < 0, digitsOf power.natAbs) }
  else .null

/-- The letters of a number. -/
def Numeral.letters (numeral : Numeral) : List Char :=
  (if numeral.isNegative then ['-'] else []) ++ numeral.whole.map Digit.toChar ++
    (match numeral.fraction with
      | none => []
      | some digits => '.' :: digits.map Digit.toChar) ++
    (match numeral.exponent with
      | none => []
      | some (negative, digits) =>
          'e' :: (if negative then '-' else '+') :: digits.map Digit.toChar)

/-- The letters of one character of a text. -/
def quotedLetter (letter : Char) : List Char :=
  if letter = '"' then ['\\', '"']
  else if letter = '\\' then ['\\', '\\']
  else if letter = '\n' then ['\\', 'n']
  else if letter = '\r' then ['\\', 'r']
  else if letter = '\t' then ['\\', 't']
  else if letter = '\x08' then ['\\', 'b']
  else if letter = '\x0c' then ['\\', 'f']
  else if letter.toNat < 0x20 then
    '\\' :: 'u' :: '0' :: '0' ::
      Nat.digitChar (letter.toNat / 16) :: [Nat.digitChar (letter.toNat % 16)]
  else [letter]

/-- The letters of a text with its quotation marks. -/
def quotedLetters (quoted : Quoted) : List Char :=
  '"' :: ((quoted.getD "").toList.flatMap quotedLetter ++ ['"'])

/-- How a printer separates things: what goes before the first and every later item at a depth, before the end, and after a colon. -/
structure Spacing where
  line : Nat → List Char
  afterColon : List Char

namespace Spacing

/-- Everything on one line, without blanks. -/
def compact : Spacing := ⟨fun _ => [], []⟩

/-- One item to a line, two blanks of indentation for each level. -/
def pretty : Spacing := ⟨fun depth => '\n' :: List.replicate (2 * depth) ' ', [' ']⟩

end Spacing

mutual

/-- The letters of a document at a depth. -/
def Value.letters (spacing : Spacing) (depth : Nat) : Value → List Char
  | .null => "null".toList
  | .truth true => "true".toList
  | .truth false => "false".toList
  | .number numeral => numeral.letters
  | .text quoted => quotedLetters quoted
  | .array [] => ['[', ']']
  | .array (first :: rest) =>
      '[' :: (spacing.line (depth + 1) ++ first.letters spacing (depth + 1) ++
        Value.itemLetters spacing (depth + 1) rest ++ spacing.line depth ++ [']'])
  | .object [] => ['\x7b', '\x7d']
  | .object ((key, value) :: rest) =>
      '\x7b' :: (spacing.line (depth + 1) ++ quotedLetters key ++ ':' :: spacing.afterColon ++
        value.letters spacing (depth + 1) ++
        Value.memberLetters spacing (depth + 1) rest ++ spacing.line depth ++ ['\x7d'])

/-- The letters of the items after the first one. -/
def Value.itemLetters (spacing : Spacing) (depth : Nat) : List Value → List Char
  | [] => []
  | item :: rest =>
      ',' :: (spacing.line depth ++ item.letters spacing depth ++
        Value.itemLetters spacing depth rest)

/-- The letters of the members after the first one. -/
def Value.memberLetters (spacing : Spacing) (depth : Nat) : List (Quoted × Value) → List Char
  | [] => []
  | (key, value) :: rest =>
      ',' :: (spacing.line depth ++ quotedLetters key ++ ':' :: spacing.afterColon ++
        value.letters spacing depth ++ Value.memberLetters spacing depth rest)

end

/-- The text of a document on one line. -/
def Value.compact (value : Value) : String :=
  String.ofList (value.letters Spacing.compact 0)

/-- The text of a document on several lines. -/
def Value.pretty (value : Value) : String :=
  String.ofList (value.letters Spacing.pretty 0)

end Json
end TileProgram
