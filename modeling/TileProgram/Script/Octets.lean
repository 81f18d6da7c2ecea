import TileProgram.Text.Utf8

/-!
# Texts of bytes

Scripts work on bytes, and the bytes they see need not be UTF-8.  Their texts
are strings whose characters stand for one byte each.
-/

namespace TileProgram
namespace Script

/-- The text of bytes. -/
def octets (bytes : Bytes) : String :=
  String.ofList (bytes.map fun byte => Char.ofNat byte.toNat)

/-- The bytes of letters. -/
def letterBytes (letters : List Char) : Bytes :=
  letters.map fun letter => UInt8.ofNat letter.toNat

/-- The bytes of a text. -/
def octetBytes (text : String) : Bytes :=
  letterBytes text.toList

/-- The text of bytes for a text in UTF-8. -/
def octetsOfText (text : String) : String :=
  octets (Utf8.encode text)

/-- The text in UTF-8 that a text of bytes stands for; bytes that are not UTF-8 are replaced. -/
def textOfOctets (text : String) : String :=
  String.ofList (Utf8.decodeLossy (octetBytes text))

/-- The bytes of a line. -/
def lineBytes (text : String) : Bytes :=
  octetBytes (text ++ "\n")

/-- Splits letters after every line end; the last line may lack its end. -/
def lines : List Char → List (List Char)
  | [] => []
  | letter :: rest =>
      if letter = '\n' then [letter] :: lines rest
      else match lines rest with
        | [] => [[letter]]
        | line :: others => (letter :: line) :: others

/-- The number that digits of a base stand for, after a value. -/
def digitsValue (base value : Nat) (digits : List Char) : Nat :=
  digits.foldl (fun value digit =>
    let worth := if digit.isDigit then digit.toNat - '0'.toNat
      else digit.toLower.toNat - 'a'.toNat + 10
    base * value + worth) value

/-- The number of a text of decimal digits. -/
def number? (text : String) : Option Nat :=
  let letters := text.toList
  if !letters.isEmpty && letters.all Char.isDigit then some (digitsValue 10 0 letters) else none

/-- Sorts values; those of which neither comes before the other keep their order. -/
def sortBy (isBefore : Value → Value → Bool) (values : List Value) : List Value :=
  values.mergeSort fun first second => !isBefore second first

/-- Sorts texts by their bytes. -/
def sortTexts (texts : List String) : List String :=
  sortBy (fun first second => first < second) texts

end Script
end TileProgram
