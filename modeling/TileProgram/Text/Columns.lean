/-!
# Columns of text

Numbers in base sixteen, columns of a width, and what separates them.
-/

/-!
## Numbers in base sixteen and padded columns
-/

namespace TileProgram
namespace Text

/-- The value of a digit in base sixteen. -/
def hexDigit? (letter : Char) : Option Nat :=
  if '0' ≤ letter ∧ letter ≤ '9' then some (letter.toNat - '0'.toNat)
  else if 'a' ≤ letter ∧ letter ≤ 'f' then some (letter.toNat - 'a'.toNat + 10)
  else if 'A' ≤ letter ∧ letter ≤ 'F' then some (letter.toNat - 'A'.toNat + 10)
  else none

/-- A number in base sixteen with small letters, marked by `0x`. -/
def hexadecimal (value : Nat) : String :=
  String.ofList ('0' :: 'x' :: Nat.toDigits 16 value)

/-- A number in base sixteen with its mark, filled with zeros up to a total width. -/
def hexadecimalPadded (width value : Nat) : String :=
  let digits := Nat.toDigits 16 value
  String.ofList ('0' :: 'x' :: (List.replicate (width - 2 - digits.length) '0' ++ digits))

/-- Fills a text with blanks on the right up to a width. -/
def padRight (width : Nat) (text : String) : String :=
  String.ofList (text.toList ++ List.replicate (width - text.length) ' ')

/-- Fills a text with blanks on the left up to a width. -/
def padLeft (width : Nat) (text : String) : String :=
  String.ofList (List.replicate (width - text.length) ' ' ++ text.toList)

end Text
end TileProgram

/-!
## Blank characters
-/

namespace TileProgram
namespace Text

/-- Characters that only make space: controls from tab to return, the blank, the next-line control, and the spaces and separators of all scripts. -/
def isBlank (letter : Char) : Bool :=
  let point := letter.toNat
  (0x09 ≤ point && point ≤ 0x0D) || point == 0x20 || point == 0x85 || point == 0xA0 ||
    point == 0x1680 || (0x2000 ≤ point && point ≤ 0x200A) || point == 0x2028 ||
    point == 0x2029 || point == 0x202F || point == 0x205F || point == 0x3000

/-- Drops blank characters at the end. -/
def trimEnd (text : String) : String :=
  String.ofList (text.toList.reverse.dropWhile isBlank).reverse

/-- Drops blank characters at both ends. -/
def trim (text : String) : String :=
  trimEnd (String.ofList (text.toList.dropWhile isBlank))

end Text
end TileProgram
