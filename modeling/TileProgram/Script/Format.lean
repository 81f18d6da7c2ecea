import TileProgram.Script.Arithmetic

/-!
# Formatted texts

Backslashes stand for letters that cannot be written, and a format has
directives that arguments are put in place of.  A format is used again as long
as there are arguments left.
-/

namespace TileProgram
namespace Script

/-! ## Escapes -/

/-- Whether a letter is an octal digit. -/
def isOctal (letter : Char) : Bool :=
  '0' ≤ letter && letter ≤ '7'

/-- The letters that stand for others after a backslash. -/
def escapes : List (Char × Char) :=
  [ ('a', '\x07'), ('b', '\x08'), ('e', '\x1b'), ('f', '\x0c'), ('n', '\n'), ('r', '\x0d'),
    ('t', '\t'), ('v', '\x0b'), ('\\', '\\') ]

/-- The byte that octal digits stand for. -/
def octalLetter (digits : List Char) : Char :=
  Char.ofNat (digitsValue 8 0 digits % 256)

/-- The octal digits at the start of letters, at most three. -/
def octalDigits (letters : List Char) : List Char :=
  (letters.take 3).takeWhile isOctal

/-- What the letters after a backslash stand for, with their number. -/
def escaped? (letters : List Char) : Option (Char × Nat) :=
  match octalDigits letters, letters with
  | [], letter :: _ => (escapes.lookup letter).map fun meaning => (meaning, 1)
  | [], [] => none
  | digits, _ => some (octalLetter digits, digits.length)

/-- Replaces what backslashes stand for, after a number of letters that are passed over; tells whether the text asks to stop at once. -/
def unescape (skip : Nat) : List Char → List Char × Bool
  | [] => ([], false)
  | letter :: rest =>
      match skip with
      | left + 1 => unescape left rest
      | 0 =>
          let add (letter : Char) (skip : Nat) : List Char × Bool :=
            let (others, stops) := unescape skip rest
            (letter :: others, stops)
          match letter, rest with
          | '\\', 'c' :: _ => ([], true)
          | '\\', '0' :: more =>
              let digits := octalDigits more
              add (octalLetter digits) (digits.length + 1)
          | '\\', _ =>
              match escaped? rest with
              | some (meaning, length) => add meaning length
              | none => add '\\' 0
          | _, _ => add letter 0

/-- What the words of a command that repeats them become: joined, with an end of line unless the first word asks for none. -/
def repeated (words : List String) : String :=
  let isBare := words.head? == some "-n"
  let text := " ".intercalate (if isBare then words.tail else words)
  let (letters, stops) := unescape 0 text.toList
  String.ofList (if isBare || stops then letters else letters ++ ['\n'])

/-! ## Formats -/

/-- A size in a directive: a number, or one that an argument gives. -/
inductive Size where
  | fixed (number : Nat)
  | argument
  deriving DecidableEq

/-- A part of a format. -/
inductive FormatPart where
  | letter (letter : Char)
  | directive (flags : List Char) (width precision : Option Size) (conversion : Char)
  | invalid (text : String)
  | unfinished
  deriving DecidableEq

/-- The letters that can be conversions. -/
def conversions : List Char :=
  "bcsdiouxXf".toList

/-- A size at the start of letters, with the number of its letters. -/
def sizeAt (letters : List Char) : Option Size × Nat :=
  match letters with
  | '*' :: _ => (some .argument, 1)
  | _ =>
      let digits := letters.takeWhile Char.isDigit
      if digits.isEmpty then (none, 0) else (some (.fixed (digitsValue 10 0 digits)), digits.length)

/-- The directive after a percent sign, with the number of its letters. -/
def directiveAt (letters : List Char) : FormatPart × Nat :=
  let flags := letters.takeWhile fun letter => "-+ #0".toList.contains letter
  let (width, widthLength) := sizeAt (letters.drop flags.length)
  let before := flags.length + widthLength
  let (precision, precisionLength) : Option Size × Nat :=
    match letters.drop before with
    | '.' :: rest =>
        let (size, length) := sizeAt rest
        (some (size.getD (.fixed 0)), length + 1)
    | _ => (none, 0)
  let length := before + precisionLength + 1
  match letters.drop (length - 1) with
  | [] => (.unfinished, letters.length)
  | conversion :: _ =>
      if conversions.contains conversion then (.directive flags width precision conversion, length)
      else (.invalid ("%" ++ String.ofList (letters.take length)), length)

/-- The parts of a format, after a number of letters that are passed over. -/
def formatParts (skip : Nat) : List Char → List FormatPart
  | [] => []
  | letter :: rest =>
      match skip with
      | left + 1 => formatParts left rest
      | 0 =>
          match letter, rest with
          | '%', '%' :: _ => .letter '%' :: formatParts 1 rest
          | '%', _ =>
              let (part, length) := directiveAt rest
              part :: formatParts length rest
          | '\\', _ =>
              match escaped? rest with
              | some (meaning, length) => .letter meaning :: formatParts length rest
              | none => .letter '\\' :: formatParts 0 rest
          | _, _ => .letter letter :: formatParts 0 rest

/-! ## Numbers in arguments -/

/-- A number at the start of an argument, and what is wrong with the argument. -/
def numberIn (least greatest : Int) (text : String) : Int × Option String :=
  match text.toList with
  | '"' :: rest | '\'' :: rest => ((rest.head?.map fun letter => (letter.toNat : Int)).getD 0, none)
  | letters =>
      let unspaced := letters.dropWhile isBlank
      let (isNegative, unsigned) := match unspaced with
        | '-' :: rest => (true, rest)
        | '+' :: rest => (false, rest)
        | _ => (false, unspaced)
      let (digits, base, before) := digitsAt unsigned
      let rest := unsigned.drop (before + digits.length)
      let magnitude : Int := digitsValue base 0 digits
      let value := if isNegative then -magnitude else magnitude
      let complaint :=
        if digits.isEmpty then (if letters.isEmpty then none else some ": expected numeric value")
        else if !rest.isEmpty then some ": not completely converted"
        else if value < least || greatest < value then some ": Numerical result out of range"
        else none
      (max least (min greatest value), complaint.map (text ++ ·))
where
  /-- The blanks that may stand before a number. -/
  isBlank (letter : Char) : Bool :=
    letter == ' ' || ('\t' ≤ letter && letter ≤ '\x0d')

/-- A decimal number with a point: whether it is negative, its digits as a number, and how many of them follow the point. -/
def decimalIn (text : String) : Bool × Nat × Nat :=
  let (isNegative, unsigned) := match text.toList with
    | '-' :: rest => (true, rest)
    | letters => (false, letters)
  let whole := unsigned.takeWhile Char.isDigit
  let fraction := match unsigned.drop whole.length with
    | '.' :: rest => rest.takeWhile Char.isDigit
    | _ => []
  (isNegative, digitsValue 10 0 (whole ++ fraction), fraction.length)

/-! ## Conversions -/

/-- Fills a text with blanks up to a width, on the right if the flags say so. -/
def padded (flags : List Char) (width : Nat) (letters : List Char) : List Char :=
  let blanks := List.replicate (width - letters.length) ' '
  if flags.contains '-' then letters ++ blanks else blanks ++ letters

/-- Fills a number with a sign up to a width, with zeros if the flags say so. -/
def paddedNumber (flags : List Char) (width : Nat) (usesZeros : Bool) (sign digits : List Char) :
    List Char :=
  if usesZeros && flags.contains '0' && !flags.contains '-' then
    sign ++ List.replicate (width - sign.length - digits.length) '0' ++ digits
  else padded flags width (sign ++ digits)

/-- The digits of a number in a base. -/
def digitsIn (base : Nat) (isUpper : Bool) (value : Nat) : List Char :=
  (Nat.toDigits base value).map fun digit => if isUpper then digit.toUpper else digit

/-- The sign of a number. -/
def signOf (flags : List Char) (isNegative : Bool) : List Char :=
  if isNegative then ['-']
  else if flags.contains '+' then ['+']
  else if flags.contains ' ' then [' ']
  else []

/-- A whole number as a conversion writes it. -/
def integerText (flags : List Char) (width : Nat) (precision : Option Nat) (conversion : Char)
    (value : Int) : List Char :=
  let isSigned := conversion == 'd' || conversion == 'i'
  let base := match conversion with
    | 'o' => 8
    | 'x' | 'X' => 16
    | _ => 10
  let magnitude := if isSigned then value.natAbs else (value % numberCount).toNat
  let plain := if precision = some 0 && magnitude = 0 then []
    else digitsIn base (conversion == 'X') magnitude
  let digits := List.replicate (precision.getD 0 - plain.length) '0' ++ plain
  let isMarked := flags.contains '#'
  let digits := if isMarked && base = 8 && digits.head? != some '0' then '0' :: digits else digits
  let sign :=
    if isSigned then signOf flags (value < 0)
    else if isMarked && base = 16 && magnitude != 0 then ['0', conversion]
    else []
  paddedNumber flags width precision.isNone sign digits

/-- A number with places after the point; a half goes to the even neighbour. -/
def decimalText (flags : List Char) (width places : Nat) (text : String) : List Char :=
  let (isNegative, digits, count) := decimalIn text
  let scaled := digits * Nat.pow 10 places
  let unit := Nat.pow 10 count
  let whole := scaled / unit
  let twice := 2 * (scaled % unit)
  let rounded := if unit < twice || (twice = unit && whole % 2 = 1) then whole + 1 else whole
  let all := Nat.toDigits 10 rounded
  let all := List.replicate (places + 1 - all.length) '0' ++ all
  let (before, after) := all.splitAt (all.length - places)
  let letters := if places = 0 then before else before ++ '.' :: after
  paddedNumber flags width true (signOf flags isNegative) letters

/-! ## Filling in -/

/-- How filling in a format ends early: because an argument asks for it, or with a complaint. -/
inductive FormatEnd where
  | stopped
  | fault (text : String)
  deriving DecidableEq

/-- What has been filled in so far: the arguments that are left, the letters, last one first, and the complaints, last one first. -/
structure Filling where
  arguments : List String
  reversed : List Char
  complaints : List String
  ending : Option FormatEnd
  deriving DecidableEq

namespace Filling

/-- Adds letters. -/
def add (filling : Filling) (letters : List Char) : Filling :=
  { filling with reversed := letters.reverse ++ filling.reversed }

/-- The next argument, and what is left; there may be none. -/
def next (filling : Filling) : Option String × Filling :=
  (filling.arguments.head?, { filling with arguments := filling.arguments.tail })

/-- The number that the next argument stands for. -/
def nextNumber (filling : Filling) (least greatest : Int) : Int × Filling :=
  let (argument, rest) := filling.next
  let (value, complaint) := numberIn least greatest (argument.getD "")
  (value, { rest with complaints := complaint.toList ++ rest.complaints })

/-- The number that a size stands for. -/
def size (filling : Filling) : Option Size → Option Int × Filling
  | none => (none, filling)
  | some (.fixed number) => (some number, filling)
  | some .argument =>
      let (value, rest) := filling.nextNumber (-greatestNumber - 1) greatestNumber
      (some value, rest)

/-- Adds a part of a format. -/
def step (filling : Filling) (part : FormatPart) : Filling :=
  if filling.ending.isSome then filling
  else match part with
    | .letter letter => filling.add [letter]
    | .unfinished => { filling with ending := some (.fault "missing format character") }
    | .invalid text => { filling with ending := some (.fault (text ++ ": invalid directive")) }
    | .directive flags width precision conversion =>
        let (width, filling) := filling.size width
        let (precision, filling) := filling.size precision
        let given := width.getD 0
        let flags := if given < 0 then '-' :: flags else flags
        let width := given.natAbs
        let precision := (precision.filter (0 ≤ ·)).map Int.toNat
        let cut (letters : List Char) : List Char :=
          padded flags width (letters.take (precision.getD letters.length))
        match conversion with
        | 's' =>
            let (argument, rest) := filling.next
            rest.add (cut (argument.getD "").toList)
        | 'b' =>
            let (argument, rest) := filling.next
            let (letters, stops) := unescape 0 (argument.getD "").toList
            let rest := rest.add (cut letters)
            if stops then { rest with ending := some .stopped } else rest
        | 'c' =>
            let (argument, rest) := filling.next
            let letter := (argument.getD "").toList.headD '\x00'
            rest.add (padded flags width [letter])
        | 'f' =>
            let (argument, rest) := filling.next
            rest.add (decimalText flags width (precision.getD 6) (argument.getD "0"))
        | 'd' | 'i' =>
            let (value, rest) := filling.nextNumber (-greatestNumber - 1) greatestNumber
            rest.add (integerText flags width precision conversion value)
        | _ =>
            let greatest : Int := numberCount - 1
            let (value, rest) := filling.nextNumber (-greatest) greatest
            rest.add (integerText flags width precision conversion value)

/-- Adds the parts of a format, again and again as long as they take arguments and some are left. -/
def fill (filling : Filling) (parts : List FormatPart) : Nat → Filling
  | 0 => filling
  | left + 1 =>
      let after := parts.foldl step filling
      let isOver := after.ending.isSome || after.arguments.isEmpty ||
        after.arguments.length == filling.arguments.length
      if isOver then after else after.fill parts left

end Filling

/-- Fills arguments into a format. -/
def filled (format : String) (arguments : List String) : Filling :=
  Filling.fill ⟨arguments, [], [], none⟩ (formatParts 0 format.toList) (arguments.length + 1)

end Script
end TileProgram
