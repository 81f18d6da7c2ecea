import TileProgram.Binary.Half

/-!
# Decimals

How a binary number is written: its digits, the shortest decimal that stands for
it, and the layout of that decimal.
-/

/-!
## Decimal digits

Naturals as lists of digits, first digit first, and digits as characters.
-/

namespace TileProgram
namespace Decimal

/-- A decimal digit. -/
abbrev Digit := Fin 10

/-- The digit zero. -/
def Digit.zero : Digit := ⟨0, by decide⟩

/-- The character of a digit. -/
def Digit.toChar (digit : Digit) : Char :=
  Char.ofNat ('0'.toNat + digit.val)

/-- The digit that a character stands for. -/
def Digit.ofChar? (letter : Char) : Option Digit :=
  let value := letter.toNat - '0'.toNat
  if bound : '0'.toNat ≤ letter.toNat ∧ value < 10 then some ⟨value, bound.2⟩ else none

/-- The natural that a list of digits stands for. -/
def valueOf (digits : List Digit) : Nat :=
  digits.foldl (fun value digit => 10 * value + digit.val) 0

/-- Puts the digits of a positive natural in front of a list. -/
def digitsOnto (value : Nat) (rest : List Digit) : List Digit :=
  if value = 0 then rest
  else digitsOnto (value / 10) (⟨value % 10, Nat.mod_lt value (by decide)⟩ :: rest)
termination_by value
decreasing_by omega

/-- The digits of a natural; zero has one digit. -/
def digitsOf (value : Nat) : List Digit :=
  if value = 0 then [.zero] else digitsOnto value []

/-- The number of digits of a natural. -/
def digitCount (value : Nat) : Nat :=
  (digitsOf value).length

/-- The text of a list of digits. -/
def textOf (digits : List Digit) : String :=
  String.ofList (digits.map Digit.toChar)

end Decimal
end TileProgram

/-!
## Shortest decimals

A finite binary number is the value nearest to every real of an interval
around it.  Its shortest decimal is the one with the fewest digits in that
interval and, of those, the one nearest to the number; what an exact tie does
is a parameter.
-/

namespace TileProgram
namespace Decimal

/-- What to choose when two decimals are equally near. -/
inductive Tie where
  | upward
  | toEven
  deriving DecidableEq

/-- A positive decimal: a natural times a power of ten. -/
structure Scaled where
  coefficient : Nat
  power : Int
  deriving DecidableEq

/-- The power of ten of the first digit of a positive quotient. -/
def leadingPower (numerator denominator : Nat) : Int :=
  if denominator ≤ numerator then
    (digitCount (numerator / denominator) : Int) - 1
  else
    -(digitCount ((denominator + numerator - 1) / numerator - 1) : Int)

/-- The reals that a finite pattern stands for, in units of a quarter of its last place. -/
structure Interval where
  lower : Nat
  middle : Nat
  upper : Nat
  closed : Bool
  unit : Int

/-- The interval around a positive finite pattern. -/
def intervalOf (format : Binary.Format) (pattern : Nat) : Interval :=
  let count := format.significand pattern
  let narrow := count = format.hidden ∧ format.exponent pattern > format.leastExponent
  { lower := 4 * count - (if narrow then 1 else 2)
    middle := 4 * count
    upper := 4 * count + 2
    closed := count % 2 = 0
    unit := format.exponent pattern - 2 }

namespace Interval

/-- Whether a decimal, scaled to the common denominator, lies in the interval. -/
def contains (interval : Interval) (ten two candidate : Nat) : Bool :=
  let point := candidate * ten
  if interval.closed then interval.lower * two ≤ point ∧ point ≤ interval.upper * two
  else interval.lower * two < point ∧ point < interval.upper * two

/-- The better of the two neighbours of the middle on the grid of one power of ten, if one lies inside. -/
def onGrid? (interval : Interval) (tie : Tie) (power : Int) : Option Nat :=
  let ten := Nat.pow 10 power.toNat * Nat.pow 2 (-interval.unit).toNat
  let two := Nat.pow 10 (-power).toNat * Nat.pow 2 interval.unit.toNat
  let below := interval.middle * two / ten
  let above := below + 1
  match interval.contains ten two below, interval.contains ten two above with
  | false, false => none
  | true, false => some below
  | false, true => some above
  | true, true =>
      let toBelow := interval.middle * two - below * ten
      let toAbove := above * ten - interval.middle * two
      if toBelow < toAbove then some below
      else if toAbove < toBelow then some above
      else match tie with
        | .upward => some above
        | .toEven => some (if below % 2 = 0 then below else above)

end Interval

/-- Drops the zeros at the end of a coefficient, at most the given number of them. -/
def dropZeros : Nat → Scaled → Scaled
  | 0, value => value
  | count + 1, value =>
      if value.coefficient % 10 = 0 then
        dropZeros count ⟨value.coefficient / 10, value.power + 1⟩
      else value

/-- The most digits that any of the formats needs. -/
def mostDigits : Nat := 17

/-- The shortest decimal of a positive finite pattern. -/
def shortest (format : Binary.Format) (tie : Tie) (pattern : Nat) : Scaled :=
  let interval := intervalOf format pattern
  let first :=
    leadingPower (interval.middle * Nat.pow 2 interval.unit.toNat)
      (Nat.pow 2 (-interval.unit).toNat)
  let grids := (List.range mostDigits).map fun (digits : Nat) => first - digits
  let found := grids.findSome? fun power =>
    (interval.onGrid? tie power).map fun coefficient => Scaled.mk coefficient power
  dropZeros mostDigits (found.getD ⟨0, 0⟩)

end Decimal
end TileProgram

/-!
## Laying out decimals

A layout says which powers of ten of the first digit are written positionally
and which way a tie between shortest decimals goes.  The result is a whole
part, a fraction and perhaps an exponent; how these are joined to a text is
left to the writer.
-/

namespace TileProgram
namespace Decimal

/-- The choices of a written form for numbers. -/
structure Layout where
  leastPositional : Int
  greatestPositional : Int
  tie : Tie

/-- A written decimal: digits before and after the point, and a power of ten. -/
structure Written where
  whole : List Digit
  fraction : List Digit
  exponent : Option Int
  deriving DecidableEq

/-- Digits whose first one has the given power of ten, with at least one digit on each side of the point. -/
def positional (digits : List Digit) (first : Int) : Written :=
  if first < 0 then
    ⟨[.zero], List.replicate ((-first).toNat - 1) .zero ++ digits, none⟩
  else
    let count := first.toNat + 1
    if digits.length ≤ count then
      ⟨digits ++ List.replicate (count - digits.length) .zero, [.zero], none⟩
    else ⟨digits.take count, digits.drop count, none⟩

/-- The written form of a positive decimal. -/
def Layout.scaled (layout : Layout) (value : Scaled) : Written :=
  let digits := digitsOf value.coefficient
  let first := value.power + digits.length - 1
  if layout.leastPositional ≤ first ∧ first ≤ layout.greatestPositional then
    positional digits first
  else ⟨digits.take 1, digits.drop 1, some first⟩

/-- The written form of a finite pattern. -/
def Layout.write (layout : Layout) (format : Binary.Format) (pattern : Nat) : Written :=
  if pattern = 0 then ⟨[.zero], [.zero], none⟩
  else layout.scaled (shortest format layout.tie pattern)

end Decimal
end TileProgram
