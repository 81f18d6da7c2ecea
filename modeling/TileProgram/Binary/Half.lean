import TileProgram.Bytes.LittleEndian

/-!
# Binary floating-point numbers

Formats in general, and the two that programs use.
-/

/-!
## Binary floating-point formats

A format counts its non-negative finite values in increasing order from zero;
the count of a value is its bit pattern without the sign, and the pattern
after the last finite one stands for infinity.  The module reads a pattern as a
significand times a power of two and rounds a quotient of naturals to the
nearest pattern, an exact half going to the even one.
-/

namespace TileProgram
namespace Binary

/-- Rounds a quotient to the nearest natural, a half to the even neighbour. -/
def roundQuotient (numerator denominator : Nat) : Nat :=
  let whole := numerator / denominator
  let twice := 2 * (numerator % denominator)
  if twice < denominator ∨ (twice = denominator ∧ whole % 2 = 0) then whole else whole + 1

/-- The size of a binary format: bits of the significand, the leading one included, and of the exponent. -/
structure Format where
  precision : Nat
  exponentBits : Nat
  deriving DecidableEq

namespace Format

/-- Half precision: 16 bits in all. -/
def half : Format := ⟨11, 5⟩

/-- Single precision: 32 bits in all. -/
def single : Format := ⟨24, 8⟩

/-- Double precision: 64 bits in all. -/
def double : Format := ⟨53, 11⟩

/-- The least normal significand, which is also the number of patterns per exponent. -/
def hidden (format : Format) : Nat :=
  Nat.pow 2 (format.precision - 1)

/-- The exponent of the least positive value. -/
def leastExponent (format : Format) : Int :=
  2 - (Nat.pow 2 (format.exponentBits - 1) : Int) - ((format.precision : Int) - 1)

/-- The pattern of infinity, the first one that is not finite. -/
def infinity (format : Format) : Nat :=
  (Nat.pow 2 format.exponentBits - 1) * format.hidden

/-- The significand of a finite pattern. -/
def significand (format : Format) (pattern : Nat) : Nat :=
  if pattern < format.hidden then pattern else format.hidden + pattern % format.hidden

/-- The power of two that the significand of a finite pattern counts. -/
def exponent (format : Format) (pattern : Nat) : Int :=
  format.leastExponent + (pattern / format.hidden - 1 : Nat)

/-- The pattern nearest to a quotient of naturals, infinity if it is too large. -/
def nearest (format : Format) (numerator denominator : Nat) : Nat :=
  if numerator = 0 then 0
  else
    let estimate : Int := (numerator.log2 : Int) - denominator.log2
    let reached := denominator * Nat.pow 2 estimate.toNat ≤ numerator * Nat.pow 2 (-estimate).toNat
    let leading := if reached then estimate else estimate - 1
    let unit := max format.leastExponent (leading - ((format.precision : Int) - 1))
    let count :=
      roundQuotient (numerator * Nat.pow 2 (-unit).toNat) (denominator * Nat.pow 2 unit.toNat)
    min format.infinity ((unit - format.leastExponent).toNat * format.hidden + count)

/-- The pattern nearest to a natural times a power of two. -/
def nearestScaled (format : Format) (count : Nat) (power : Int) : Nat :=
  format.nearest (count * Nat.pow 2 power.toNat) (Nat.pow 2 (-power).toNat)

/-- Re-rounds a finite pattern of one format in another. -/
def convert (source target : Format) (pattern : Nat) : Nat :=
  target.nearestScaled (source.significand pattern) (source.exponent pattern)

/-- The rounded product of two finite patterns. -/
def multiply (format : Format) (left right : Nat) : Nat :=
  format.nearestScaled (format.significand left * format.significand right)
    (format.exponent left + format.exponent right)

/-- The rounded quotient of two finite patterns, the second one not zero. -/
def divide (format : Format) (left right : Nat) : Nat :=
  let power := format.exponent left - format.exponent right
  format.nearest (format.significand left * Nat.pow 2 power.toNat)
    (format.significand right * Nat.pow 2 (-power).toNat)

end Format
end Binary
end TileProgram

/-!
## Half and single precision numbers

A number is kept as its bit pattern, so that the sign of zero and the payload
of a NaN survive.  Numeric equality is separate from equality of patterns: a
NaN equals nothing and the two zeros are equal.  Narrowing rounds to nearest
even and keeps the sign and top payload bits of a NaN, made quiet; widening is
exact.
-/

namespace TileProgram
namespace Binary

/-- A half precision number, given by its bit pattern. -/
structure Half where
  bits : UInt16
  deriving DecidableEq, Inhabited

/-- A single precision number, given by its bit pattern. -/
structure Single where
  bits : UInt32
  deriving DecidableEq, Inhabited

namespace Half

/-- The sign bit. -/
def isNegative (number : Half) : Bool :=
  number.bits.toNat ≥ 0x8000

/-- The pattern without the sign. -/
def magnitude (number : Half) : Nat :=
  number.bits.toNat % 0x8000

/-- A pattern past infinity is not a number. -/
def isNaN (number : Half) : Bool :=
  number.magnitude > Format.half.infinity

/-- Joins a sign and a magnitude. -/
def ofParts (negative : Bool) (magnitude : Nat) : Half :=
  ⟨UInt16.ofNat ((if negative then 0x8000 else 0) + magnitude)⟩

/-- Numeric equality. -/
def equal (left right : Half) : Bool :=
  !left.isNaN && !right.isNaN &&
    (left.bits == right.bits || (left.magnitude == 0 && right.magnitude == 0))

/-- The two bytes of a number, low byte first. -/
def toBytes (number : Half) : Bytes :=
  Bytes.ofNat 2 number.bits.toNat

/-- Reads numbers from pairs of bytes; an odd last byte is ignored. -/
def listOfBytes : Bytes → List Half
  | low :: high :: rest => ⟨UInt16.ofNat (Bytes.toNat [low, high])⟩ :: listOfBytes rest
  | _ => []

/-- The bytes of a list of numbers. -/
def listToBytes (numbers : List Half) : Bytes :=
  numbers.flatMap toBytes

/-- Numeric equality of lists, entry by entry. -/
def listEqual : List Half → List Half → Bool
  | [], [] => true
  | left :: lefts, right :: rights => equal left right && listEqual lefts rights
  | _, _ => false

end Half

namespace Single

/-- The sign bit. -/
def isNegative (number : Single) : Bool :=
  number.bits.toNat ≥ 0x80000000

/-- The pattern without the sign. -/
def magnitude (number : Single) : Nat :=
  number.bits.toNat % 0x80000000

/-- A pattern past infinity is not a number. -/
def isNaN (number : Single) : Bool :=
  number.magnitude > Format.single.infinity

/-- Zeros, subnormal and normal numbers are finite. -/
def isFinite (number : Single) : Bool :=
  number.magnitude < Format.single.infinity

/-- Joins a sign and a magnitude. -/
def ofParts (negative : Bool) (magnitude : Nat) : Single :=
  ⟨UInt32.ofNat ((if negative then 0x80000000 else 0) + magnitude)⟩

/-- Positive zero. -/
def zero : Single := ⟨0⟩

/-- Numeric equality. -/
def equal (left right : Single) : Bool :=
  !left.isNaN && !right.isNaN &&
    (left.bits == right.bits || (left.magnitude == 0 && right.magnitude == 0))

/-- The single precision number nearest to an integer. -/
def ofInt (value : Int) : Single :=
  ofParts (value < 0) (Format.single.nearest value.natAbs 1)

/-- Rounds to half precision. -/
def toHalf (number : Single) : Half :=
  if number.isNaN then
    let payload := number.magnitude % Format.single.hidden / 0x2000
    Half.ofParts number.isNegative (Format.half.infinity + (payload ||| 0x200))
  else if number.isFinite then
    Half.ofParts number.isNegative
      (Format.convert Format.single Format.half number.magnitude)
  else
    Half.ofParts number.isNegative Format.half.infinity

end Single

namespace Half

/-- Widens to single precision, exactly. -/
def toSingle (number : Half) : Single :=
  if number.isNaN then
    let payload := number.magnitude % Format.half.hidden * 0x2000
    Single.ofParts number.isNegative (Format.single.infinity + (payload ||| 0x400000))
  else if number.magnitude = Format.half.infinity then
    Single.ofParts number.isNegative Format.single.infinity
  else
    Single.ofParts number.isNegative
      (Format.convert Format.half Format.single number.magnitude)

end Half
end Binary
end TileProgram
