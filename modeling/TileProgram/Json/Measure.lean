import TileProgram.Binary.Half
import TileProgram.Json.Value

/-!
# Numbers as floating-point values

An integer of 64 bits is rounded once to the target format.  Any other number
goes through double precision: its digits fill a significand of 64 bits, digits
that no longer fit only move the exponent, and the significand is then scaled
by a power of ten with one rounding for each factor.  A number too large for
double precision has no value.
-/

namespace TileProgram
namespace Json

open Decimal Binary

/-- The digits read so far: a significand of 64 bits, a power of ten, and whether the significand is full. -/
structure Accumulator where
  significand : Nat
  exponent : Int
  full : Bool
  deriving DecidableEq

namespace Accumulator

/-- Nothing read. -/
def empty : Accumulator := ⟨0, 0, false⟩

/-- Whether one more digit fits. -/
def fits (accumulator : Accumulator) (digit : Digit) : Bool :=
  !accumulator.full && accumulator.significand * 10 + digit.val < UInt64.size

/-- Reads a digit before the point. -/
def addWhole (accumulator : Accumulator) (digit : Digit) : Accumulator :=
  if accumulator.fits digit then
    { accumulator with significand := accumulator.significand * 10 + digit.val }
  else { accumulator with exponent := accumulator.exponent + 1, full := true }

/-- Reads a digit after the point. -/
def addFraction (accumulator : Accumulator) (digit : Digit) : Accumulator :=
  if accumulator.fits digit then
    { accumulator with
      significand := accumulator.significand * 10 + digit.val
      exponent := accumulator.exponent - 1 }
  else { accumulator with full := true }

/-- Reads all digits of a number; the significand is tried anew after the point. -/
def ofDigits (whole fraction : List Digit) : Accumulator :=
  fraction.foldl addFraction { whole.foldl addWhole empty with full := false }

end Accumulator

/-- The largest power of ten that double precision holds. -/
def greatestPower : Nat := 308

/-- The double nearest to a power of ten. -/
def powerOfTen (power : Nat) : Nat :=
  Format.double.nearest (Nat.pow 10 power) 1

/-- Scales a double by a power of ten, unless the result is infinite. -/
def scaleByTen (pattern : Nat) (exponent : Int) : Option Nat :=
  if exponent.natAbs ≤ greatestPower then
    if exponent ≥ 0 then
      let product := Format.double.multiply pattern (powerOfTen exponent.natAbs)
      if product = Format.double.infinity then none else some product
    else some (Format.double.divide pattern (powerOfTen exponent.natAbs))
  else if pattern = 0 then some 0
  else if exponent > 0 then none
  else scaleByTen (Format.double.divide pattern (powerOfTen greatestPower)) (exponent + greatestPower)
termination_by (-exponent).toNat
decreasing_by simp only [greatestPower] at *; omega

/-- The largest exponent that is read as a number. -/
def greatestExponent : Nat := 0x7FFFFFFF

namespace Numeral

/-- The magnitude of a number in double precision, unless it is too large. -/
def double? (numeral : Numeral) : Option Nat :=
  let read := Accumulator.ofDigits numeral.whole (numeral.fraction.getD [])
  match numeral.exponent with
  | none => scaleByTen (Format.double.nearest read.significand 1) read.exponent
  | some (negative, digits) =>
      let power := valueOf digits
      if power > greatestExponent then
        if negative ∨ read.significand = 0 then some 0 else none
      else
        scaleByTen (Format.double.nearest read.significand 1)
          (read.exponent + (if negative then -(power : Int) else power))

/-- An integer that a signed or unsigned word of 64 bits holds. -/
def word? (numeral : Numeral) : Option Int :=
  numeral.toInt?.filter fun value => -0x8000000000000000 ≤ value ∧ value < UInt64.size

/-- The single precision value of a number, unless it is too large for double precision. -/
def single? (numeral : Numeral) : Option Single :=
  match numeral.word? with
  | some value => some (Single.ofInt value)
  | none =>
      numeral.double?.map fun pattern =>
        Single.ofParts numeral.isNegative (Format.convert Format.double Format.single pattern)

/-- Whether a number has a value in double precision. -/
def isFinite (numeral : Numeral) : Bool :=
  numeral.word?.isSome || numeral.double?.isSome

end Numeral
end Json
end TileProgram
