import Mathlib.Algebra.Order.Field.Power
import Mathlib.Data.Nat.Prime.Basic
import Mathlib.Tactic.Linarith
import Mathlib.Tactic.LinearCombination
import Mathlib.Tactic.Positivity
import Mathlib.Tactic.Ring
import TileProgram.Json.Measure
import TileProgram.Proofs.Binary.Rounding

/-!
# Decimals and the ends of intervals

The ends of the intervals of single precision are binary numbers of 25 digits.
A decimal whose power of ten is at least the unit of such an end is either the
end or not too near to it.  How near it can be is a question about the
fractions around the power of ten, and a walk through the mediants of fractions
answers it for each power.
-/

namespace TileProgram
namespace Decimal

open Binary

/-- Two neighbouring fractions of units and tens, the first one not above a ratio and the second one
above it. -/
structure Bracket where
  lowerUnits : ℕ
  lowerTens : ℕ
  upperUnits : ℕ
  upperTens : ℕ
  deriving DecidableEq

namespace Bracket

/-- Every positive fraction lies between these two. -/
def all : Bracket := ⟨0, 1, 1, 0⟩

/-- Narrows a bracket around a ratio while the mediant has fewer than 25 binary digits of units, or
until the ratio is the lower end. -/
def narrow (numerator denominator : ℕ) : ℕ → Bracket → Bracket
  | 0, bracket => bracket
  | steps + 1, bracket =>
      let units := bracket.lowerUnits + bracket.upperUnits
      let tens := bracket.lowerTens + bracket.upperTens
      if 2 ^ 25 ≤ units ∨
          bracket.lowerUnits * denominator = bracket.lowerTens * numerator then bracket
      else if units * denominator ≤ tens * numerator then
        narrow numerator denominator steps { bracket with lowerUnits := units, lowerTens := tens }
      else narrow numerator denominator steps { bracket with upperUnits := units, upperTens := tens }

/-- A bracket shows that, seen from fractions of few units, a ratio and another one that is read in
its place lie on the same side and the other one not too near. -/
structure Separates
    (bracket : Bracket)
    (numerator denominator readNumerator readDenominator : ℕ) : Prop where
  neighbours : bracket.upperUnits * bracket.lowerTens =
    bracket.lowerUnits * bracket.upperTens + 1
  above : bracket.upperTens * numerator < bracket.upperUnits * denominator
  farAbove : readDenominator + 2 ^ 29 * (bracket.upperTens * readNumerator) <
    2 ^ 29 * (bracket.upperUnits * readDenominator)
  below :
    bracket.lowerUnits * denominator = bracket.lowerTens * numerator ∧
        bracket.lowerUnits * readDenominator = bracket.lowerTens * readNumerator ∨
      2 ^ 25 ≤ bracket.lowerUnits + bracket.upperUnits ∧
        bracket.lowerUnits * denominator < bracket.lowerTens * numerator ∧
        readDenominator + 2 ^ 29 * (bracket.lowerUnits * readDenominator) <
          2 ^ 29 * (bracket.lowerTens * readNumerator)

instance
    (bracket : Bracket)
    (numerator denominator readNumerator readDenominator : ℕ) :
    Decidable (bracket.Separates numerator denominator readNumerator readDenominator) :=
  decidable_of_iff
    (bracket.upperUnits * bracket.lowerTens = bracket.lowerUnits * bracket.upperTens + 1 ∧
      bracket.upperTens * numerator < bracket.upperUnits * denominator ∧
      readDenominator + 2 ^ 29 * (bracket.upperTens * readNumerator) <
        2 ^ 29 * (bracket.upperUnits * readDenominator) ∧
      (bracket.lowerUnits * denominator = bracket.lowerTens * numerator ∧
          bracket.lowerUnits * readDenominator = bracket.lowerTens * readNumerator ∨
        2 ^ 25 ≤ bracket.lowerUnits + bracket.upperUnits ∧
          bracket.lowerUnits * denominator < bracket.lowerTens * numerator ∧
          readDenominator + 2 ^ 29 * (bracket.lowerUnits * readDenominator) <
            2 ^ 29 * (bracket.lowerTens * readNumerator)))
    ⟨fun ⟨neighbours, above, farAbove, below⟩ => ⟨neighbours, above, farAbove, below⟩,
      fun ⟨neighbours, above, farAbove, below⟩ => ⟨neighbours, above, farAbove, below⟩⟩

/-- The bracket of a ratio. -/
def around (numerator denominator : ℕ) : Bracket :=
  narrow numerator denominator 800 all

namespace Separates

variable
  {bracket : Bracket}
  {numerator denominator readNumerator readDenominator tens units : ℕ}

/-- The ends of a bracket span all fractions. -/
theorem exists_coordinates
    (separates : bracket.Separates numerator denominator readNumerator readDenominator)
    (tens units : ℕ) :
    ∃ lower upper : ℤ,
      (tens : ℤ) = lower * bracket.lowerTens + upper * bracket.upperTens ∧
      (units : ℤ) = lower * bracket.lowerUnits + upper * bracket.upperUnits := by
  have neighbours : (bracket.upperUnits : ℤ) * bracket.lowerTens =
      bracket.lowerUnits * bracket.upperTens + 1 := by
    exact_mod_cast separates.neighbours
  refine ⟨tens * bracket.upperUnits - units * bracket.upperTens,
    units * bracket.lowerTens - tens * bracket.lowerUnits, ?_, ?_⟩
  · linear_combination (-(tens : ℤ)) * neighbours
  · linear_combination (-(units : ℤ)) * neighbours

theorem lowerTens_pos
    (separates : bracket.Separates numerator denominator readNumerator readDenominator) :
    0 < bracket.lowerTens ∧ 0 < bracket.upperUnits := by
  have product : 0 < bracket.upperUnits * bracket.lowerTens := by
    rw [separates.neighbours]
    exact Nat.succ_pos _
  exact ⟨Nat.pos_of_mul_pos_left product, Nat.pos_of_mul_pos_right product⟩

/-- A fraction of few units is not strictly between the ends: it has one of them at most, unless the
lower end is the ratio itself. -/
theorem coordinates
    (separates : bracket.Separates numerator denominator readNumerator readDenominator)
    (few : units < 2 ^ 25)
    {lower upper : ℤ}
    (ofTens : (tens : ℤ) = lower * bracket.lowerTens + upper * bracket.upperTens)
    (ofUnits : (units : ℤ) = lower * bracket.lowerUnits + upper * bracket.upperUnits)
    (wide : 2 ^ 25 ≤ bracket.lowerUnits + bracket.upperUnits) :
    (lower ≤ 0 ∧ 0 < upper) ∨ (0 < lower ∧ upper ≤ 0) ∨ (lower = 0 ∧ upper = 0) := by
  obtain ⟨tensPositive, unitsPositive⟩ := separates.lowerTens_pos
  have tensPositive : (0 : ℤ) < bracket.lowerTens := by exact_mod_cast tensPositive
  have unitsPositive : (0 : ℤ) < bracket.upperUnits := by exact_mod_cast unitsPositive
  have tensNatural : (0 : ℤ) ≤ tens := Int.natCast_nonneg _
  have unitsNatural : (0 : ℤ) ≤ units := Int.natCast_nonneg _
  have lowerNatural : (0 : ℤ) ≤ bracket.lowerUnits := Int.natCast_nonneg _
  have upperNatural : (0 : ℤ) ≤ bracket.upperTens := Int.natCast_nonneg _
  have few : (units : ℤ) < bracket.lowerUnits + bracket.upperUnits := by
    exact_mod_cast few.trans_le wide
  rcases lt_trichotomy lower 0 with negative | zero | positive
  · left
    refine ⟨negative.le, ?_⟩
    by_contra less
    have := mul_neg_of_neg_of_pos negative tensPositive
    have := mul_nonpos_of_nonpos_of_nonneg (not_lt.mp less) upperNatural
    linarith
  · subst zero
    rcases lt_trichotomy upper 0 with negative | zero | positive
    · have := mul_neg_of_neg_of_pos negative unitsPositive
      linarith
    · exact .inr (.inr ⟨rfl, zero⟩)
    · exact .inl ⟨le_refl _, positive⟩
  · right
    left
    refine ⟨positive, ?_⟩
    by_contra greater
    have first := mul_le_mul_of_nonneg_right (Int.add_one_le_iff.mpr positive) lowerNatural
    have second := mul_le_mul_of_nonneg_right
      (Int.add_one_le_iff.mpr (not_le.mp greater)) unitsPositive.le
    linarith

/-- A sum of distances to the two ends has the sign of its coordinates, and a positive part of one
of them keeps it away from zero. -/
theorem sum_far
    (lower upper below above readBelow readAbove margin : ℤ)
    (nonnegative : 0 ≤ margin)
    (abovePositive : 0 < above)
    (farAbove : margin < 2 ^ 29 * readAbove)
    (cases : below = 0 ∧ readBelow = 0 ∨
      ((lower ≤ 0 ∧ 0 < upper) ∨ (0 < lower ∧ upper ≤ 0) ∨ (lower = 0 ∧ upper = 0)) ∧
        0 < below ∧ margin < 2 ^ 29 * readBelow) :
    (lower * below < upper * above →
      margin + 2 ^ 29 * (lower * readBelow) < 2 ^ 29 * (upper * readAbove)) ∧
    (upper * above < lower * below →
      margin + 2 ^ 29 * (upper * readAbove) < 2 ^ 29 * (lower * readBelow)) ∧
    (lower * below = upper * above → lower * readBelow = upper * readAbove) := by
  have readAbovePositive : 0 < readAbove := by linarith
  rcases cases with ⟨rfl, rfl⟩ | ⟨signs, belowPositive, farBelow⟩
  · rw [mul_zero, mul_zero]
    refine ⟨fun less => ?_, fun greater => ?_, fun equal => ?_⟩
    · have sign : 0 < upper := pos_of_mul_pos_left less abovePositive.le
      have := le_mul_of_one_le_left readAbovePositive.le (Int.add_one_le_iff.mpr sign)
      linarith
    · have sign : upper < 0 := by
        by_contra other
        exact absurd greater (not_lt.mpr (mul_nonneg (not_lt.mp other) abovePositive.le))
      have := mul_le_mul_of_nonneg_right (Int.le_sub_one_of_lt sign) readAbovePositive.le
      linarith
    · have zero : upper = 0 := (mul_eq_zero.mp equal.symm).resolve_right abovePositive.ne'
      rw [zero, zero_mul]
  · have readBelowPositive : 0 < readBelow := by linarith
    rcases signs with ⟨negative, positive⟩ | ⟨positive, negative⟩ | ⟨rfl, rfl⟩
    · have first := mul_nonpos_of_nonpos_of_nonneg negative belowPositive.le
      have second := mul_pos positive abovePositive
      have third := mul_nonpos_of_nonpos_of_nonneg negative readBelowPositive.le
      have fourth := le_mul_of_one_le_left readAbovePositive.le (Int.add_one_le_iff.mpr positive)
      exact ⟨fun _ => by linarith, fun _ => by linarith, fun _ => by linarith⟩
    · have first := mul_pos positive belowPositive
      have second := mul_nonpos_of_nonpos_of_nonneg negative abovePositive.le
      have third := le_mul_of_one_le_left readBelowPositive.le (Int.add_one_le_iff.mpr positive)
      have fourth := mul_nonpos_of_nonpos_of_nonneg negative readAbovePositive.le
      exact ⟨fun _ => by linarith, fun _ => by linarith, fun _ => by linarith⟩
    · simp

/-- A fraction of few units stays on its side of the ratio, and not too near to it, when the other
ratio is read in its place. -/
theorem far
    (separates : bracket.Separates numerator denominator readNumerator readDenominator)
    (few : units < 2 ^ 25)
    (tens : ℕ) :
    (tens * numerator < units * denominator →
      readDenominator + 2 ^ 29 * (tens * readNumerator) < 2 ^ 29 * (units * readDenominator)) ∧
    (units * denominator < tens * numerator →
      readDenominator + 2 ^ 29 * (units * readDenominator) < 2 ^ 29 * (tens * readNumerator)) ∧
    (tens * numerator = units * denominator →
      tens * readNumerator = units * readDenominator) := by
  obtain ⟨lower, upper, ofTens, ofUnits⟩ := separates.exists_coordinates tens units
  have above := separates.above
  have farAbove := separates.farAbove
  have below := separates.below
  have signs := separates.coordinates few ofTens ofUnits
  zify at above farAbove below signs ⊢
  obtain ⟨less, greater, equal⟩ := sum_far lower upper
    (bracket.lowerTens * numerator - bracket.lowerUnits * denominator)
    (bracket.upperUnits * denominator - bracket.upperTens * numerator)
    (bracket.lowerTens * readNumerator - bracket.lowerUnits * readDenominator)
    (bracket.upperUnits * readDenominator - bracket.upperTens * readNumerator)
    readDenominator (Int.natCast_nonneg readDenominator) (sub_pos.mpr above) (by linarith)
    (below.imp (fun ⟨exact, read⟩ => ⟨by linarith, by linarith⟩)
      fun ⟨wide, exact, read⟩ => ⟨signs wide, by linarith, by linarith⟩)
  rw [ofTens, ofUnits]
  refine ⟨fun holds => ?_, fun holds => ?_, fun holds => ?_⟩
  · linarith [less (by linarith)]
  · linarith [greater (by linarith)]
  · linarith [equal (by linarith)]

/-- The same for rationals, in any unit that is not above the one of the ratio. -/
theorem far_units
    (separates : bracket.Separates numerator denominator readNumerator readDenominator)
    (positive : 0 < denominator)
    (readPositive : 0 < readDenominator)
    {exact read : ℚ}
    {top unit : ℤ}
    (ratio : exact = numerator / denominator * 2 ^ top)
    (readRatio : read = readNumerator / readDenominator * 2 ^ top)
    (coarse : unit ≤ top)
    (few : units < 2 ^ 25)
    (tens : ℕ) :
    (tens * exact < units * 2 ^ unit → tens * read + 2 ^ unit / 2 ^ 29 < units * 2 ^ unit) ∧
    (units * 2 ^ unit < tens * exact → units * 2 ^ unit + 2 ^ unit / 2 ^ 29 < tens * read) ∧
    (tens * exact = units * 2 ^ unit → tens * read = units * 2 ^ unit) := by
  obtain ⟨steps, rfl⟩ : ∃ steps : ℕ, top = unit + steps := ⟨(top - unit).toNat, by omega⟩
  have scale : (0 : ℚ) < 2 ^ unit := by positivity
  have cast : (0 : ℚ) < denominator := by exact_mod_cast positive
  have readCast : (0 : ℚ) < readDenominator := by exact_mod_cast readPositive
  -- In units, the decimal is a multiple of the ratio.
  have exactly : tens * exact =
      (((tens * 2 ^ steps : ℕ) : ℚ) * numerator) / denominator * 2 ^ unit := by
    rw [ratio, zpow_add₀ two_ne_zero, zpow_natCast]
    push_cast
    ring
  have reading : tens * read =
      (((tens * 2 ^ steps : ℕ) : ℚ) * readNumerator) / readDenominator * 2 ^ unit := by
    rw [readRatio, zpow_add₀ two_ne_zero, zpow_natCast]
    push_cast
    ring
  obtain ⟨less, greater, equal⟩ := separates.far few (tens * 2 ^ steps)
  rw [exactly, reading]
  generalize tens * 2 ^ steps = many at *
  refine ⟨fun holds => ?_, fun holds => ?_, fun holds => ?_⟩
  · rw [mul_lt_mul_iff_left₀ scale, div_lt_iff₀ cast] at holds
    have apart := less (by exact_mod_cast holds)
    have apart : (readDenominator : ℚ) + 2 ^ 29 * (many * readNumerator) <
        2 ^ 29 * (units * readDenominator) := by
      exact_mod_cast apart
    have sum : (many : ℚ) * readNumerator / readDenominator + 1 / 2 ^ 29 < units := by
      rw [div_add_div _ _ readCast.ne' (by positivity), div_lt_iff₀ (by positivity)]
      linarith
    have scaled := mul_lt_mul_of_pos_right sum scale
    rwa [add_mul, one_div_mul_eq_div] at scaled
  · rw [mul_lt_mul_iff_left₀ scale, lt_div_iff₀ cast] at holds
    have apart := greater (by exact_mod_cast holds)
    have apart : (readDenominator : ℚ) + 2 ^ 29 * (units * readDenominator) <
        2 ^ 29 * (many * readNumerator) := by
      exact_mod_cast apart
    have sum : (units : ℚ) + 1 / 2 ^ 29 < many * readNumerator / readDenominator := by
      rw [lt_div_iff₀ readCast]
      linarith
    have scaled := mul_lt_mul_of_pos_right sum scale
    rwa [add_mul, one_div_mul_eq_div] at scaled
  · rw [mul_left_inj' scale.ne', div_eq_iff cast.ne'] at holds
    have same := equal (by exact_mod_cast holds)
    rw [mul_left_inj' scale.ne', div_eq_iff readCast.ne']
    exact_mod_cast same

end Separates

end Bracket

/-- The double of a power of ten. -/
def powerDouble (power : ℕ) : ℚ :=
  Format.double.value (Json.powerOfTen power)

/-- The number that scaling by a power of ten multiplies with. -/
def readPower (power : ℤ) : ℚ :=
  if 0 ≤ power then powerDouble power.natAbs else 1 / powerDouble power.natAbs

/-- The double of a power of ten as a quotient of naturals. -/
def powerNumerator (power : ℕ) : ℕ :=
  Format.double.significand (Json.powerOfTen power) *
    2 ^ (Format.double.exponent (Json.powerOfTen power)).toNat

/-- The denominator of the double of a power of ten. -/
def powerDenominator (power : ℕ) : ℕ :=
  2 ^ (-Format.double.exponent (Json.powerOfTen power)).toNat

theorem powerDouble_eq (power : ℕ) :
    powerDouble power = powerNumerator power / powerDenominator power := by
  rw [powerDouble, Format.value, zpow_eq_div two_ne_zero, powerNumerator, powerDenominator]
  push_cast
  rw [mul_div_assoc]

/-- Powers of ten are separated from the ends of intervals. -/
theorem separates_pow {power : ℕ} (bounded : power < 39) :
    (Bracket.around (10 ^ power) (2 ^ (10 ^ power).log2)).Separates
      (10 ^ power) (2 ^ (10 ^ power).log2)
      (powerNumerator power) (2 ^ (10 ^ power).log2 * powerDenominator power) := by
  revert power
  decide +kernel

/-- The inverses of powers of ten are separated from the ends of intervals. -/
theorem separates_inverse {power : ℕ} (bounded : power < 46) :
    0 < powerNumerator power ∧
      (Bracket.around (2 ^ ((10 ^ power).log2 + 1)) (10 ^ power)).Separates
        (2 ^ ((10 ^ power).log2 + 1)) (10 ^ power)
        (2 ^ ((10 ^ power).log2 + 1) * powerDenominator power) (powerNumerator power) := by
  revert power
  decide +kernel

/-- A power of ten is not a power of two. -/
theorem pow_log2_lt {power : ℕ} (positive : 0 < power) : 2 ^ (10 ^ power).log2 < 10 ^ power := by
  refine lt_of_le_of_ne (Nat.log2_self_le (by positivity)) fun equal => ?_
  have five : 5 ∣ 2 ^ (10 ^ power).log2 := by
    rw [equal]
    exact dvd_pow (by decide) positive.ne'
  exact absurd (Nat.prime_five.dvd_of_dvd_pow five) (by decide)

/-- A decimal with a power of ten that is at least the unit of a number of 25 binary digits stays on
its side of the number, and not too near to it, when the double of the power is read. -/
theorem separated
    {power unit : ℤ}
    (least : -45 ≤ power)
    (greatest : power ≤ 38)
    (coarse : (2 : ℚ) ^ unit ≤ 10 ^ power)
    {units : ℕ}
    (few : units < 2 ^ 25)
    (tens : ℕ) :
    (tens * (10 : ℚ) ^ power < units * 2 ^ unit →
      tens * readPower power + 2 ^ unit / 2 ^ 29 < units * 2 ^ unit) ∧
    (units * 2 ^ unit < tens * (10 : ℚ) ^ power →
      units * 2 ^ unit + 2 ^ unit / 2 ^ 29 < tens * readPower power) ∧
    (tens * (10 : ℚ) ^ power = units * 2 ^ unit → tens * readPower power = units * 2 ^ unit) := by
  by_cases sign : 0 ≤ power
  · obtain ⟨amount, rfl⟩ : ∃ amount : ℕ, power = amount := ⟨power.toNat, by omega⟩
    have below : (10 : ℚ) ^ amount < 2 ^ (((10 ^ amount).log2 : ℤ) + 1) := by
      exact_mod_cast @Nat.lt_log2_self (10 ^ amount)
    have order : unit < ((10 ^ amount).log2 : ℤ) + 1 := by
      rw [zpow_natCast] at coarse
      exact (zpow_lt_zpow_iff_right₀ one_lt_two).mp (coarse.trans_lt below)
    have bounded : amount < 39 := by omega
    refine (separates_pow bounded).far_units (by positivity)
      (by rw [powerDenominator]; positivity) ?_ ?_ (Int.lt_add_one_iff.mp order) few tens
    · push_cast
      rw [zpow_natCast, zpow_natCast, div_mul_cancel₀ _ (by positivity)]
    · rw [readPower, if_pos sign, Int.natAbs_natCast, powerDouble_eq]
      push_cast
      rw [zpow_natCast]
      field_simp
  · obtain ⟨amount, rfl⟩ : ∃ amount : ℕ, power = -(amount : ℤ) := ⟨power.natAbs, by omega⟩
    have positive : 0 < amount := by omega
    have above : (2 : ℚ) ^ ((10 ^ amount).log2 : ℤ) < 10 ^ amount := by
      exact_mod_cast pow_log2_lt positive
    have order : unit < -((10 ^ amount).log2 : ℤ) := by
      rw [zpow_neg, zpow_natCast] at coarse
      have inverse : ((10 : ℚ) ^ amount)⁻¹ < (2 ^ ((10 ^ amount).log2 : ℤ))⁻¹ :=
        inv_strictAnti₀ (by positivity) above
      rw [← zpow_neg] at inverse
      exact (zpow_lt_zpow_iff_right₀ one_lt_two).mp (coarse.trans_lt inverse)
    have bounded : amount < 46 := by omega
    obtain ⟨readPositive, separates⟩ := separates_inverse bounded
    have coarser : unit ≤ -(((10 ^ amount).log2 : ℤ) + 1) := by omega
    refine separates.far_units (by positivity) readPositive ?_ ?_ coarser few tens
    · push_cast
      rw [zpow_neg, zpow_neg, zpow_natCast, zpow_add_one₀ two_ne_zero, zpow_natCast, pow_succ]
      field_simp
    · have cast : (powerNumerator amount : ℚ) ≠ 0 := by exact_mod_cast readPositive.ne'
      rw [readPower, if_neg sign, Int.natAbs_neg, Int.natAbs_natCast, powerDouble_eq]
      push_cast
      rw [zpow_neg, zpow_add_one₀ two_ne_zero, zpow_natCast, pow_succ]
      field_simp

end Decimal
end TileProgram
