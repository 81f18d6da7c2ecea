import TileProgram.Proofs.Decimal.Separation
import TileProgram.Proofs.Decimal.Shortest

/-!
# Reading decimals as singles

What scaling by a power of ten does to the digits of a decimal, and why the shortest
decimal of a single is read as the single.
-/

/-!
## Scaling the shortest decimal

A decimal is read in double precision: its coefficient is multiplied with, or
divided by, the double of a power of ten, and the product is rounded to single
precision in the end.  For the shortest decimal of a single the detour never
leaves the interval of the single, so the single is read back.
-/

namespace TileProgram
namespace Json

open Binary Decimal

/-- A natural times a power of two, as the quotient that is rounded. -/
theorem scaled_ratio (count : ℕ) (power : ℤ) :
    ((count * Nat.pow 2 power.toNat : ℕ) : ℚ) / (Nat.pow 2 (-power).toNat : ℕ) =
      count * 2 ^ power := by
  rw [zpow_eq_div two_ne_zero, Nat.pow_eq, Nat.pow_eq]
  push_cast
  rw [mul_div_assoc]

/-- The quotient that a division rounds. -/
theorem divided_ratio (left right : ℕ) :
    ((Format.double.significand left *
        Nat.pow 2 (Format.double.exponent left - Format.double.exponent right).toNat : ℕ) : ℚ) /
      (Format.double.significand right *
        Nat.pow 2 (-(Format.double.exponent left - Format.double.exponent right)).toNat : ℕ) =
      Format.double.value left / Format.double.value right := by
  have power := zpow_eq_div (two_ne_zero (α := ℚ))
    (Format.double.exponent left - Format.double.exponent right)
  rw [zpow_sub₀ two_ne_zero] at power
  rw [Format.value, Format.value, mul_div_mul_comm, power, Nat.pow_eq, Nat.pow_eq]
  push_cast
  rw [mul_div_mul_comm]

/-- A natural of at most 53 binary digits is a double. -/
theorem value_nearest_natural {natural : ℕ} (positive : 0 < natural) (small : natural < 2 ^ 53) :
    Format.double.value (Format.double.nearest natural 1) = natural := by
  have atLeast : (1 : ℚ) ≤ natural := by exact_mod_cast positive
  have below : (natural : ℚ) < 2 ^ 53 := by exact_mod_cast small
  have whole : (natural : ℚ) / (1 : ℕ) = natural := by rw [Nat.cast_one, div_one]
  have lower : (2 : ℚ) ^ (0 : ℤ) ≤ natural := (zpow_zero (2 : ℚ)).trans_le atLeast
  have upper : (natural : ℚ) < 2 ^ ((53 : ℕ) : ℤ) := below.trans_eq (zpow_natCast _ _).symm
  have range : InRange ((natural : ℚ) / (1 : ℕ)) := by
    rw [whole]
    exact .of_zpow lower upper (by decide) (by decide)
  obtain ⟨-, unit, count, rounded⟩ := Format.exists_roundedDouble one_pos range
  have short : (natural : ℚ) / (1 : ℕ) = natural * 2 ^ (0 : ℤ) := by
    rw [whole, zpow_zero, mul_one]
  rw [rounded.eq_of_short small short, whole]

/-- Powers of ten lie between powers of two with four times the exponent. -/
theorem ten_zpow_bounds (power : ℤ) :
    (2 : ℚ) ^ (-(4 * power.natAbs : ℕ) : ℤ) ≤ 10 ^ power ∧
      (10 : ℚ) ^ power ≤ 2 ^ (4 * power.natAbs : ℕ) := by
  have wide : (10 : ℚ) ^ power.natAbs ≤ 2 ^ (4 * power.natAbs) := by
    rw [pow_mul]
    exact pow_le_pow_left₀ (by norm_num) (by norm_num) _
  have atLeast : (1 : ℚ) ≤ 10 ^ power.natAbs := one_le_pow₀ (by norm_num)
  have positive : (0 : ℚ) < 10 ^ power.natAbs := by positivity
  rw [zpow_neg, zpow_natCast]
  rcases Int.natAbs_eq power with sign | sign
  · rw [sign, zpow_natCast, Int.natAbs_natCast]
    exact ⟨(inv_le_one_of_one_le₀ (atLeast.trans wide)).trans atLeast, wide⟩
  · rw [sign, zpow_neg, zpow_natCast, Int.natAbs_neg, Int.natAbs_natCast]
    exact ⟨inv_anti₀ positive wide, (inv_le_one_of_one_le₀ atLeast).trans (atLeast.trans wide)⟩

/-- The double of a power of ten is off by a small part of it. -/
theorem abs_powerDouble_sub_le {power : ℕ} (bounded : power ≤ 200) :
    |powerDouble power - 10 ^ power| ≤ 10 ^ power / 2 ^ 53 := by
  have atLeast : (1 : ℚ) ≤ 10 ^ power := one_le_pow₀ (by norm_num)
  have below : (10 : ℚ) ^ power < 2 ^ ((4 * power + 1 : ℕ) : ℤ) := by
    obtain ⟨-, upper⟩ := ten_zpow_bounds power
    rw [zpow_natCast, Int.natAbs_natCast] at upper
    refine upper.trans_lt ?_
    rw [zpow_natCast]
    exact pow_lt_pow_right₀ one_lt_two (Nat.lt_succ_self _)
  have whole : ((Nat.pow 10 power : ℕ) : ℚ) / (1 : ℕ) = 10 ^ power := by
    rw [Nat.cast_one, div_one, Nat.pow_eq]
    push_cast
    rfl
  have lower : (2 : ℚ) ^ (0 : ℤ) ≤ 10 ^ power := (zpow_zero (2 : ℚ)).trans_le atLeast
  have range : InRange (((Nat.pow 10 power : ℕ) : ℚ) / (1 : ℕ)) := by
    rw [whole]
    exact .of_zpow lower below (by decide) (by omega)
  obtain ⟨-, unit, count, rounded⟩ := Format.exists_roundedDouble one_pos range
  have error := rounded.abs_sub_le_mul
  rwa [whole] at error

/-- What is read for a power of ten is off by a small part of it. -/
theorem abs_readPower_sub_le {power : ℤ} (bounded : power.natAbs ≤ 200) :
    |readPower power - 10 ^ power| ≤ 10 ^ power / 2 ^ 52 := by
  have error := abs_powerDouble_sub_le bounded
  have positive : (0 : ℚ) < 10 ^ power.natAbs := by positivity
  rw [readPower]
  split
  · next sign =>
    have natural : (10 : ℚ) ^ power = 10 ^ power.natAbs := by
      rw [← zpow_natCast, Int.natAbs_of_nonneg sign]
    rw [natural]
    refine error.trans ?_
    rw [div_le_div_iff_of_pos_left positive (by positivity) (by positivity)]
    norm_num
  · next sign =>
    have inverse : (10 : ℚ) ^ power = 1 / 10 ^ power.natAbs := by
      rw [one_div, ← zpow_natCast, ← zpow_neg]
      congr 1
      omega
    rw [inverse]
    generalize (10 : ℚ) ^ power.natAbs = exact at *
    generalize powerDouble power.natAbs = read at *
    obtain ⟨lower, upper⟩ := abs_le.mp error
    have half : exact / 2 ≤ read := by linarith
    have readPositive : 0 < read := by linarith
    have difference : 1 / read - 1 / exact = (exact - read) / (read * exact) := by
      field_simp
    rw [difference, abs_div, abs_of_pos (mul_pos readPositive positive), div_div,
      div_le_div_iff₀ (mul_pos readPositive positive) (by positivity), abs_sub_comm]
    calc |read - exact| * (exact * 2 ^ 52) ≤ exact / 2 ^ 53 * (exact * 2 ^ 52) :=
          mul_le_mul_of_nonneg_right error (by positivity)
      _ = exact / 2 * exact := by ring
      _ ≤ read * exact := mul_le_mul_of_nonneg_right half positive.le
      _ = 1 * (read * exact) := by rw [one_mul]

/-- What is read for a power of ten is between its half and its double. -/
theorem readPower_bounds {power : ℤ} (bounded : power.natAbs ≤ 200) :
    10 ^ power / 2 ≤ readPower power ∧ readPower power ≤ 2 * 10 ^ power := by
  have positive : (0 : ℚ) < 10 ^ power := by positivity
  obtain ⟨lower, upper⟩ := abs_le.mp (abs_readPower_sub_le bounded)
  exact ⟨by linarith, by linarith⟩

/-- The product of a coefficient and what is read for a power of ten is in the range. -/
theorem inRange_scaled
    {coefficient : ℕ}
    (positive : 0 < coefficient)
    (small : coefficient < 2 ^ 53)
    {power : ℤ}
    (bounded : power.natAbs ≤ 200) :
    InRange (coefficient * readPower power) := by
  have atLeast : (1 : ℚ) ≤ coefficient := by exact_mod_cast positive
  have below : (coefficient : ℚ) < 2 ^ 53 := by exact_mod_cast small
  obtain ⟨least, greatest⟩ := ten_zpow_bounds power
  obtain ⟨lower, upper⟩ := readPower_bounds bounded
  have tenPositive : (0 : ℚ) < 10 ^ power := by positivity
  have readPositive : 0 < readPower power := by linarith
  have low : (2 : ℚ) ^ (-(4 * power.natAbs : ℕ) - 1 : ℤ) ≤ coefficient * readPower power := by
    rw [zpow_sub_one₀ two_ne_zero]
    calc (2 : ℚ) ^ (-(4 * power.natAbs : ℕ) : ℤ) * 2⁻¹ ≤ 10 ^ power / 2 := by linarith
      _ ≤ readPower power := lower
      _ ≤ coefficient * readPower power := le_mul_of_one_le_left readPositive.le atLeast
  have high : coefficient * readPower power < 2 ^ ((4 * power.natAbs + 54 : ℕ) : ℤ) := by
    rw [zpow_natCast, pow_add]
    calc (coefficient : ℚ) * readPower power < 2 ^ 53 * readPower power :=
          mul_lt_mul_of_pos_right below readPositive
      _ ≤ 2 ^ 53 * (2 * 10 ^ power) := mul_le_mul_of_nonneg_left upper (by positivity)
      _ ≤ 2 ^ 53 * (2 * 2 ^ (4 * power.natAbs)) := by
          have twice := mul_le_mul_of_nonneg_left greatest two_pos.le
          exact mul_le_mul_of_nonneg_left twice (by positivity)
      _ = 2 ^ (4 * power.natAbs) * 2 ^ 54 := by ring
  exact .of_zpow low high (by omega) (by omega)

/-- A coefficient that is scaled by a power of ten is the product with what is read for the power,
rounded. -/
theorem exists_scaleByTen
    {coefficient : ℕ}
    (positive : 0 < coefficient)
    (small : coefficient < 2 ^ 53)
    {power : ℤ}
    (bounded : power.natAbs ≤ 200) :
    ∃ pattern unit count,
      scaleByTen (Format.double.nearest coefficient 1) power = some pattern ∧
      RoundedDouble (coefficient * readPower power) (Format.double.value pattern) unit count := by
  have exactly := value_nearest_natural positive small
  have range := inRange_scaled positive small bounded
  rw [scaleByTen, if_pos (bounded.trans (by decide))]
  split
  · next sign =>
    have product : (coefficient : ℚ) * readPower power =
        ((Format.double.significand (Format.double.nearest coefficient 1) *
          Format.double.significand (powerOfTen power.natAbs) *
          Nat.pow 2 (Format.double.exponent (Format.double.nearest coefficient 1) +
            Format.double.exponent (powerOfTen power.natAbs)).toNat : ℕ) : ℚ) /
        (Nat.pow 2 (-(Format.double.exponent (Format.double.nearest coefficient 1) +
            Format.double.exponent (powerOfTen power.natAbs))).toNat : ℕ) := by
      rw [scaled_ratio, readPower, if_pos sign, powerDouble, zpow_add₀ two_ne_zero]
      nth_rewrite 1 [← exactly]
      rw [Format.value, Format.value]
      push_cast
      ring
    rw [product] at range
    obtain ⟨finite, unit, count, rounded⟩ :=
      Format.exists_roundedDouble (Nat.pow_pos two_pos) range
    refine ⟨_, unit, count, if_neg finite.ne, ?_⟩
    rw [product]
    exact rounded
  · next sign =>
    have quotient : (coefficient : ℚ) * readPower power =
        Format.double.value (Format.double.nearest coefficient 1) /
          Format.double.value (powerOfTen power.natAbs) := by
      rw [readPower, if_neg sign, exactly, powerDouble]
      ring
    rw [← divided_ratio] at quotient
    rw [quotient] at range
    have nonzero : 0 < Format.double.significand (powerOfTen power.natAbs) := by
      have error := (abs_le.mp (abs_powerDouble_sub_le bounded)).1
      have tenPositive : (0 : ℚ) < 10 ^ power.natAbs := by positivity
      have positive : 0 < powerDouble power.natAbs := by linarith
      rw [powerDouble, Format.value] at positive
      exact_mod_cast pos_of_mul_pos_left positive (by positivity)
    obtain ⟨-, unit, count, rounded⟩ :=
      Format.exists_roundedDouble (Nat.mul_pos nonzero (Nat.pow_pos two_pos)) range
    refine ⟨_, unit, count, rfl, ?_⟩
    rw [quotient]
    exact rounded

end Json
end TileProgram

/-!
## Reading the shortest decimal of a single

The ends of the interval of a single are numbers of 25 binary digits.  When the
shortest decimal of the single is read, it stays on its side of either end: on
a coarse grid because the grid is separated from the ends, on a fine grid
because the decimal is far inside the interval.
-/

namespace TileProgram
namespace Json

open Binary Decimal

section Ends

variable {coefficient count units : ℕ} {rounded : ℚ} {power unit place : ℤ}

/-- A grid that is as coarse as the end of an interval of singles has a moderate power of ten. -/
theorem least_of_coarse (large : -151 ≤ place) (coarse : (2 : ℚ) ^ place ≤ 10 ^ power) :
    -45 ≤ power := by
  by_contra less
  have small : (10 : ℚ) ^ power ≤ 10 ^ (-46 : ℤ) :=
    (zpow_le_zpow_iff_right₀ (by norm_num)).mpr (by omega)
  have least : (2 : ℚ) ^ (-151 : ℤ) ≤ 2 ^ place :=
    (zpow_le_zpow_iff_right₀ one_lt_two).mpr large
  have numbers : (10 : ℚ) ^ (-46 : ℤ) < 2 ^ (-151 : ℤ) := by norm_num
  linarith

/-- The relative error of the product with what is read for a power of ten. -/
theorem abs_scaled_sub_le (coefficient : ℕ) (bounded : power.natAbs ≤ 200) :
    |coefficient * readPower power - coefficient * (10 : ℚ) ^ power| ≤
      coefficient * 10 ^ power / 2 ^ 52 := by
  have error := mul_le_mul_of_nonneg_left (abs_readPower_sub_le bounded)
    (Nat.cast_nonneg (α := ℚ) coefficient)
  rwa [← Nat.abs_cast (R := ℚ) coefficient, ← abs_mul, Nat.abs_cast, mul_sub, ← mul_div_assoc]
    at error

variable
  (holds : RoundedDouble (coefficient * readPower power) rounded unit count)
  (bounded : power.natAbs ≤ 200)
  (greatest : power ≤ 38)
  (few : units < 2 ^ 25)
  (large : -151 ≤ place)

include holds bounded greatest few large

/-- What is read for a decimal is not rounded past an upper end. -/
theorem stays_below
    (far : (10 : ℚ) ^ power < 2 ^ place →
      coefficient * 10 ^ power + 2 ^ place / 2 ≤ (units * 2 ^ place : ℚ)) :
    ((coefficient * 10 ^ power : ℚ) < units * 2 ^ place → rounded < units * 2 ^ place) ∧
      ((coefficient * 10 ^ power : ℚ) = units * 2 ^ place → rounded = units * 2 ^ place) := by
  have scale : (0 : ℚ) < 2 ^ place := by positivity
  rcases le_or_gt ((2 : ℚ) ^ place) (10 ^ power) with coarse | fine
  · obtain ⟨less, -, equal⟩ :=
      separated (least_of_coarse large coarse) greatest coarse few coefficient
    refine ⟨fun below => holds.lt_of_add_lt few (less below), fun same => ?_⟩
    rw [holds.eq_of_short (few.trans (by norm_num)) (equal same), equal same]
  · have far := far fine
    have short : (units : ℚ) ≤ 2 ^ 25 := by exact_mod_cast few.le
    have most := mul_le_mul_of_nonneg_right short scale.le
    have error := (abs_le.mp (abs_scaled_sub_le coefficient bounded)).2
    have near : (coefficient : ℚ) * readPower power + 2 ^ place / 2 ^ 29 < units * 2 ^ place := by
      linarith
    exact ⟨fun _ => holds.lt_of_add_lt few near, fun same => by linarith⟩

/-- What is read for a decimal is not rounded past a lower end. -/
theorem stays_above
    (far : (10 : ℚ) ^ power < 2 ^ place →
      units * 2 ^ place + 2 ^ place / 2 ≤ (coefficient * 10 ^ power : ℚ))
    (near : (coefficient * 10 ^ power : ℚ) ≤ 2 ^ 27 * 2 ^ place) :
    ((units * 2 ^ place : ℚ) < coefficient * 10 ^ power → units * 2 ^ place < rounded) ∧
      ((coefficient * 10 ^ power : ℚ) = units * 2 ^ place → rounded = units * 2 ^ place) := by
  have scale : (0 : ℚ) < 2 ^ place := by positivity
  rcases le_or_gt ((2 : ℚ) ^ place) (10 ^ power) with coarse | fine
  · obtain ⟨-, greater, equal⟩ :=
      separated (least_of_coarse large coarse) greatest coarse few coefficient
    refine ⟨fun above => holds.lt_of_lt_sub few (greater above), fun same => ?_⟩
    rw [holds.eq_of_short (few.trans (by norm_num)) (equal same), equal same]
  · have far := far fine
    have error := (abs_le.mp (abs_scaled_sub_le coefficient bounded)).1
    have apart : units * 2 ^ place + 2 ^ place / 2 ^ 29 < (coefficient : ℚ) * readPower power := by
      linarith
    exact ⟨fun _ => holds.lt_of_lt_sub few apart, fun same => by linarith⟩

end Ends

section Single

variable {pattern : ℕ}

theorem hidden_single : Format.single.hidden = 2 ^ 23 :=
  rfl

theorem exponent_single (finite : pattern < Format.single.infinity) :
    -149 ≤ Format.single.exponent pattern ∧ Format.single.exponent pattern ≤ 104 := by
  have least : Format.single.leastExponent = -149 := rfl
  have most : Format.single.infinity = 255 * 2 ^ 23 := rfl
  rw [Format.exponent, least, hidden_single]
  omega

/-- A power of two is twice the one before. -/
theorem zpow_eq_two_mul (power : ℤ) : (2 : ℚ) ^ power = 2 * 2 ^ (power - 1) := by
  rw [← zpow_one_add₀ two_ne_zero]
  congr 1
  omega

/-- The upper end of the interval of a single has 25 binary digits. -/
theorem exists_upper (positive : 0 < pattern) (finite : pattern < Format.single.infinity) :
    ∃ (units : ℕ) (place : ℤ), units < 2 ^ 25 ∧ -151 ≤ place ∧
      ((intervalOf .single pattern).upper : ℚ) * 2 ^ (intervalOf .single pattern).unit =
        units * 2 ^ place ∧
      (intervalOf .single pattern).center + 2 ^ place = units * 2 ^ place ∧
      ((intervalOf .single pattern).lower : ℚ) * 2 ^ (intervalOf .single pattern).unit ≤
        (intervalOf .single pattern).center - 2 ^ place / 2 := by
  have few := Format.single.significand_lt pattern
  rw [hidden_single] at few
  have exponent := exponent_single finite
  have halved := zpow_eq_two_mul (Format.single.exponent pattern)
  have scale : (0 : ℚ) < 2 ^ (Format.single.exponent pattern - 1) := by positivity
  refine ⟨2 * Format.single.significand pattern + 1, Format.single.exponent pattern - 1,
    by omega, by omega, ?_, ?_, ?_⟩
  · rw [upper_intervalOf, halved]
    push_cast
    ring
  · rw [center_intervalOf, Format.value, halved]
    push_cast
    ring
  · rw [center_intervalOf, Format.value]
    by_cases narrow : IsNarrow .single pattern
    · rw [lower_of_narrow narrow, narrow.1, halved]
      linarith
    · rw [lower_of_wide positive narrow, halved]
      linarith

/-- The lower end of the interval of a single has 25 binary digits. -/
theorem exists_lower (positive : 0 < pattern) (finite : pattern < Format.single.infinity) :
    ∃ (units : ℕ) (place : ℤ), units < 2 ^ 25 ∧ -151 ≤ place ∧
      ((intervalOf .single pattern).lower : ℚ) * 2 ^ (intervalOf .single pattern).unit =
        units * 2 ^ place ∧
      units * 2 ^ place + 2 ^ place = (intervalOf .single pattern).center ∧
      (intervalOf .single pattern).center + 2 ^ place ≤
        (intervalOf .single pattern).upper * 2 ^ (intervalOf .single pattern).unit ∧
      ((intervalOf .single pattern).upper : ℚ) * 2 ^ (intervalOf .single pattern).unit ≤
        2 ^ 27 * 2 ^ place := by
  have counts := significand_pos .single positive
  have few := Format.single.significand_lt pattern
  rw [hidden_single] at few
  have short : (Format.single.significand pattern : ℚ) + 1 ≤ 2 * 2 ^ 23 := by exact_mod_cast few
  have exponent := exponent_single finite
  have halved := zpow_eq_two_mul (Format.single.exponent pattern)
  have scale : (0 : ℚ) < 2 ^ (Format.single.exponent pattern - 1) := by positivity
  have shortScaled := mul_le_mul_of_nonneg_right short scale.le
  rw [upper_intervalOf, center_intervalOf, Format.value]
  by_cases narrow : IsNarrow .single pattern
  · have quarter := zpow_eq_two_mul (Format.single.exponent pattern - 1)
    have least : Format.single.leastExponent = -149 := rfl
    have above := narrow.2
    have hidden : (Format.single.hidden : ℚ) = 2 ^ 23 := by exact_mod_cast hidden_single
    have scale : (0 : ℚ) < 2 ^ (Format.single.exponent pattern - 1 - 1) := by positivity
    refine ⟨2 ^ 25 - 1, Format.single.exponent pattern - 1 - 1, by norm_num, by omega, ?_, ?_, ?_,
      ?_⟩
    · rw [lower_of_narrow narrow, hidden, halved, quarter]
      push_cast
      ring
    · rw [narrow.1, hidden, halved, quarter]
      push_cast
      ring
    · rw [halved, quarter]
      linarith
    · rw [narrow.1, hidden, halved, quarter]
      linarith
  · refine ⟨2 * Format.single.significand pattern - 1, Format.single.exponent pattern - 1,
      by omega, by omega, ?_, ?_, ?_, ?_⟩
    · rw [lower_of_wide positive narrow, halved, Nat.cast_sub (by omega)]
      push_cast
      ring
    · rw [halved, Nat.cast_sub (by omega)]
      push_cast
      ring
    · rw [halved]
      linarith
    · rw [halved]
      linarith

/-- What is read for the shortest decimal of a single lies in the interval of the single. -/
theorem holds_of_read
    {coefficient count scaled : ℕ}
    {rounded : ℚ}
    {power grid unit : ℤ}
    (positive : 0 < pattern)
    (finite : pattern < Format.single.infinity)
    (chosen : (intervalOf .single pattern).Chosen grid coefficient)
    (nonzero : 0 < coefficient)
    (equal : (scaled * 10 ^ power : ℚ) = coefficient * 10 ^ grid)
    (order : grid ≤ power)
    (bounded : power.natAbs ≤ 200)
    (greatest : power ≤ 38)
    (holds : RoundedDouble (scaled * readPower power) rounded unit count) :
    (intervalOf .single pattern).Holds rounded := by
  have finer : (10 : ℚ) ^ grid ≤ 10 ^ power := (zpow_le_zpow_iff_right₀ (by norm_num)).mpr order
  have inside := chosen.holds
  rw [← equal] at inside
  refine inside.of_sides ?_ ?_
  · obtain ⟨units, place, few, large, lower, center, upper, near⟩ := exists_lower positive finite
    rw [lower]
    have sides := stays_above holds bounded greatest few large
      (fun fine => by
        rw [equal, ← lower]
        exact chosen.lower_add_half_le (lower ▸ center) upper (finer.trans_lt fine))
      (inside.le_upper.trans near)
    exact sides
  · obtain ⟨units, place, few, large, upper, center, lower⟩ := exists_upper positive finite
    rw [upper]
    exact stays_below holds bounded greatest few large fun fine => by
      rw [equal, ← upper]
      exact chosen.add_half_le_upper (upper ▸ center) lower nonzero (finer.trans fine.le)

/-- The numbers of the interval of a single have moderate size. -/
theorem bounds_of_holds
    (positive : 0 < pattern)
    (finite : pattern < Format.single.infinity)
    {exact : ℚ}
    (holds : (intervalOf .single pattern).Holds exact) :
    (2 : ℚ) ^ (-150 : ℤ) ≤ exact ∧ exact ≤ 2 ^ (128 : ℤ) := by
  have counts : (1 : ℚ) ≤ Format.single.significand pattern := by
    exact_mod_cast significand_pos .single positive
  have few : (Format.single.significand pattern : ℚ) + 1 ≤ 2 ^ 24 := by
    exact_mod_cast Format.single.significand_lt pattern
  obtain ⟨least, most⟩ := exponent_single finite
  have low : (2 : ℚ) ^ (-149 : ℤ) ≤ 2 ^ Format.single.exponent pattern :=
    (zpow_le_zpow_iff_right₀ one_lt_two).mpr least
  have high : (2 : ℚ) ^ Format.single.exponent pattern ≤ 2 ^ (104 : ℤ) :=
    (zpow_le_zpow_iff_right₀ one_lt_two).mpr most
  have scale : (0 : ℚ) < 2 ^ Format.single.exponent pattern := by positivity
  have lower := (le_lower .single positive).trans holds.lower_le
  have upper := holds.le_upper
  rw [upper_intervalOf] at upper
  have half := mul_le_mul_of_nonneg_right counts scale.le
  have full := mul_le_mul_of_nonneg_right few scale.le
  have lowest : (2 : ℚ) ^ (-149 : ℤ) = 2 * 2 ^ (-150 : ℤ) := zpow_eq_two_mul _
  have highest : (2 : ℚ) ^ (128 : ℤ) = 2 ^ 24 * 2 ^ (104 : ℤ) := by norm_num
  constructor
  · linarith
  · linarith

/-- A decimal of at most ten digits that is of the size of a single has a moderate power of ten. -/
theorem power_bounds
    {coefficient : ℕ}
    {power : ℤ}
    (positive : 0 < coefficient)
    (few : coefficient ≤ 10 ^ 9)
    (least : (2 : ℚ) ^ (-150 : ℤ) ≤ coefficient * 10 ^ power)
    (most : (coefficient * 10 ^ power : ℚ) ≤ 2 ^ (128 : ℤ)) :
    -60 ≤ power ∧ power ≤ 38 := by
  have tenPositive : (0 : ℚ) < 10 ^ power := by positivity
  constructor
  · by_contra less
    have tiny : (10 : ℚ) ^ power ≤ 10 ^ (-60 : ℤ) :=
      (zpow_le_zpow_iff_right₀ (by norm_num)).mpr (by omega)
    have atMost : (coefficient : ℚ) ≤ 10 ^ 9 := by exact_mod_cast few
    have product := mul_le_mul atMost tiny tenPositive.le (by positivity)
    have numbers : (10 : ℚ) ^ 9 * 10 ^ (-60 : ℤ) < 2 ^ (-150 : ℤ) := by norm_num
    linarith
  · have atLeast : (1 : ℚ) ≤ coefficient := by exact_mod_cast positive
    have below : (10 : ℚ) ^ power < 10 ^ (39 : ℤ) :=
      (le_mul_of_one_le_left tenPositive.le atLeast).trans_lt (most.trans_lt (by norm_num))
    have := (zpow_lt_zpow_iff_right₀ (by norm_num)).mp below
    omega

/-- The shortest decimal of a single is read as a double that is rounded to the single. -/
theorem exists_read_shortest
    (positive : 0 < pattern)
    (finite : pattern < Format.single.infinity)
    (tie : Tie) :
    0 < (shortest .single tie pattern).coefficient ∧
      (shortest .single tie pattern).coefficient ≤ 10 ^ 9 ∧
      (shortest .single tie pattern).power.natAbs ≤ 60 ∧
      ∃ read,
        scaleByTen (Format.double.nearest (shortest .single tie pattern).coefficient 1)
          (shortest .single tie pattern).power = some read ∧
        Format.convert .double .single read = pattern := by
  obtain ⟨grid, coefficient, chosen, small, found⟩ :=
    exists_shortest .single (by decide) positive tie
  rw [found]
  have value := value_dropZeros mostDigits ⟨coefficient, grid⟩
  have smaller := coefficient_dropZeros_le mostDigits ⟨coefficient, grid⟩
  have order := le_power_dropZeros mostDigits ⟨coefficient, grid⟩
  generalize dropZeros mostDigits ⟨coefficient, grid⟩ = shortened at *
  obtain ⟨scaled, power⟩ := shortened
  simp only [Scaled.value] at *
  obtain ⟨least, most⟩ := bounds_of_holds positive finite chosen.holds
  have exactPositive := chosen.holds.pos positive
  have nonzero : 0 < coefficient := by
    exact_mod_cast pos_of_mul_pos_left exactPositive (by positivity)
  have scaledPositive : 0 < scaled := by
    rw [← value] at exactPositive
    exact_mod_cast pos_of_mul_pos_left exactPositive (by positivity)
  have few : scaled ≤ 10 ^ 9 := smaller.trans small
  rw [← value] at least most
  obtain ⟨moderate, greatest⟩ := power_bounds scaledPositive few least most
  have bounded : power.natAbs ≤ 60 := by omega
  obtain ⟨read, unit, count, scales, rounded⟩ :=
    exists_scaleByTen scaledPositive (by omega) (bounded.trans (by decide))
  refine ⟨scaledPositive, few, bounded, read, scales, ?_⟩
  have inside := holds_of_read positive finite chosen nonzero value order
    (bounded.trans (by decide)) greatest rounded
  refine nearest_of_holds (by decide) positive finite (Nat.pow_pos two_pos) ?_
  rw [scaled_ratio]
  exact inside

end Single

end Json
end TileProgram
