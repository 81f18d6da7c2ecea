import TileProgram.Proofs.Decimal.Interval

/-!
# The shortest decimal of a pattern

The grids of decimals are tried from the coarsest one on.  A grid that is finer
than a quarter of the pattern's unit has a point in the interval, so nine
digits are enough for single precision.
-/

namespace TileProgram
namespace Decimal

open Binary

namespace Scaled

/-- The number that a decimal stands for. -/
def value (scaled : Scaled) : ℚ :=
  scaled.coefficient * 10 ^ scaled.power

end Scaled

/-- Without the zeros at the end of its coefficient a decimal stands for the same number. -/
theorem value_dropZeros (count : ℕ) (scaled : Scaled) :
    (dropZeros count scaled).value = scaled.value := by
  induction count generalizing scaled with
  | zero => rfl
  | succ count inductionHypothesis =>
      rw [dropZeros]
      split
      · next ends =>
        obtain ⟨tenth, equal⟩ := Nat.dvd_of_mod_eq_zero ends
        rw [inductionHypothesis, Scaled.value, Scaled.value, equal,
          Nat.mul_div_cancel_left _ (by decide), zpow_add_one₀ (by norm_num)]
        push_cast
        ring
      · rfl

theorem coefficient_dropZeros_le (count : ℕ) (scaled : Scaled) :
    (dropZeros count scaled).coefficient ≤ scaled.coefficient := by
  induction count generalizing scaled with
  | zero => exact Nat.le_refl _
  | succ count inductionHypothesis =>
      rw [dropZeros]
      split
      · exact (inductionHypothesis _).trans (Nat.div_le_self _ _)
      · exact Nat.le_refl _

theorem le_power_dropZeros (count : ℕ) (scaled : Scaled) :
    scaled.power ≤ (dropZeros count scaled).power := by
  induction count generalizing scaled with
  | zero => exact le_refl _
  | succ count inductionHypothesis =>
      rw [dropZeros]
      split
      · exact (Int.le_add_one (le_refl _)).trans (inductionHypothesis _)
      · exact le_refl _

section Search

variable {format : Format} {pattern : ℕ}

/-- The leading power of the search is the power of ten of the first digit of the pattern's number. -/
theorem leadingPower_center (interval : Interval) (positive : 0 < interval.middle) :
    (10 : ℚ) ^ leadingPower (interval.middle * Nat.pow 2 interval.unit.toNat)
        (Nat.pow 2 (-interval.unit).toNat) ≤ interval.center ∧
      interval.center < 10 ^ (leadingPower (interval.middle * Nat.pow 2 interval.unit.toNat)
        (Nat.pow 2 (-interval.unit).toNat) + 1) := by
  have equal : interval.center = ((interval.middle * Nat.pow 2 interval.unit.toNat : ℕ) : ℚ) /
      (Nat.pow 2 (-interval.unit).toNat : ℕ) := by
    rw [Interval.center, zpow_eq_div two_ne_zero, Nat.pow_eq, Nat.pow_eq]
    push_cast
    rw [mul_div_assoc]
  rw [equal]
  exact leadingPower_spec (Nat.mul_pos positive (Nat.pow_pos two_pos)) (Nat.pow_pos two_pos)

/-- A grid that is finer than the unit of an interval has a point in it. -/
theorem isSome_onGrid?
    {interval : Interval}
    (inner : interval.lower < interval.middle)
    (outer : interval.middle < interval.upper)
    (tie : Tie)
    {power : ℤ}
    (fine : (10 : ℚ) ^ power < 2 ^ interval.unit) :
    (interval.onGrid? tie power).isSome = true := by
  obtain ⟨scale, positive, tenScaled, twoScaled⟩ := Interval.exists_scale power interval.unit
  unfold Interval.onGrid?
  generalize Nat.pow 10 power.toNat * Nat.pow 2 (-interval.unit).toNat = ten at *
  generalize Nat.pow 10 (-power).toNat * Nat.pow 2 interval.unit.toNat = two at *
  have finer : ten < two := by
    have : (ten : ℚ) < two := by
      rw [tenScaled, twoScaled]
      exact mul_lt_mul_of_pos_right fine positive
    exact_mod_cast this
  have tenPositive : 0 < ten := by
    have : (0 : ℚ) < ten := tenScaled ▸ mul_pos (by positivity) positive
    exact_mod_cast this
  have lower := Nat.div_mul_le_self (interval.middle * two) ten
  have upper := Nat.lt_mul_div_succ (interval.middle * two) tenPositive
  rw [Nat.mul_comm ten, Nat.add_mul, Nat.one_mul] at upper
  have inner : interval.lower * two + two ≤ interval.middle * two := by
    rw [← Nat.succ_mul]
    exact Nat.mul_le_mul_right two inner
  have outer : interval.middle * two < interval.upper * two :=
    Nat.mul_lt_mul_of_pos_right outer (Nat.lt_trans tenPositive finer)
  have contained : interval.contains ten two (interval.middle * two / ten) = true := by
    unfold Interval.contains
    split
    · rw [decide_eq_true_eq]
      omega
    · rw [decide_eq_true_eq]
      omega
  cases above : interval.contains ten two (interval.middle * two / ten + 1) with
  | false => simp only [contained, above, Option.isSome_some]
  | true =>
      simp only [contained, above]
      split
      · rfl
      · split
        · rfl
        · cases tie <;> rfl

/-- The ninth grid that is tried is finer than the unit of the interval. -/
theorem ninth_grid_fine
    (precise : format.precision ≤ 24)
    {first : ℤ}
    (leading : (10 : ℚ) ^ first ≤ (intervalOf format pattern).center) :
    (10 : ℚ) ^ (first - 8) < 2 ^ (intervalOf format pattern).unit := by
  have few := format.significand_lt pattern
  have hidden : format.hidden ≤ 2 ^ 23 := Nat.pow_le_pow_right two_pos (by omega)
  have middle : ((intervalOf format pattern).middle : ℚ) < 10 ^ 8 := by
    have : (intervalOf format pattern).middle < 10 ^ 8 := by
      simp only [intervalOf]
      omega
    exact_mod_cast this
  have scale : (0 : ℚ) < 2 ^ (intervalOf format pattern).unit := by positivity
  rw [zpow_sub₀ (by norm_num), div_lt_iff₀ (by positivity)]
  calc (10 : ℚ) ^ first ≤ (intervalOf format pattern).middle *
        2 ^ (intervalOf format pattern).unit := leading
    _ < 10 ^ 8 * 2 ^ (intervalOf format pattern).unit :=
        mul_lt_mul_of_pos_right middle scale
    _ = 2 ^ (intervalOf format pattern).unit * 10 ^ (8 : ℤ) := by
        rw [mul_comm]
        norm_cast

/-- On each of the first nine grids the chosen decimal has at most ten digits. -/
theorem Interval.Chosen.coefficient_le
    {interval : Interval}
    {first : ℤ}
    {digits coefficient : ℕ}
    (chosen : interval.Chosen (first - digits) coefficient)
    (leading : interval.center < 10 ^ (first + 1))
    (small : digits < 9) :
    coefficient ≤ 10 ^ 9 := by
  have step : (0 : ℚ) < 10 ^ (first - digits) := by positivity
  have wide : (10 : ℚ) ^ (first + 1) ≤ 10 ^ 9 * 10 ^ (first - digits) := by
    rw [← zpow_natCast, ← zpow_add₀ (by norm_num)]
    exact (zpow_le_zpow_iff_right₀ (by norm_num)).mpr (by push_cast; omega)
  have beside := (abs_le.mp chosen.beside).2
  have below : (coefficient : ℚ) * 10 ^ (first - digits) <
      (10 ^ 9 + 1) * 10 ^ (first - digits) := by
    linarith
  have few : (coefficient : ℚ) < 10 ^ 9 + 1 := lt_of_mul_lt_mul_right below step.le
  have few : coefficient < 10 ^ 9 + 1 := by exact_mod_cast few
  omega

/-- The shortest decimal is the better one of a grid, and of at most ten digits. -/
theorem exists_shortest
    (format : Format)
    (precise : format.precision ≤ 24)
    (positive : 0 < pattern)
    (tie : Tie) :
    ∃ power coefficient, (intervalOf format pattern).Chosen power coefficient ∧
      coefficient ≤ 10 ^ 9 ∧
      shortest format tie pattern = dropZeros mostDigits ⟨coefficient, power⟩ := by
  obtain ⟨inner, outer⟩ := intervalOf_ordered format positive
  obtain ⟨lower, upper⟩ := leadingPower_center (intervalOf format pattern) (by omega)
  simp only [shortest]
  generalize leadingPower ((intervalOf format pattern).middle *
    Nat.pow 2 (intervalOf format pattern).unit.toNat)
    (Nat.pow 2 (-(intervalOf format pattern).unit).toNat) = first at *
  -- The first nine grids already have a hit, so the later ones are never reached.
  have early : List.range mostDigits = List.range 9 ++ [9, 10, 11, 12, 13, 14, 15, 16] := rfl
  rw [early, List.map_append, List.findSome?_append]
  have hit : (((List.range 9).map fun digits : ℕ => first - digits).findSome? fun power =>
      ((intervalOf format pattern).onGrid? tie power).map
        fun coefficient => Scaled.mk coefficient power).isSome = true := by
    rw [List.findSome?_isSome_iff]
    refine ⟨first - 8, List.mem_map.mpr ⟨8, by decide, rfl⟩, ?_⟩
    rw [Option.isSome_map]
    exact isSome_onGrid? inner outer tie (ninth_grid_fine precise lower)
  obtain ⟨scaled, found⟩ := Option.isSome_iff_exists.mp hit
  rw [found, Option.some_or, Option.getD_some]
  obtain ⟨power, member, mapped⟩ := List.exists_of_findSome?_eq_some found
  obtain ⟨coefficient, offered, rfl⟩ := Option.map_eq_some_iff.mp mapped
  obtain ⟨digits, listed, rfl⟩ := List.mem_map.mp member
  have chosen := Interval.chosen_of_onGrid? (intervalOf_center_holds positive) offered
  exact ⟨_, coefficient, chosen, chosen.coefficient_le upper (List.mem_range.mp listed), rfl⟩

/-- The shortest decimal of a pattern lies in the interval of the pattern. -/
theorem shortest_holds
    (format : Format)
    (precise : format.precision ≤ 24)
    (positive : 0 < pattern)
    (tie : Tie) :
    (intervalOf format pattern).Holds (shortest format tie pattern).value := by
  obtain ⟨power, coefficient, chosen, -, found⟩ := exists_shortest format precise positive tie
  rw [found, value_dropZeros]
  exact chosen.holds

end Search

end Decimal
end TileProgram
