import Mathlib.Algebra.Order.Field.Power
import Mathlib.Data.Rat.Floor
import Mathlib.Tactic.FieldSimp
import Mathlib.Tactic.Linarith
import Mathlib.Tactic.Positivity
import Mathlib.Tactic.Ring
import TileProgram.Binary.Half

/-!
# Rounding

The nearest value of a format, and what a calculation in double precision makes of
a rational number.
-/

/-!
## Rounding to a binary format

A finite pattern stands for a rational number.  The pattern nearest to a
quotient counts the last place that the quotient has in the format, and the
count is the quotient rounded to that place.
-/

namespace TileProgram
namespace Binary

/-- A power is a quotient of two powers with natural exponents. -/
theorem zpow_eq_div {base : ℚ} (nonzero : base ≠ 0) (power : ℤ) :
    base ^ power = base ^ power.toNat / base ^ (-power).toNat := by
  rw [← zpow_natCast, ← zpow_natCast, ← zpow_sub₀ nonzero]
  congr 1
  omega

/-- A natural that a rational is rounded to: it is at most a half away, and even when it is exactly
a half away. -/
structure Rounds (exact : ℚ) (count : ℕ) : Prop where
  lower : (count : ℚ) - 1 / 2 ≤ exact
  upper : exact ≤ count + 1 / 2
  even : exact = count - 1 / 2 ∨ exact = count + 1 / 2 → count % 2 = 0

namespace Rounds

theorem unique
    {exact : ℚ}
    {first second : ℕ}
    (rounds : Rounds exact first)
    (others : Rounds exact second) :
    first = second := by
  have above : (first : ℚ) ≤ second + 1 := by linarith [rounds.lower, others.upper]
  have below : (second : ℚ) ≤ first + 1 := by linarith [rounds.upper, others.lower]
  have above : first ≤ second + 1 := by exact_mod_cast above
  have below : second ≤ first + 1 := by exact_mod_cast below
  -- Neighbours share only the half between them, and one of two neighbours is odd.
  rcases Nat.lt_trichotomy first second with less | equal | greater
  · have next : second = first + 1 := by omega
    have cast : (second : ℚ) = first + 1 := by exact_mod_cast next
    have half : exact = first + 1 / 2 := by linarith [rounds.upper, others.lower]
    have firstEven := rounds.even (.inr half)
    have secondEven := others.even (.inl (by rw [half, cast]; ring))
    omega
  · exact equal
  · have next : first = second + 1 := by omega
    have cast : (first : ℚ) = second + 1 := by exact_mod_cast next
    have half : exact = second + 1 / 2 := by linarith [rounds.lower, others.upper]
    have secondEven := others.even (.inr half)
    have firstEven := rounds.even (.inl (by rw [half, cast]; ring))
    omega

/-- A number that is at least a natural is not rounded below it. -/
theorem le_of_le
    {exact : ℚ}
    {bound count : ℕ}
    (rounds : Rounds exact count)
    (above : (bound : ℚ) ≤ exact) :
    bound ≤ count := by
  by_contra less
  have next : (count : ℚ) + 1 ≤ bound := by exact_mod_cast Nat.not_le.mp less
  linarith [rounds.upper]

/-- A number below a natural is not rounded above it. -/
theorem le_of_lt
    {exact : ℚ}
    {bound count : ℕ}
    (rounds : Rounds exact count)
    (below : exact < bound) :
    count ≤ bound := by
  by_contra greater
  have next : (bound : ℚ) + 1 ≤ count := by exact_mod_cast Nat.not_le.mp greater
  linarith [rounds.lower]

theorem of_natCast (count : ℕ) : Rounds count count where
  lower := by linarith
  upper := by linarith
  even := by
    rintro (equal | equal)
    · linarith
    · linarith

end Rounds

theorem rounds_roundQuotient
    (numerator : ℕ)
    {denominator : ℕ}
    (positive : 0 < denominator) :
    Rounds ((numerator : ℚ) / denominator) (roundQuotient numerator denominator) := by
  have cast : (0 : ℚ) < denominator := by exact_mod_cast positive
  have parts : (numerator : ℚ) =
      denominator * (numerator / denominator : ℕ) + (numerator % denominator : ℕ) := by
    exact_mod_cast (Nat.div_add_mod numerator denominator).symm
  have small : ((numerator % denominator : ℕ) : ℚ) < denominator := by
    exact_mod_cast Nat.mod_lt numerator positive
  have natural : (0 : ℚ) ≤ (numerator % denominator : ℕ) := Nat.cast_nonneg _
  rw [roundQuotient]
  generalize numerator / denominator = whole at *
  generalize numerator % denominator = rest at *
  have exact : (numerator : ℚ) / denominator = whole + rest / denominator := by
    rw [parts]
    field_simp
  have tie : (rest : ℚ) / denominator = 1 / 2 → 2 * rest = denominator := by
    intro equal
    rw [div_eq_div_iff cast.ne' two_ne_zero] at equal
    exact_mod_cast (by linarith : (2 : ℚ) * rest = denominator)
  rw [exact]
  split
  · next down =>
    have half : (rest : ℚ) / denominator ≤ 1 / 2 := by
      rw [div_le_div_iff₀ cast two_pos]
      have : 2 * rest ≤ denominator := by omega
      have : (2 : ℚ) * rest ≤ denominator := by exact_mod_cast this
      linarith
    have nonnegative : (0 : ℚ) ≤ rest / denominator := by positivity
    refine ⟨by linarith, by linarith, ?_⟩
    rintro (equal | equal)
    · linarith
    · have := tie (by linarith)
      omega
  · next up =>
    have half : 1 / 2 ≤ (rest : ℚ) / denominator := by
      rw [div_le_div_iff₀ two_pos cast]
      have : denominator ≤ 2 * rest := by omega
      have : (denominator : ℚ) ≤ 2 * rest := by exact_mod_cast this
      linarith
    have fraction : (rest : ℚ) / denominator < 1 := (div_lt_one cast).mpr small
    refine ⟨by push_cast; linarith, by push_cast; linarith, ?_⟩
    push_cast
    rintro (equal | equal)
    · have := tie (by linarith)
      omega
    · linarith

namespace Format

variable {format : Format}

/-- The number that a finite pattern stands for. -/
def value (format : Format) (pattern : ℕ) : ℚ :=
  format.significand pattern * 2 ^ format.exponent pattern

theorem hidden_pos (format : Format) : 0 < format.hidden :=
  Nat.pow_pos two_pos

theorem significand_lt (format : Format) (pattern : ℕ) :
    format.significand pattern < 2 * format.hidden := by
  have positive := format.hidden_pos
  have rest := Nat.mod_lt pattern positive
  rw [significand]
  split <;> omega

theorem leastExponent_le_exponent (format : Format) (pattern : ℕ) :
    format.leastExponent ≤ format.exponent pattern := by
  rw [exponent]
  omega

/-- Only with the least exponent is the significand smaller than that of a normal number. -/
theorem exponent_eq_or_hidden_le (format : Format) (pattern : ℕ) :
    format.exponent pattern = format.leastExponent ∨
      format.hidden ≤ format.significand pattern := by
  rw [exponent, significand]
  split
  · next small => exact .inl (by rw [Nat.div_eq_of_lt small, Nat.zero_sub, Nat.cast_zero, add_zero])
  · exact .inr (Nat.le_add_right _ _)

/-- A pattern counts the patterns of the smaller exponents and its own significand. -/
theorem eq_of_significand (format : Format) (pattern : ℕ) :
    (format.exponent pattern - format.leastExponent).toNat * format.hidden +
      format.significand pattern = pattern := by
  have positive := format.hidden_pos
  have place : (format.exponent pattern - format.leastExponent).toNat =
      pattern / format.hidden - 1 := by
    rw [exponent]
    omega
  rw [place, significand]
  split
  · next small => rw [Nat.div_eq_of_lt small]; omega
  · next large =>
    have normal : 1 ≤ pattern / format.hidden :=
      (Nat.one_le_div_iff positive).mpr (Nat.not_lt.mp large)
    have parts := Nat.div_add_mod pattern format.hidden
    obtain ⟨above, equal⟩ := Nat.exists_eq_add_of_le' normal
    rw [equal, Nat.mul_add, Nat.mul_comm] at parts
    rw [equal, Nat.add_sub_cancel]
    omega

/-- The pattern of a count of units stands for the count times the unit. -/
theorem value_of_count
    {unit : ℤ}
    {count : ℕ}
    (least : format.leastExponent ≤ unit)
    (few : count ≤ 2 * format.hidden)
    (normal : unit = format.leastExponent ∨ format.hidden ≤ count) :
    format.value ((unit - format.leastExponent).toNat * format.hidden + count) =
      count * 2 ^ unit := by
  have positive := format.hidden_pos
  obtain ⟨steps, rfl⟩ : ∃ steps : ℕ, unit = format.leastExponent + steps :=
    ⟨(unit - format.leastExponent).toNat, by omega⟩
  rw [add_sub_cancel_left, Int.toNat_natCast]
  by_cases small : count < format.hidden
  · have none : steps = 0 := by omega
    subst none
    rw [value, significand, exponent, Nat.zero_mul, Nat.zero_add, if_pos small,
      Nat.div_eq_of_lt small]
  have large := Nat.not_lt.mp small
  have notSmall : ¬ steps * format.hidden + count < format.hidden :=
    Nat.not_lt.mpr (large.trans (Nat.le_add_left _ _))
  rw [value, significand, exponent, if_neg notSmall]
  rcases few.lt_or_eq with fewer | equal
  · obtain ⟨rest, rfl⟩ := Nat.exists_eq_add_of_le large
    have restSmall : rest < format.hidden := by omega
    have again : steps * format.hidden + (format.hidden + rest) =
        format.hidden * (steps + 1) + rest := by ring
    rw [again, Nat.mul_add_mod, Nat.mod_eq_of_lt restSmall, Nat.mul_add_div positive,
      Nat.div_eq_of_lt restSmall, Nat.add_zero, Nat.add_sub_cancel]
  · subst equal
    have again : steps * format.hidden + 2 * format.hidden =
        format.hidden * (steps + 2) := by ring
    rw [again, Nat.mul_mod_right, Nat.mul_div_cancel_left _ positive]
    have next : format.leastExponent + ((steps + 2 - 1 : ℕ) : ℤ) =
        format.leastExponent + steps + 1 := by omega
    rw [next, zpow_add_one₀ two_ne_zero]
    push_cast
    ring

/-- The place of the last digit that a positive number has in a format. -/
structure LastPlace (format : Format) (exact : ℚ) (unit : ℤ) : Prop where
  least : format.leastExponent ≤ unit
  below : exact < 2 * format.hidden * 2 ^ unit
  reached : unit = format.leastExponent ∨ format.hidden * 2 ^ unit ≤ exact

namespace LastPlace

variable {exact : ℚ} {unit : ℤ}

/-- A number below a power of two has a last place below the one of the power. -/
theorem lt_of_lt
    (place : LastPlace format exact unit)
    {other : ℤ}
    (bound : exact < format.hidden * 2 ^ other)
    (least : format.leastExponent < other) :
    unit < other := by
  rcases place.reached with equal | reached
  · exact equal ▸ least
  · have positive : (0 : ℚ) < format.hidden := by exact_mod_cast format.hidden_pos
    have powers : (2 : ℚ) ^ unit < 2 ^ other := by
      by_contra less
      have := mul_le_mul_of_nonneg_left (not_lt.mp less) positive.le
      linarith
    exact (zpow_lt_zpow_iff_right₀ one_lt_two).mp powers

theorem unique
    {other : ℤ}
    (place : LastPlace format exact unit)
    (place' : LastPlace format exact other) :
    unit = other := by
  have twice : ∀ power : ℤ, (2 : ℚ) * format.hidden * 2 ^ power =
      format.hidden * 2 ^ (power + 1) := by
    intro power
    rw [zpow_add_one₀ two_ne_zero]
    ring
  have first := place.lt_of_lt (twice other ▸ place'.below) (by have := place'.least; omega)
  have second := place'.lt_of_lt (twice unit ▸ place.below) (by have := place.least; omega)
  omega

end LastPlace

/-- The power of two of the first binary digit of a positive quotient. -/
def leading (numerator denominator : ℕ) : ℤ :=
  let estimate : ℤ := (numerator.log2 : ℤ) - denominator.log2
  if denominator * Nat.pow 2 estimate.toNat ≤ numerator * Nat.pow 2 (-estimate).toNat then estimate
  else estimate - 1

theorem leading_spec
    {numerator denominator : ℕ}
    (positive : 0 < numerator)
    (nonzero : 0 < denominator) :
    (2 : ℚ) ^ leading numerator denominator ≤ numerator / denominator ∧
      (numerator : ℚ) / denominator < 2 ^ (leading numerator denominator + 1) := by
  have numeratorLower : (2 : ℚ) ^ (numerator.log2 : ℤ) ≤ numerator := by
    exact_mod_cast Nat.log2_self_le positive.ne'
  have numeratorUpper : (numerator : ℚ) < 2 ^ ((numerator.log2 : ℤ) + 1) := by
    exact_mod_cast @Nat.lt_log2_self numerator
  have denominatorLower : (2 : ℚ) ^ (denominator.log2 : ℤ) ≤ denominator := by
    exact_mod_cast Nat.log2_self_le nonzero.ne'
  have denominatorUpper : (denominator : ℚ) < 2 ^ ((denominator.log2 : ℤ) + 1) := by
    exact_mod_cast @Nat.lt_log2_self denominator
  have cast : (0 : ℚ) < denominator := by exact_mod_cast nonzero
  rw [leading]
  generalize estimate : (numerator.log2 : ℤ) - denominator.log2 = power
  have upper : (numerator : ℚ) / denominator < 2 ^ (power + 1) := by
    rw [div_lt_iff₀ cast]
    calc (numerator : ℚ) < 2 ^ ((numerator.log2 : ℤ) + 1) := numeratorUpper
      _ = 2 ^ (power + 1) * 2 ^ (denominator.log2 : ℤ) := by
          rw [← zpow_add₀ two_ne_zero]
          congr 1
          omega
      _ ≤ 2 ^ (power + 1) * denominator :=
          mul_le_mul_of_nonneg_left denominatorLower (by positivity)
  have lower : (2 : ℚ) ^ (power - 1) ≤ numerator / denominator := by
    rw [le_div_iff₀ cast]
    calc (2 : ℚ) ^ (power - 1) * denominator
        ≤ 2 ^ (power - 1) * 2 ^ ((denominator.log2 : ℤ) + 1) :=
          mul_le_mul_of_nonneg_left denominatorUpper.le (by positivity)
      _ = 2 ^ (numerator.log2 : ℤ) := by
          rw [← zpow_add₀ two_ne_zero]
          congr 1
          omega
      _ ≤ numerator := numeratorLower
  have reached : denominator * Nat.pow 2 power.toNat ≤ numerator * Nat.pow 2 (-power).toNat ↔
      (2 : ℚ) ^ power ≤ numerator / denominator := by
    rw [zpow_eq_div two_ne_zero, div_le_div_iff₀ (by positivity) cast, ← @Nat.cast_le ℚ,
      Nat.pow_eq, Nat.pow_eq]
    push_cast
    rw [mul_comm]
  split
  · next holds => exact ⟨reached.mp holds, upper⟩
  · next fails =>
    rw [sub_add_cancel]
    exact ⟨lower, not_le.mp (mt reached.mpr fails)⟩

/-- The nearest pattern counts the units of the last place. -/
theorem nearest_spec
    (normal : 1 ≤ format.precision)
    {numerator denominator : ℕ}
    (positive : 0 < numerator)
    (nonzero : 0 < denominator) :
    ∃ unit count, LastPlace format ((numerator : ℚ) / denominator) unit ∧
      Rounds ((numerator : ℚ) / denominator / 2 ^ unit) count ∧
      format.nearest numerator denominator =
        min format.infinity
          ((unit - format.leastExponent).toNat * format.hidden + count) := by
  obtain ⟨lower, upper⟩ := leading_spec positive nonzero
  have hidden : ∀ power : ℤ, (format.hidden : ℚ) * 2 ^ power =
      2 ^ (power + ((format.precision : ℤ) - 1)) := by
    intro power
    have digits : ((format.precision : ℤ) - 1) = ((format.precision - 1 : ℕ) : ℤ) := by omega
    rw [zpow_add₀ two_ne_zero, digits, zpow_natCast, mul_comm, Format.hidden, Nat.pow_eq]
    push_cast
    rfl
  generalize power : leading numerator denominator = first at lower upper
  let unit := max format.leastExponent (first - ((format.precision : ℤ) - 1))
  have place : LastPlace format ((numerator : ℚ) / denominator) unit := by
    refine ⟨le_max_left _ _, ?_, ?_⟩
    · rw [mul_assoc, hidden, ← zpow_one_add₀ two_ne_zero]
      refine upper.trans_le ((zpow_le_zpow_iff_right₀ one_lt_two).mpr ?_)
      omega
    · rcases max_choice format.leastExponent (first - ((format.precision : ℤ) - 1)) with
        least | larger
      · exact .inl least
      · refine .inr ?_
        rw [hidden]
        refine le_trans ((zpow_le_zpow_iff_right₀ one_lt_two).mpr ?_) lower
        omega
  refine ⟨unit, roundQuotient (numerator * Nat.pow 2 (-unit).toNat)
    (denominator * Nat.pow 2 unit.toNat), place, ?_, ?_⟩
  · have scaled : (numerator : ℚ) / denominator / 2 ^ unit =
        (numerator * Nat.pow 2 (-unit).toNat : ℕ) / (denominator * Nat.pow 2 unit.toNat : ℕ) := by
      rw [zpow_eq_div two_ne_zero, Nat.pow_eq, Nat.pow_eq]
      push_cast
      rw [div_div_eq_mul_div, div_mul_eq_mul_div, div_div]
    rw [scaled]
    exact rounds_roundQuotient _ (Nat.mul_pos nonzero (Nat.pow_pos two_pos))
  · rw [nearest, if_neg positive.ne']
    subst power
    rfl

/-- Any last place and any count that fit a quotient give its nearest pattern. -/
theorem nearest_eq
    (normal : 1 ≤ format.precision)
    {numerator denominator : ℕ}
    (positive : 0 < numerator)
    (nonzero : 0 < denominator)
    {unit : ℤ}
    {count : ℕ}
    (place : LastPlace format ((numerator : ℚ) / denominator) unit)
    (rounds : Rounds ((numerator : ℚ) / denominator / 2 ^ unit) count) :
    format.nearest numerator denominator =
      min format.infinity ((unit - format.leastExponent).toNat * format.hidden + count) := by
  obtain ⟨other, counted, otherPlace, otherRounds, equal⟩ :=
    format.nearest_spec normal positive nonzero
  obtain rfl := place.unique otherPlace
  obtain rfl := rounds.unique otherRounds
  exact equal

/-- A number that the format does not overflow is rounded to a finite pattern, which stands for the
count of its units. -/
theorem value_nearest
    (normal : 1 ≤ format.precision)
    {numerator denominator : ℕ}
    (positive : 0 < numerator)
    (nonzero : 0 < denominator)
    (bounded : (numerator : ℚ) / denominator <
      format.hidden * 2 ^ (format.leastExponent + (Nat.pow 2 format.exponentBits - 3 : ℤ)))
    (roomy : 3 < Nat.pow 2 format.exponentBits) :
    ∃ unit count, LastPlace format ((numerator : ℚ) / denominator) unit ∧
      Rounds ((numerator : ℚ) / denominator / 2 ^ unit) count ∧
      format.nearest numerator denominator < format.infinity ∧
      format.value (format.nearest numerator denominator) = count * 2 ^ unit := by
  obtain ⟨unit, count, place, rounds, equal⟩ := format.nearest_spec normal positive nonzero
  have scale : (0 : ℚ) < 2 ^ unit := by positivity
  have few : count ≤ 2 * format.hidden :=
    rounds.le_of_lt (by rw [div_lt_iff₀ scale]; exact_mod_cast place.below)
  have full : unit = format.leastExponent ∨ format.hidden ≤ count :=
    place.reached.imp_right fun reached =>
      rounds.le_of_le ((le_div_iff₀ scale).mpr reached)
  have small := place.lt_of_lt bounded (by omega)
  have finite : (unit - format.leastExponent).toNat * format.hidden + count < format.infinity := by
    have hidden := format.hidden_pos
    have steps : (unit - format.leastExponent).toNat + 3 < Nat.pow 2 format.exponentBits := by
      have := place.least
      omega
    have := Nat.mul_le_mul_right format.hidden
      (by omega : (unit - format.leastExponent).toNat + 3 ≤ Nat.pow 2 format.exponentBits - 1)
    rw [Nat.add_mul] at this
    rw [infinity]
    omega
  rw [min_eq_right finite.le] at equal
  refine ⟨unit, count, place, rounds, equal ▸ finite, ?_⟩
  rw [equal, value_of_count place.least few full]

end Format
end Binary
end TileProgram

/-!
## Rounding to double precision

In the range of the normal numbers a rounded number is off by half of its last
place at most.  Numbers with few digits are kept, and a number that is not too
near to one of them stays on its side of it.
-/

namespace TileProgram
namespace Binary

/-- A rational is in the range of the normal doubles. -/
structure InRange (exact : ℚ) : Prop where
  lower : 2 ^ (-1022 : ℤ) ≤ exact
  upper : exact < 2 ^ (1023 : ℤ)

/-- A rational between two powers of two of the range is in the range. -/
theorem InRange.of_zpow
    {exact : ℚ}
    {least greatest : ℤ}
    (lower : (2 : ℚ) ^ least ≤ exact)
    (upper : exact < 2 ^ greatest)
    (low : -1022 ≤ least)
    (high : greatest ≤ 1023) :
    InRange exact where
  lower := ((zpow_le_zpow_iff_right₀ one_lt_two).mpr low).trans lower
  upper := upper.trans_le ((zpow_le_zpow_iff_right₀ one_lt_two).mpr high)

/-- What a double holds that a rational is rounded to: the count of the units of a last place. -/
structure RoundedDouble (exact rounded : ℚ) (unit : ℤ) (count : ℕ) : Prop where
  lower : 2 ^ 52 * 2 ^ unit ≤ exact
  upper : exact < 2 ^ 53 * 2 ^ unit
  rounds : Rounds (exact / 2 ^ unit) count
  value : rounded = count * 2 ^ unit

namespace RoundedDouble

variable {exact rounded : ℚ} {unit : ℤ} {count : ℕ}

/-- A rounded number is off by half of a unit of its last place at most. -/
theorem abs_sub_le (holds : RoundedDouble exact rounded unit count) :
    |rounded - exact| ≤ 2 ^ unit / 2 := by
  have scale : (0 : ℚ) < 2 ^ unit := by positivity
  have lower := (le_div_iff₀ scale).mp holds.rounds.lower
  have upper := (div_le_iff₀ scale).mp holds.rounds.upper
  rw [holds.value, abs_le]
  constructor
  · linarith
  · linarith

/-- The relative error of a rounded number. -/
theorem abs_sub_le_mul (holds : RoundedDouble exact rounded unit count) :
    |rounded - exact| ≤ exact / 2 ^ 53 := by
  refine holds.abs_sub_le.trans ?_
  rw [div_le_div_iff₀ two_pos (by positivity)]
  linarith [holds.lower]

/-- A number of at most 53 binary digits is kept. -/
theorem eq_of_short
    (holds : RoundedDouble exact rounded unit count)
    {short : ℕ}
    {power : ℤ}
    (few : short < 2 ^ 53)
    (equal : exact = short * 2 ^ power) :
    rounded = exact := by
  have scale : (0 : ℚ) < 2 ^ unit := by positivity
  have bound : (short : ℚ) < 2 ^ 53 := by exact_mod_cast few
  have powers : (2 : ℚ) ^ unit < 2 ^ (power + 1) := by
    have : (2 : ℚ) ^ 52 * 2 ^ unit < 2 ^ 52 * 2 ^ (power + 1) := by
      calc (2 : ℚ) ^ 52 * 2 ^ unit ≤ short * 2 ^ power := equal ▸ holds.lower
        _ < 2 ^ 53 * 2 ^ power := mul_lt_mul_of_pos_right bound (by positivity)
        _ = 2 ^ 52 * 2 ^ (power + 1) := by rw [zpow_add_one₀ two_ne_zero]; ring
    exact lt_of_mul_lt_mul_left this (by positivity)
  have order := (zpow_lt_zpow_iff_right₀ one_lt_two).mp powers
  obtain ⟨steps, rfl⟩ : ∃ steps : ℕ, power = unit + steps := ⟨(power - unit).toNat, by omega⟩
  have whole : exact / 2 ^ unit = (short * 2 ^ steps : ℕ) := by
    rw [equal, zpow_add₀ two_ne_zero, zpow_natCast]
    push_cast
    field_simp
  have counted : count = short * 2 ^ steps :=
    holds.rounds.unique (whole ▸ Rounds.of_natCast (short * 2 ^ steps))
  rw [holds.value, counted, ← whole, div_mul_cancel₀ _ scale.ne']

/-- Below 25 binary digits of a unit, the rounding error is a small part of the unit. -/
theorem abs_sub_le_of_lt
    (holds : RoundedDouble exact rounded unit count)
    {power : ℤ}
    (below : exact < 2 ^ 25 * 2 ^ power) :
    |rounded - exact| ≤ 2 ^ power / 2 ^ 29 := by
  have powers : (2 : ℚ) ^ (52 + unit) < 2 ^ (25 + power) := by
    rw [zpow_add₀ two_ne_zero, zpow_add₀ two_ne_zero]
    exact_mod_cast holds.lower.trans_lt below
  have order := (zpow_lt_zpow_iff_right₀ one_lt_two).mp powers
  have small : (2 : ℚ) ^ (unit + 28) ≤ 2 ^ power :=
    (zpow_le_zpow_iff_right₀ one_lt_two).mpr (by omega)
  rw [zpow_add₀ two_ne_zero] at small
  norm_num at small
  refine holds.abs_sub_le.trans ?_
  norm_num
  linarith

/-- A number that is not too near below a number of 25 binary digits is not rounded up to it. -/
theorem lt_of_add_lt
    (holds : RoundedDouble exact rounded unit count)
    {short : ℕ}
    {power : ℤ}
    (few : short < 2 ^ 25)
    (far : exact + 2 ^ power / 2 ^ 29 < short * 2 ^ power) :
    rounded < short * 2 ^ power := by
  have bound : (short : ℚ) ≤ 2 ^ 25 := by exact_mod_cast few.le
  have positive : (0 : ℚ) < 2 ^ power := by positivity
  have most : (short : ℚ) * 2 ^ power ≤ 2 ^ 25 * 2 ^ power :=
    mul_le_mul_of_nonneg_right bound positive.le
  have margin : (0 : ℚ) < 2 ^ power / 2 ^ 29 := by positivity
  have error := abs_le.mp (holds.abs_sub_le_of_lt (by linarith : exact < 2 ^ 25 * 2 ^ power))
  linarith [error.2]

/-- A number that is not too near above a number of 25 binary digits is not rounded down to it. -/
theorem lt_of_lt_sub
    (holds : RoundedDouble exact rounded unit count)
    {short : ℕ}
    {power : ℤ}
    (few : short < 2 ^ 25)
    (far : short * 2 ^ power + 2 ^ power / 2 ^ 29 < exact) :
    short * 2 ^ power < rounded := by
  by_cases below : exact < 2 ^ 25 * 2 ^ power
  · have error := abs_le.mp (holds.abs_sub_le_of_lt below)
    linarith [error.1]
  · -- The power of two above the short number is not passed by rounding.
    have scale : (0 : ℚ) < 2 ^ unit := by positivity
    have bound : (short : ℚ) < 2 ^ 25 := by exact_mod_cast few
    have full : 2 ^ 52 ≤ count := by
      refine holds.rounds.le_of_le ?_
      rw [le_div_iff₀ scale]
      exact_mod_cast holds.lower
    have full : (2 : ℚ) ^ 52 ≤ count := by exact_mod_cast full
    have powers : (2 : ℚ) ^ (25 + power) < 2 ^ (53 + unit) := by
      rw [zpow_add₀ two_ne_zero, zpow_add₀ two_ne_zero]
      exact_mod_cast (not_lt.mp below).trans_lt holds.upper
    have order := (zpow_lt_zpow_iff_right₀ one_lt_two).mp powers
    calc (short : ℚ) * 2 ^ power < 2 ^ 25 * 2 ^ power :=
          mul_lt_mul_of_pos_right bound (by positivity)
      _ = 2 ^ (25 + power) := by
          rw [zpow_add₀ two_ne_zero]
          norm_cast
      _ ≤ 2 ^ (52 + unit) := (zpow_le_zpow_iff_right₀ one_lt_two).mpr (by omega)
      _ = 2 ^ 52 * 2 ^ unit := by
          rw [zpow_add₀ two_ne_zero]
          norm_cast
      _ ≤ count * 2 ^ unit := mul_le_mul_of_nonneg_right full scale.le
      _ = rounded := holds.value.symm

end RoundedDouble

namespace Format

/-- A quotient in the range is rounded to a finite double. -/
theorem exists_roundedDouble
    {numerator denominator : ℕ}
    (nonzero : 0 < denominator)
    (range : InRange ((numerator : ℚ) / denominator)) :
    double.nearest numerator denominator < double.infinity ∧
      ∃ unit count, RoundedDouble ((numerator : ℚ) / denominator)
        (double.value (double.nearest numerator denominator)) unit count := by
  have hidden : (double.hidden : ℚ) = 2 ^ 52 := by norm_num [Format.hidden, double]
  have least : double.leastExponent = -1074 := rfl
  have positive : 0 < numerator := by
    by_contra zero
    have := range.lower
    rw [Nat.eq_zero_of_not_pos zero, Nat.cast_zero, zero_div] at this
    exact absurd this (not_le.mpr (by positivity))
  obtain ⟨unit, count, place, rounds, finite, value⟩ := double.value_nearest (by decide) positive
    nonzero (by
      rw [hidden, least]
      refine range.upper.trans_eq ?_
      rw [← zpow_natCast, ← zpow_add₀ two_ne_zero]
      rfl) (by decide)
  refine ⟨finite, unit, count, ?_, ?_, rounds, value⟩
  · rcases place.reached with small | reached
    · rw [small, least]
      refine le_trans (le_of_eq ?_) range.lower
      rw [← zpow_natCast, ← zpow_add₀ two_ne_zero]
      rfl
    · rwa [hidden] at reached
  · have below := place.below
    rw [hidden] at below
    refine below.trans_eq ?_
    ring

end Format
end Binary
end TileProgram
