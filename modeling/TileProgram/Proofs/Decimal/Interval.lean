import TileProgram.Proofs.Binary.Rounding
import TileProgram.Proofs.Decimal.Digits

/-!
# The numbers that a pattern stands for

A finite pattern stands for the numbers of an interval: rounding any of them
gives the pattern.  The decimal that a grid offers lies in the interval, and no
other point of the grid in the interval is nearer to the middle.
-/

namespace TileProgram
namespace Decimal

open Binary

namespace Interval

variable {interval : Interval}

/-- Whether a number lies in an interval. -/
def Holds (interval : Interval) (exact : ℚ) : Prop :=
  if interval.closed then
    interval.lower * 2 ^ interval.unit ≤ exact ∧ exact ≤ interval.upper * 2 ^ interval.unit
  else interval.lower * 2 ^ interval.unit < exact ∧ exact < interval.upper * 2 ^ interval.unit

theorem Holds.lower_le {exact : ℚ} (holds : interval.Holds exact) :
    interval.lower * 2 ^ interval.unit ≤ exact := by
  unfold Holds at holds
  split at holds
  · exact holds.1
  · exact holds.1.le

theorem Holds.le_upper {exact : ℚ} (holds : interval.Holds exact) :
    exact ≤ interval.upper * 2 ^ interval.unit := by
  unfold Holds at holds
  split at holds
  · exact holds.2
  · exact holds.2.le

/-- Only a closed interval has its ends. -/
theorem Holds.closed_of_eq
    {exact : ℚ}
    (holds : interval.Holds exact)
    (atEnd : exact = interval.lower * 2 ^ interval.unit ∨
      exact = interval.upper * 2 ^ interval.unit) :
    interval.closed = true := by
  by_contra opened
  unfold Holds at holds
  rw [if_neg opened] at holds
  rcases atEnd with equal | equal
  · exact absurd equal holds.1.ne'
  · exact absurd equal holds.2.ne

/-- A number strictly between the ends lies in the interval. -/
theorem holds_of_lt
    {exact : ℚ}
    (above : interval.lower * 2 ^ interval.unit < exact)
    (below : exact < interval.upper * 2 ^ interval.unit) :
    interval.Holds exact := by
  unfold Holds
  split
  · exact ⟨above.le, below.le⟩
  · exact ⟨above, below⟩

/-- A number between two numbers of the interval lies in the interval. -/
theorem Holds.convex
    {left exact right : ℚ}
    (first : interval.Holds left)
    (last : interval.Holds right)
    (above : left ≤ exact)
    (below : exact ≤ right) :
    interval.Holds exact := by
  unfold Holds at *
  split
  · next closed =>
    rw [if_pos closed] at first last
    exact ⟨first.1.trans above, below.trans last.2⟩
  · next opened =>
    rw [if_neg opened] at first last
    exact ⟨first.1.trans_le above, below.trans_lt last.2⟩

/-- A number that stays on the same side of either end as a number of the interval lies in it. -/
theorem Holds.of_sides
    {exact other : ℚ}
    (holds : interval.Holds exact)
    (above :
      (interval.lower * 2 ^ interval.unit < exact → interval.lower * 2 ^ interval.unit < other) ∧
      (exact = interval.lower * 2 ^ interval.unit → other = interval.lower * 2 ^ interval.unit))
    (below :
      (exact < interval.upper * 2 ^ interval.unit → other < interval.upper * 2 ^ interval.unit) ∧
      (exact = interval.upper * 2 ^ interval.unit → other = interval.upper * 2 ^ interval.unit)) :
    interval.Holds other := by
  unfold Holds at *
  split
  · next closed =>
    rw [if_pos closed] at holds
    constructor
    · rcases holds.1.lt_or_eq with less | equal
      · exact (above.1 less).le
      · exact (above.2 equal.symm).ge
    · rcases holds.2.lt_or_eq with less | equal
      · exact (below.1 less).le
      · exact (below.2 equal).le
  · next opened =>
    rw [if_neg opened] at holds
    exact ⟨above.1 holds.1, below.1 holds.2⟩

/-- The number in the middle of an interval. -/
def center (interval : Interval) : ℚ :=
  interval.middle * 2 ^ interval.unit

/-- A decimal of a grid is the better one when it lies in the interval, next to the middle, and no
point of the grid in the interval is nearer to the middle. -/
structure Chosen (interval : Interval) (power : ℤ) (coefficient : ℕ) : Prop where
  holds : interval.Holds (coefficient * 10 ^ power)
  beside : |coefficient * 10 ^ power - interval.center| ≤ 10 ^ power
  nearest : ∀ other : ℕ, interval.Holds (other * 10 ^ power) →
    |coefficient * 10 ^ power - interval.center| ≤ |other * 10 ^ power - interval.center|

/-- A grid of decimals and the units of an interval have a common denominator. -/
theorem exists_scale (power unit : ℤ) :
    ∃ scale : ℚ, 0 < scale ∧
      ((Nat.pow 10 power.toNat * Nat.pow 2 (-unit).toNat : ℕ) : ℚ) = 10 ^ power * scale ∧
      ((Nat.pow 10 (-power).toNat * Nat.pow 2 unit.toNat : ℕ) : ℚ) = 2 ^ unit * scale := by
  refine ⟨10 ^ (-power).toNat * 2 ^ (-unit).toNat, by positivity, ?_, ?_⟩
  · rw [zpow_eq_div (by norm_num) power, Nat.pow_eq, Nat.pow_eq]
    push_cast
    field_simp
  · rw [zpow_eq_div two_ne_zero unit, Nat.pow_eq, Nat.pow_eq]
    push_cast
    field_simp

variable {power : ℤ} {scale : ℚ} {ten two : ℕ}

/-- The comparison of a candidate with the ends is exact. -/
theorem contains_iff
    (positive : 0 < scale)
    (tenScaled : (ten : ℚ) = 10 ^ power * scale)
    (twoScaled : (two : ℚ) = 2 ^ interval.unit * scale)
    (candidate : ℕ) :
    interval.contains ten two candidate = true ↔ interval.Holds (candidate * 10 ^ power) := by
  have point : ((candidate * ten : ℕ) : ℚ) = candidate * 10 ^ power * scale := by
    rw [Nat.cast_mul, tenScaled, mul_assoc]
  have edge : ∀ count : ℕ, ((count * two : ℕ) : ℚ) = count * 2 ^ interval.unit * scale := by
    intro count
    rw [Nat.cast_mul, twoScaled, mul_assoc]
  have atLeast : interval.lower * two ≤ candidate * ten ↔
      interval.lower * 2 ^ interval.unit ≤ (candidate * 10 ^ power : ℚ) := by
    rw [← @Nat.cast_le ℚ, point, edge, mul_le_mul_iff_left₀ positive]
  have atMost : candidate * ten ≤ interval.upper * two ↔
      (candidate * 10 ^ power : ℚ) ≤ interval.upper * 2 ^ interval.unit := by
    rw [← @Nat.cast_le ℚ, point, edge, mul_le_mul_iff_left₀ positive]
  have greater : interval.lower * two < candidate * ten ↔
      interval.lower * 2 ^ interval.unit < (candidate * 10 ^ power : ℚ) := by
    rw [← @Nat.cast_lt ℚ, point, edge, mul_lt_mul_iff_left₀ positive]
  have less : candidate * ten < interval.upper * two ↔
      (candidate * 10 ^ power : ℚ) < interval.upper * 2 ^ interval.unit := by
    rw [← @Nat.cast_lt ℚ, point, edge, mul_lt_mul_iff_left₀ positive]
  unfold contains Holds
  split
  · rw [decide_eq_true_eq, atLeast, atMost]
  · rw [decide_eq_true_eq, greater, less]

theorem center_holds
    (inner : interval.lower < interval.middle)
    (outer : interval.middle < interval.upper) :
    interval.Holds interval.center := by
  have unit : (0 : ℚ) < 2 ^ interval.unit := by positivity
  exact holds_of_lt (mul_lt_mul_of_pos_right (by exact_mod_cast inner) unit)
    (mul_lt_mul_of_pos_right (by exact_mod_cast outer) unit)

/-- No point up to one below the middle is nearer than this one. -/
theorem le_distance_of_le
    {below other : ℕ}
    (belowCenter : below * 10 ^ power ≤ interval.center)
    (less : other ≤ below) :
    interval.center - below * 10 ^ power ≤ |(other : ℚ) * 10 ^ power - interval.center| := by
  have order : (other : ℚ) * 10 ^ power ≤ below * 10 ^ power :=
    mul_le_mul_of_nonneg_right (by exact_mod_cast less) (by positivity)
  rw [abs_of_nonpos (by linarith)]
  linarith

/-- No point from one above the middle on is nearer than that one. -/
theorem le_distance_of_ge
    {above other : ℕ}
    (aboveCenter : interval.center < above * 10 ^ power)
    (greater : above ≤ other) :
    above * 10 ^ power - interval.center ≤ |(other : ℚ) * 10 ^ power - interval.center| := by
  have order : (above : ℚ) * 10 ^ power ≤ other * 10 ^ power :=
    mul_le_mul_of_nonneg_right (by exact_mod_cast greater) (by positivity)
  rw [abs_of_nonneg (by linarith)]
  linarith

section Neighbours

variable {below : ℕ}
  (center : interval.Holds interval.center)
  (belowCenter : below * 10 ^ power ≤ interval.center)
  (aboveCenter : interval.center < ((below + 1 : ℕ) : ℚ) * 10 ^ power)

include center belowCenter aboveCenter

/-- Of two neighbours of the middle the lower one is chosen, unless the upper one lies in the
interval and is nearer. -/
theorem chosen_below
    (holds : interval.Holds (below * 10 ^ power))
    (nearer : interval.Holds ((below + 1 : ℕ) * 10 ^ power) →
      interval.center - below * 10 ^ power ≤ (below + 1 : ℕ) * 10 ^ power - interval.center) :
    interval.Chosen power below := by
  have step : (0 : ℚ) < 10 ^ power := by positivity
  have next : ((below + 1 : ℕ) : ℚ) * 10 ^ power = below * 10 ^ power + 10 ^ power := by
    push_cast
    ring
  have distance : |(below : ℚ) * 10 ^ power - interval.center| =
      interval.center - below * 10 ^ power := by
    rw [abs_of_nonpos (by linarith)]
    ring
  refine ⟨holds, by linarith, fun other otherHolds => ?_⟩
  rw [distance]
  rcases Nat.lt_or_ge below other with greater | less
  · have order : ((below + 1 : ℕ) : ℚ) * 10 ^ power ≤ other * 10 ^ power :=
      mul_le_mul_of_nonneg_right (by exact_mod_cast greater) step.le
    have nearer := nearer (center.convex otherHolds aboveCenter.le order)
    exact nearer.trans (le_distance_of_ge aboveCenter greater)
  · exact le_distance_of_le belowCenter less

/-- The upper neighbour is chosen, unless the lower one lies in the interval and is nearer. -/
theorem chosen_above
    (holds : interval.Holds ((below + 1 : ℕ) * 10 ^ power))
    (nearer : interval.Holds (below * 10 ^ power) →
      (below + 1 : ℕ) * 10 ^ power - interval.center ≤ interval.center - below * 10 ^ power) :
    interval.Chosen power (below + 1) := by
  have step : (0 : ℚ) < 10 ^ power := by positivity
  have next : ((below + 1 : ℕ) : ℚ) * 10 ^ power = below * 10 ^ power + 10 ^ power := by
    push_cast
    ring
  have distance : |((below + 1 : ℕ) : ℚ) * 10 ^ power - interval.center| =
      (below + 1 : ℕ) * 10 ^ power - interval.center :=
    abs_of_nonneg (by linarith)
  refine ⟨holds, by linarith, fun other otherHolds => ?_⟩
  rw [distance]
  rcases Nat.lt_or_ge below other with greater | less
  · exact le_distance_of_ge aboveCenter greater
  · have order : (other : ℚ) * 10 ^ power ≤ below * 10 ^ power :=
      mul_le_mul_of_nonneg_right (by exact_mod_cast less) step.le
    have nearer := nearer (otherHolds.convex center order belowCenter)
    exact nearer.trans (le_distance_of_le belowCenter less)

end Neighbours

/-- A grid offers a neighbour of the middle that lies in the interval, and not the further one of
two that do. -/
theorem onGrid?_eq_some
    {tie : Tie}
    {coefficient below : ℕ}
    (tens : Nat.pow 10 power.toNat * Nat.pow 2 (-interval.unit).toNat = ten)
    (twos : Nat.pow 10 (-power).toNat * Nat.pow 2 interval.unit.toNat = two)
    (floor : interval.middle * two / ten = below)
    (found : interval.onGrid? tie power = some coefficient) :
    (coefficient = below ∧ interval.contains ten two below = true ∧
      (interval.contains ten two (below + 1) = true →
        interval.middle * two - below * ten ≤ (below + 1) * ten - interval.middle * two)) ∨
    (coefficient = below + 1 ∧ interval.contains ten two (below + 1) = true ∧
      (interval.contains ten two below = true →
        (below + 1) * ten - interval.middle * two ≤ interval.middle * two - below * ten)) := by
  unfold onGrid? at found
  simp only [tens, twos, floor] at found
  cases containsBelow : interval.contains ten two below with
  | false =>
      cases containsAbove : interval.contains ten two (below + 1) with
      | false => simp [containsBelow, containsAbove] at found
      | true =>
          simp only [containsBelow, containsAbove, Option.some.injEq] at found
          exact .inr ⟨found.symm, rfl, nofun⟩
  | true =>
      cases containsAbove : interval.contains ten two (below + 1) with
      | false =>
          simp only [containsBelow, containsAbove, Option.some.injEq] at found
          exact .inl ⟨found.symm, rfl, nofun⟩
      | true =>
          simp only [containsBelow, containsAbove] at found
          split at found
          · next less => exact .inl ⟨(Option.some.inj found).symm, rfl, fun _ => less.le⟩
          · next notLess =>
            split at found
            · next greater => exact .inr ⟨(Option.some.inj found).symm, rfl, fun _ => greater.le⟩
            · next notGreater =>
              cases tie with
              | upward =>
                  exact .inr ⟨(Option.some.inj found).symm, rfl, fun _ => Nat.not_lt.mp notLess⟩
              | toEven =>
                  simp only [Option.some.injEq] at found
                  split at found
                  · exact .inl ⟨found.symm, rfl, fun _ => Nat.not_lt.mp notGreater⟩
                  · exact .inr ⟨found.symm, rfl, fun _ => Nat.not_lt.mp notLess⟩

/-- The decimal that a grid offers is the better one of the interval. -/
theorem chosen_of_onGrid?
    (center : interval.Holds interval.center)
    {tie : Tie}
    {coefficient : ℕ}
    (found : interval.onGrid? tie power = some coefficient) :
    interval.Chosen power coefficient := by
  obtain ⟨scale, positive, tenScaled, twoScaled⟩ := exists_scale power interval.unit
  generalize tens : Nat.pow 10 power.toNat * Nat.pow 2 (-interval.unit).toNat = ten at tenScaled
  generalize twos : Nat.pow 10 (-power).toNat * Nat.pow 2 interval.unit.toNat = two at twoScaled
  generalize floor : interval.middle * two / ten = below
  have inside := contains_iff positive tenScaled twoScaled
  have tenPositive : 0 < ten := by
    have : (0 : ℚ) < ten := tenScaled ▸ mul_pos (by positivity) positive
    exact_mod_cast this
  have lower := Nat.div_mul_le_self (interval.middle * two) ten
  have upper := Nat.lt_mul_div_succ (interval.middle * two) tenPositive
  rw [floor] at lower
  rw [floor, Nat.mul_comm ten] at upper
  -- The neighbours of the middle and their distances, as numbers.
  have middle : ((interval.middle * two : ℕ) : ℚ) = interval.center * scale := by
    rw [Nat.cast_mul, twoScaled, Interval.center, mul_assoc]
  have point : ∀ candidate : ℕ, ((candidate * ten : ℕ) : ℚ) =
      candidate * 10 ^ power * scale := by
    intro candidate
    rw [Nat.cast_mul, tenScaled, mul_assoc]
  have belowCenter : below * 10 ^ power ≤ interval.center := by
    rw [← mul_le_mul_iff_left₀ positive, ← middle, ← point]
    exact_mod_cast lower
  have aboveCenter : interval.center < ((below + 1 : ℕ) : ℚ) * 10 ^ power := by
    rw [← mul_lt_mul_iff_left₀ positive, ← middle, ← point]
    exact_mod_cast upper
  have toBelow : ((interval.middle * two - below * ten : ℕ) : ℚ) =
      (interval.center - below * 10 ^ power) * scale := by
    rw [Nat.cast_sub lower, middle, point]
    ring
  have toAbove : (((below + 1) * ten - interval.middle * two : ℕ) : ℚ) =
      ((below + 1 : ℕ) * 10 ^ power - interval.center) * scale := by
    rw [Nat.cast_sub upper.le, middle, point]
    ring
  rcases onGrid?_eq_some tens twos floor found with ⟨rfl, holds, nearer⟩ | ⟨rfl, holds, nearer⟩
  · rw [← @Nat.cast_le ℚ, toBelow, toAbove, mul_le_mul_iff_left₀ positive, inside] at nearer
    exact chosen_below center belowCenter aboveCenter ((inside _).mp holds) nearer
  · rw [← @Nat.cast_le ℚ, toBelow, toAbove, mul_le_mul_iff_left₀ positive, inside] at nearer
    exact chosen_above center belowCenter aboveCenter ((inside _).mp holds) nearer

namespace Chosen

variable {coefficient : ℕ}

/-- On a grid finer than the upper half of the interval, the chosen decimal is far from the upper
end. -/
theorem add_half_le_upper
    (chosen : interval.Chosen power coefficient)
    {half : ℚ}
    (upper : interval.center + half = interval.upper * 2 ^ interval.unit)
    (lower : interval.lower * 2 ^ interval.unit ≤ interval.center - half / 2)
    (positive : 0 < coefficient)
    (fine : (10 : ℚ) ^ power ≤ half) :
    coefficient * 10 ^ power + half / 2 ≤ interval.upper * 2 ^ interval.unit := by
  have step : (0 : ℚ) < 10 ^ power := by positivity
  rcases le_or_gt ((coefficient : ℚ) * 10 ^ power) interval.center with below | above
  · linarith
  -- Above the middle, the point before the chosen one is not above it.
  have beside := (abs_le.mp chosen.beside).2
  have previous : ((coefficient - 1 : ℕ) : ℚ) * 10 ^ power =
      coefficient * 10 ^ power - 10 ^ power := by
    rw [Nat.cast_sub positive]
    push_cast
    ring
  by_cases holds : interval.Holds (((coefficient - 1 : ℕ) : ℚ) * 10 ^ power)
  · have nearer := chosen.nearest (coefficient - 1) holds
    rw [previous, abs_of_pos (by linarith), abs_of_nonpos (by linarith)] at nearer
    linarith
  · have outside : ((coefficient - 1 : ℕ) : ℚ) * 10 ^ power ≤
        interval.lower * 2 ^ interval.unit := by
      by_contra inside
      exact holds (holds_of_lt (not_le.mp inside) (by linarith))
    linarith

/-- On a grid finer than the lower part of the interval, the chosen decimal is far from the lower
end. -/
theorem lower_add_half_le
    (chosen : interval.Chosen power coefficient)
    {part : ℚ}
    (lower : interval.lower * 2 ^ interval.unit + part = interval.center)
    (upper : interval.center + part ≤ interval.upper * 2 ^ interval.unit)
    (fine : (10 : ℚ) ^ power < part) :
    interval.lower * 2 ^ interval.unit + part / 2 ≤ coefficient * 10 ^ power := by
  have step : (0 : ℚ) < 10 ^ power := by positivity
  rcases le_or_gt interval.center ((coefficient : ℚ) * 10 ^ power) with above | below
  · linarith
  -- Below the middle, the point after the chosen one is not below it.
  have beside := (abs_le.mp chosen.beside).1
  have next : ((coefficient + 1 : ℕ) : ℚ) * 10 ^ power =
      coefficient * 10 ^ power + 10 ^ power := by
    push_cast
    ring
  by_cases holds : interval.Holds (((coefficient + 1 : ℕ) : ℚ) * 10 ^ power)
  · have nearer := chosen.nearest (coefficient + 1) holds
    rw [next, abs_of_neg (by linarith), abs_of_nonneg (by linarith)] at nearer
    linarith
  · have outside : interval.upper * 2 ^ interval.unit ≤
        ((coefficient + 1 : ℕ) : ℚ) * 10 ^ power := by
      by_contra inside
      exact holds (holds_of_lt (by linarith) (not_le.mp inside))
    linarith

end Chosen

end Interval

section IntervalOf

variable {format : Format} {pattern : ℕ}

theorem significand_pos (format : Format) (positive : 0 < pattern) : 0 < format.significand pattern := by
  have hidden := format.hidden_pos
  rw [Format.significand]
  split
  · exact positive
  · omega

/-- A quarter of the unit of a pattern, as a part of the unit. -/
theorem zpow_unit (format : Format) (pattern : ℕ) :
    (2 : ℚ) ^ (intervalOf format pattern).unit = 2 ^ format.exponent pattern / 4 := by
  rw [intervalOf, zpow_sub₀ two_ne_zero]
  norm_num

theorem center_intervalOf (format : Format) (pattern : ℕ) :
    (intervalOf format pattern).center = format.value pattern := by
  rw [Interval.center, zpow_unit, Format.value]
  simp only [intervalOf]
  push_cast
  ring

theorem closed_intervalOf :
    (intervalOf format pattern).closed = true ↔ format.significand pattern % 2 = 0 := by
  simp only [intervalOf, decide_eq_true_eq]

/-- The upper end is half a unit above the middle. -/
theorem upper_intervalOf (format : Format) (pattern : ℕ) :
    ((intervalOf format pattern).upper : ℚ) * 2 ^ (intervalOf format pattern).unit =
      (format.significand pattern + 1 / 2) * 2 ^ format.exponent pattern := by
  rw [zpow_unit]
  simp only [intervalOf]
  push_cast
  ring

/-- A pattern whose lower neighbour has a smaller exponent. -/
def IsNarrow (format : Format) (pattern : ℕ) : Prop :=
  format.significand pattern = format.hidden ∧ format.leastExponent < format.exponent pattern

/-- The lower end is half a unit below the middle, but for the first pattern of an exponent. -/
theorem lower_of_wide (positive : 0 < pattern) (wide : ¬ IsNarrow format pattern) :
    ((intervalOf format pattern).lower : ℚ) * 2 ^ (intervalOf format pattern).unit =
      (format.significand pattern - 1 / 2) * 2 ^ format.exponent pattern := by
  have counts := significand_pos format positive
  have wide : ¬ (format.significand pattern = format.hidden ∧
      format.exponent pattern > format.leastExponent) := wide
  rw [zpow_unit]
  simp only [intervalOf]
  rw [if_neg wide, Nat.cast_sub (by omega)]
  push_cast
  ring

/-- The lower end of the first pattern of an exponent is a quarter of a unit below the middle. -/
theorem lower_of_narrow (narrow : IsNarrow format pattern) :
    ((intervalOf format pattern).lower : ℚ) * 2 ^ (intervalOf format pattern).unit =
      (format.hidden - 1 / 4) * 2 ^ format.exponent pattern := by
  have counts := format.hidden_pos
  rw [zpow_unit]
  simp only [intervalOf]
  rw [if_pos (show format.significand pattern = format.hidden ∧
      format.exponent pattern > format.leastExponent from narrow), narrow.1,
    Nat.cast_sub (by omega)]
  push_cast
  ring

/-- The middle of an interval lies strictly between its ends. -/
theorem intervalOf_ordered (format : Format) (positive : 0 < pattern) :
    (intervalOf format pattern).lower < (intervalOf format pattern).middle ∧
      (intervalOf format pattern).middle < (intervalOf format pattern).upper := by
  have counts := significand_pos format positive
  constructor
  · simp only [intervalOf]
    split <;> omega
  · simp only [intervalOf]
    omega

theorem intervalOf_center_holds (positive : 0 < pattern) :
    (intervalOf format pattern).Holds (intervalOf format pattern).center :=
  Interval.center_holds (intervalOf_ordered format positive).1 (intervalOf_ordered format positive).2

/-- The lower end is at least half a unit below the middle. -/
theorem le_lower (format : Format) (positive : 0 < pattern) :
    (format.significand pattern - 1 / 2) * 2 ^ format.exponent pattern ≤
      ((intervalOf format pattern).lower : ℚ) * 2 ^ (intervalOf format pattern).unit := by
  by_cases narrow : IsNarrow format pattern
  · rw [lower_of_narrow narrow, narrow.1]
    exact mul_le_mul_of_nonneg_right (by linarith) (by positivity)
  · rw [lower_of_wide positive narrow]

theorem Interval.Holds.pos
    (positive : 0 < pattern)
    {exact : ℚ}
    (holds : (intervalOf format pattern).Holds exact) :
    0 < exact := by
  have counts : (1 : ℚ) ≤ format.significand pattern := by
    exact_mod_cast significand_pos format positive
  have scale : (0 : ℚ) < 2 ^ format.exponent pattern := by positivity
  have half : (1 / 2) * 2 ^ format.exponent pattern ≤
      ((format.significand pattern : ℚ) - 1 / 2) * 2 ^ format.exponent pattern :=
    mul_le_mul_of_nonneg_right (by linarith) scale.le
  have := le_lower format positive
  linarith [holds.lower_le]

/-- In units of the pattern, a number of its interval is rounded to its significand. -/
theorem Interval.Holds.rounds
    (positive : 0 < pattern)
    {exact : ℚ}
    (holds : (intervalOf format pattern).Holds exact) :
    Rounds (exact / 2 ^ format.exponent pattern) (format.significand pattern) := by
  have scale : (0 : ℚ) < 2 ^ format.exponent pattern := by positivity
  have upper := holds.le_upper
  have closed := holds.closed_of_eq
  have below := le_lower format positive
  rw [upper_intervalOf] at upper closed
  rw [closed_intervalOf] at closed
  refine ⟨?_, ?_, ?_⟩
  · rw [le_div_iff₀ scale]
    exact below.trans holds.lower_le
  · rwa [div_le_iff₀ scale]
  · rw [div_eq_iff scale.ne', div_eq_iff scale.ne']
    rintro (equal | equal)
    · exact closed (.inl (le_antisymm (equal ▸ below) holds.lower_le))
    · exact closed (.inr equal)

/-- A number of the interval that is below the least number of the exponent belongs to the first
pattern of the exponent. -/
theorem Interval.Holds.narrow
    (positive : 0 < pattern)
    {exact : ℚ}
    (holds : (intervalOf format pattern).Holds exact)
    (above : format.exponent pattern ≠ format.leastExponent)
    (below : exact < format.hidden * 2 ^ format.exponent pattern) :
    IsNarrow format pattern := by
  have scale : (0 : ℚ) < 2 ^ format.exponent pattern := by positivity
  have full := (format.exponent_eq_or_hidden_le pattern).resolve_left above
  have lower := (le_lower format positive).trans holds.lower_le
  have few : (format.significand pattern : ℚ) - 1 / 2 < format.hidden :=
    lt_of_mul_lt_mul_right (lower.trans_lt below) scale.le
  have few : format.significand pattern < format.hidden + 1 := by
    have : (format.significand pattern : ℚ) < format.hidden + 1 := by linarith
    exact_mod_cast this
  have least := format.leastExponent_le_exponent pattern
  exact ⟨by omega, by omega⟩

section Nearest

variable {numerator denominator : ℕ}
  (normal : 1 ≤ format.precision)
  (positive : 0 < pattern)
  (finite : pattern < format.infinity)
  (above : 0 < numerator)
  (nonzero : 0 < denominator)
  (holds : (intervalOf format pattern).Holds ((numerator : ℚ) / denominator))

include normal positive finite above nonzero holds

/-- A number that reaches the exponent of a pattern is rounded in the unit of the pattern. -/
theorem nearest_of_reached
    (reached : format.exponent pattern = format.leastExponent ∨
      format.hidden * 2 ^ format.exponent pattern ≤ (numerator : ℚ) / denominator) :
    format.nearest numerator denominator = pattern := by
  have scale : (0 : ℚ) < 2 ^ format.exponent pattern := by positivity
  have place : Format.LastPlace format ((numerator : ℚ) / denominator)
      (format.exponent pattern) := by
    refine ⟨format.leastExponent_le_exponent pattern, ?_, reached⟩
    have few : (format.significand pattern : ℚ) + 1 ≤ 2 * format.hidden := by
      exact_mod_cast format.significand_lt pattern
    have upper := holds.le_upper
    rw [upper_intervalOf] at upper
    refine upper.trans_lt (mul_lt_mul_of_pos_right ?_ scale)
    linarith
  rw [Format.nearest_eq normal above nonzero place (holds.rounds positive),
    format.eq_of_significand pattern, min_eq_right finite.le]

/-- A number below the exponent of a pattern is rounded in half the unit of the pattern. -/
theorem nearest_of_not_reached
    (raised : format.exponent pattern ≠ format.leastExponent)
    (below : (numerator : ℚ) / denominator < format.hidden * 2 ^ format.exponent pattern) :
    format.nearest numerator denominator = pattern := by
  have narrow := holds.narrow positive raised below
  have least := narrow.2
  have counted := format.eq_of_significand pattern
  have lower := holds.lower_le
  have halved : (2 : ℚ) ^ format.exponent pattern =
      2 * 2 ^ (format.exponent pattern - 1) := by
    rw [← zpow_one_add₀ two_ne_zero]
    congr 1
    omega
  have hidden : (1 : ℚ) ≤ format.hidden := by exact_mod_cast format.hidden_pos
  have half : (0 : ℚ) < 2 ^ (format.exponent pattern - 1) := by positivity
  rw [lower_of_narrow narrow, halved] at lower
  rw [halved] at below
  generalize format.exponent pattern = unit at *
  have place : Format.LastPlace format ((numerator : ℚ) / denominator) (unit - 1) := by
    refine ⟨by omega, by linarith, .inr (le_trans ?_ lower)⟩
    rw [← mul_assoc]
    exact mul_le_mul_of_nonneg_right (by linarith) half.le
  have rounds : Rounds ((numerator : ℚ) / denominator / 2 ^ (unit - 1))
      (2 * format.hidden) := by
    refine ⟨?_, ?_, fun _ => Nat.mul_mod_right 2 format.hidden⟩
    · rw [le_div_iff₀ half]
      push_cast
      linarith
    · rw [div_le_iff₀ half]
      push_cast
      linarith
  have steps : (unit - format.leastExponent).toNat =
      (unit - 1 - format.leastExponent).toNat + 1 := by omega
  have again : (unit - 1 - format.leastExponent).toNat * format.hidden + 2 * format.hidden =
      pattern := by
    rw [← counted, steps, narrow.1]
    ring
  rw [Format.nearest_eq normal above nonzero place rounds, again, min_eq_right finite.le]

end Nearest

/-- Every number of the interval of a pattern is rounded to the pattern. -/
theorem nearest_of_holds
    (normal : 1 ≤ format.precision)
    (positive : 0 < pattern)
    (finite : pattern < format.infinity)
    {numerator denominator : ℕ}
    (nonzero : 0 < denominator)
    (holds : (intervalOf format pattern).Holds ((numerator : ℚ) / denominator)) :
    format.nearest numerator denominator = pattern := by
  have above : 0 < numerator := by
    by_contra zero
    have := holds.pos positive
    rw [Nat.eq_zero_of_not_pos zero, Nat.cast_zero, zero_div] at this
    exact lt_irrefl _ this
  by_cases reached : format.exponent pattern = format.leastExponent ∨
      format.hidden * 2 ^ format.exponent pattern ≤ (numerator : ℚ) / denominator
  · exact nearest_of_reached normal positive finite above nonzero holds reached
  · rw [not_or, not_le] at reached
    exact nearest_of_not_reached normal positive finite above nonzero holds reached.1 reached.2

end IntervalOf
end Decimal
end TileProgram
