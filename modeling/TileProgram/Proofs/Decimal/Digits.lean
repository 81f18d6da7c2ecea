import Mathlib.Algebra.Order.Field.Power
import Mathlib.Data.List.Basic
import Mathlib.Tactic.Linarith
import Mathlib.Tactic.Positivity
import Mathlib.Tactic.Ring
import TileProgram.Decimal.Shortest

/-!
# Digits and written decimals

The digits of a natural number, and the forms in which a decimal is written with
them.
-/

/-!
## Digits and the numbers they stand for

The digits of a natural stand for it, and the first of them is zero for zero
only.  How many there are says between which powers of ten a number lies.
-/

namespace TileProgram
namespace Decimal

@[simp] theorem valueOf_nil : valueOf [] = 0 :=
  rfl

theorem valueOf_append_singleton (digits : List Digit) (digit : Digit) :
    valueOf (digits ++ [digit]) = 10 * valueOf digits + digit.val := by
  simp only [valueOf, List.foldl_append, List.foldl_cons, List.foldl_nil]

theorem valueOf_append (digits others : List Digit) :
    valueOf (digits ++ others) = valueOf digits * 10 ^ others.length + valueOf others := by
  induction others using List.reverseRecOn with
  | nil => simp
  | append_singleton others digit inductionHypothesis =>
      rw [← List.append_assoc, valueOf_append_singleton, inductionHypothesis,
        valueOf_append_singleton, List.length_append, List.length_singleton, Nat.pow_succ]
      ring

@[simp] theorem valueOf_replicate_zero (count : Nat) :
    valueOf (List.replicate count .zero) = 0 := by
  induction count with
  | zero => rfl
  | succ count inductionHypothesis =>
      rw [List.replicate_succ', valueOf_append_singleton, inductionHypothesis]
      rfl

theorem valueOf_lt (digits : List Digit) : valueOf digits < 10 ^ digits.length := by
  induction digits using List.reverseRecOn with
  | nil => exact one_pos
  | append_singleton digits digit inductionHypothesis =>
      have bound := digit.isLt
      rw [valueOf_append_singleton, List.length_append, List.length_singleton, Nat.pow_succ]
      omega

theorem digitsOnto_zero (rest : List Digit) : digitsOnto 0 rest = rest := by
  rw [digitsOnto, if_pos rfl]

theorem digitsOnto_eq (value : Nat) (rest : List Digit) :
    digitsOnto value rest = digitsOnto value [] ++ rest := by
  induction value using Nat.strong_induction_on generalizing rest with
  | _ value inductionHypothesis =>
      by_cases zero : value = 0
      · rw [zero, digitsOnto_zero, digitsOnto_zero, List.nil_append]
      · have smaller : value / 10 < value := by omega
        have step : ∀ others, digitsOnto value others = digitsOnto (value / 10) [] ++
            ⟨value % 10, Nat.mod_lt value (by decide)⟩ :: others := by
          intro others
          rw [digitsOnto, if_neg zero, inductionHypothesis _ smaller]
        rw [step, step [], List.append_assoc, List.singleton_append]

theorem digitsOnto_of_pos {value : Nat} (positive : 0 < value) :
    digitsOnto value [] =
      digitsOnto (value / 10) [] ++ [⟨value % 10, Nat.mod_lt value (by decide)⟩] := by
  rw [digitsOnto, if_neg positive.ne', digitsOnto_eq]

/-- The digits of a natural of more than one digit are those of its tenth and the last one. -/
theorem digitsOf_of_ten_le {value : Nat} (large : 10 ≤ value) :
    digitsOf value =
      digitsOf (value / 10) ++ [⟨value % 10, Nat.mod_lt value (by decide)⟩] := by
  rw [digitsOf, digitsOf, if_neg (by omega), if_neg (by omega), digitsOnto_of_pos (by omega)]

/-- A natural of one digit. -/
theorem digitsOf_of_lt {value : Nat} (small : value < 10) : digitsOf value = [⟨value, small⟩] := by
  rw [digitsOf]
  split
  · next zero =>
    subst zero
    rfl
  · next positive =>
    rw [digitsOnto_of_pos (by omega), Nat.div_eq_of_lt small, digitsOnto_zero]
    simp only [Nat.mod_eq_of_lt small, List.nil_append]

@[simp] theorem valueOf_digitsOf (value : Nat) : valueOf (digitsOf value) = value := by
  induction value using Nat.strong_induction_on with
  | _ value inductionHypothesis =>
      by_cases small : value < 10
      · rw [digitsOf_of_lt small]
        simp [valueOf]
      · rw [digitsOf_of_ten_le (by omega), valueOf_append_singleton,
          inductionHypothesis (value / 10) (by omega)]
        exact Nat.div_add_mod value 10

theorem digitsOf_ne_nil (value : Nat) : digitsOf value ≠ [] := by
  by_cases small : value < 10
  · rw [digitsOf_of_lt small]
    exact List.cons_ne_nil _ _
  · rw [digitsOf_of_ten_le (by omega)]
    exact List.append_ne_nil_of_right_ne_nil _ (List.cons_ne_nil _ _)

/-- The first digit of a positive natural is not zero. -/
theorem head?_digitsOf_ne_zero {value : Nat} (positive : 0 < value) :
    (digitsOf value).head? ≠ some .zero := by
  induction value using Nat.strong_induction_on with
  | _ value inductionHypothesis =>
      by_cases small : value < 10
      · rw [digitsOf_of_lt small, List.head?_cons, ne_eq, Option.some.injEq, Fin.ext_iff]
        exact positive.ne'
      · rw [digitsOf_of_ten_le (by omega), List.head?_append_of_ne_nil _ (digitsOf_ne_nil _)]
        exact inductionHypothesis (value / 10) (by omega) (by omega)

/-- A natural of several digits does not begin with zero. -/
theorem head?_digitsOf_of_long {value : Nat} (long : 1 < (digitsOf value).length) :
    (digitsOf value).head? ≠ some .zero := by
  rcases Nat.eq_zero_or_pos value with zero | positive
  · subst zero
    exact absurd long (by decide)
  · exact head?_digitsOf_ne_zero positive

theorem digitCount_pos (value : Nat) : 0 < digitCount value :=
  List.length_pos_iff.mpr (digitsOf_ne_nil value)

theorem lt_pow_digitCount (value : Nat) : value < 10 ^ digitCount value := by
  have bound := valueOf_lt (digitsOf value)
  rwa [valueOf_digitsOf] at bound

theorem pow_digitCount_le {value : Nat} (positive : 0 < value) :
    10 ^ (digitCount value - 1) ≤ value := by
  induction value using Nat.strong_induction_on with
  | _ value inductionHypothesis =>
      by_cases small : value < 10
      · rw [digitCount, digitsOf_of_lt small]
        exact positive
      · have count : digitCount value = digitCount (value / 10) + 1 := by
          rw [digitCount, digitsOf_of_ten_le (by omega), List.length_append]
          rfl
        have tenth := inductionHypothesis (value / 10) (by omega) (by omega)
        obtain ⟨others, equal⟩ := Nat.exists_eq_add_of_le' (digitCount_pos (value / 10))
        rw [equal] at count tenth
        rw [count, Nat.add_sub_cancel, Nat.pow_succ]
        rw [Nat.add_sub_cancel] at tenth
        omega

section LeadingPower

variable {numerator denominator : Nat}

/-- The leading power of a quotient that is at least one is that of its whole part. -/
theorem leadingPower_of_le (nonzero : 0 < denominator) (large : denominator ≤ numerator) :
    (10 : ℚ) ^ leadingPower numerator denominator ≤ numerator / denominator ∧
      (numerator : ℚ) / denominator < 10 ^ (leadingPower numerator denominator + 1) := by
  have denominatorCast : (0 : ℚ) < denominator := by exact_mod_cast nonzero
  have digits := digitCount_pos (numerator / denominator)
  have lower := pow_digitCount_le (Nat.div_pos large nonzero)
  have upper := lt_pow_digitCount (numerator / denominator)
  have first : ((digitCount (numerator / denominator) : ℤ) - 1) =
      ((digitCount (numerator / denominator) - 1 : ℕ) : ℤ) := by omega
  rw [leadingPower, if_pos large, sub_add_cancel, first, zpow_natCast, zpow_natCast,
    le_div_iff₀ denominatorCast, div_lt_iff₀ denominatorCast]
  constructor
  · exact_mod_cast (Nat.le_div_iff_mul_le nonzero).mp lower
  · exact_mod_cast (Nat.div_lt_iff_lt_mul nonzero).mp upper

/-- A quotient below one has a reciprocal between two neighbouring naturals, and the leading power
is that of the smaller one. -/
theorem leadingPower_of_lt (positive : 0 < numerator) (small : numerator < denominator) :
    (10 : ℚ) ^ leadingPower numerator denominator ≤ numerator / denominator ∧
      (numerator : ℚ) / denominator < 10 ^ (leadingPower numerator denominator + 1) := by
  have numeratorCast : (0 : ℚ) < numerator := by exact_mod_cast positive
  have denominatorCast : (0 : ℚ) < denominator := by exact_mod_cast positive.trans small
  rw [leadingPower, if_neg (Nat.not_le.mpr small)]
  generalize above : (denominator + numerator - 1) / numerator = ceiling
  have ceilingUpper : denominator ≤ ceiling * numerator := by
    have := Nat.lt_div_mul_add positive (a := denominator + numerator - 1)
    rw [above] at this
    omega
  have ceilingLower : (ceiling - 1) * numerator < denominator := by
    have := Nat.div_mul_le_self (denominator + numerator - 1) numerator
    rw [above] at this
    rw [Nat.sub_mul, Nat.one_mul]
    omega
  have several : 0 < ceiling - 1 := by
    by_contra few
    have : ceiling * numerator ≤ 1 * numerator := Nat.mul_le_mul_right _ (by omega)
    omega
  have lower := pow_digitCount_le several
  have upper := lt_pow_digitCount (ceiling - 1)
  have digits := digitCount_pos (ceiling - 1)
  generalize digitCount (ceiling - 1) = count at *
  have next : -(count : ℤ) + 1 = -((count - 1 : ℕ) : ℤ) := by omega
  rw [next, zpow_neg, zpow_neg, zpow_natCast, zpow_natCast, ← one_div, ← one_div,
    div_le_div_iff₀ (by positivity) denominatorCast, div_lt_div_iff₀ denominatorCast
    (by positivity)]
  constructor
  · have : denominator ≤ numerator * 10 ^ count :=
      ceilingUpper.trans (by rw [Nat.mul_comm]; exact Nat.mul_le_mul_left _ (by omega))
    have : (denominator : ℚ) ≤ numerator * 10 ^ count := by exact_mod_cast this
    linarith
  · have : numerator * 10 ^ (count - 1) < denominator :=
      lt_of_le_of_lt (by rw [Nat.mul_comm]; exact Nat.mul_le_mul_right _ lower) ceilingLower
    have : (numerator : ℚ) * 10 ^ (count - 1) < denominator := by exact_mod_cast this
    linarith

/-- The leading power is the power of ten of the first digit. -/
theorem leadingPower_spec (positive : 0 < numerator) (nonzero : 0 < denominator) :
    (10 : ℚ) ^ leadingPower numerator denominator ≤ numerator / denominator ∧
      (numerator : ℚ) / denominator < 10 ^ (leadingPower numerator denominator + 1) := by
  rcases Nat.lt_or_ge numerator denominator with small | large
  · exact leadingPower_of_lt positive small
  · exact leadingPower_of_le nonzero large

end LeadingPower

end Decimal
end TileProgram

/-!
## Laid-out decimals

A written decimal is read as the natural of all its digits, with a power of ten
that counts the digits after the point.  The layout of a decimal keeps its
coefficient and its power, but for a large integer, where zeros are filled in
up to the point and one more stands after it.
-/

namespace TileProgram
namespace Decimal

namespace Written

/-- The natural of all digits of a written decimal. -/
def coefficient (written : Written) : Nat :=
  valueOf (written.whole ++ written.fraction)

/-- The power of ten of the last digit of a written decimal. -/
def power (written : Written) : Int :=
  written.exponent.getD 0 - written.fraction.length

/-- A written decimal has digits before the point, and the first one of several is not zero; without
an exponent it has digits after the point. -/
structure Regular (written : Written) : Prop where
  whole : written.whole ≠ []
  leading : 1 < written.whole.length → written.whole.head? ≠ some .zero
  marked : written.exponent = none → written.fraction ≠ []

end Written

/-- How the digits of a decimal are laid out: its coefficient and power are kept, or the digits of an
integer that the layout writes out are filled up with zeros, one of them after the point. -/
inductive LaidOut (layout : Layout) (scaled : Scaled) (written : Written) : Prop where
  | kept (coefficient : written.coefficient = scaled.coefficient)
      (power : written.power = scaled.power)
  | filled (zeros : Nat) (power : scaled.power = zeros)
      (coefficient : written.coefficient = scaled.coefficient * 10 ^ zeros * 10)
      (last : written.power = -1)
      (few : scaled.coefficient * 10 ^ zeros < 10 ^ (layout.greatestPositional.toNat + 1))

section Digits

variable {layout : Layout} {digits : List Digit}

/-- The first digit stays when zeros are put behind the digits or some of them are taken. -/
theorem leading_of_head
    {others : List Digit}
    (same : others.head? = digits.head?)
    (head : digits.head? ≠ some .zero) :
    1 < others.length → others.head? ≠ some .zero :=
  fun _ => same ▸ head

/-- Digits with a negative first power stand behind a zero and the point. -/
theorem positional_of_neg
    {first : Int}
    (small : first < 0)
    (nonempty : digits ≠ []) :
    LaidOut layout ⟨valueOf digits, first + 1 - digits.length⟩ (positional digits first) ∧
      (positional digits first).Regular := by
  rw [positional, if_pos small]
  refine ⟨.kept ?_ ?_, List.cons_ne_nil _ _, fun long => absurd long (Nat.lt_irrefl _), fun _ =>
    List.append_ne_nil_of_right_ne_nil _ nonempty⟩
  · rw [Written.coefficient, ← List.append_assoc, valueOf_append]
    have zeros : valueOf ([Digit.zero] ++ List.replicate ((-first).toNat - 1) .zero) = 0 := by
      rw [List.singleton_append, ← List.replicate_succ, valueOf_replicate_zero]
    rw [zeros, Nat.zero_mul, Nat.zero_add]
  · rw [Written.power, List.length_append, List.length_replicate]
    simp only [Option.getD_none]
    omega

/-- Digits that all stand before the point are filled up with zeros. -/
theorem positional_of_short
    {first : Int}
    (large : ¬ first < 0)
    (bounded : first ≤ layout.greatestPositional)
    (short : digits.length ≤ first.toNat + 1)
    (nonempty : digits ≠ [])
    (head : digits.head? ≠ some .zero) :
    LaidOut layout ⟨valueOf digits, first + 1 - digits.length⟩ (positional digits first) ∧
      (positional digits first).Regular := by
  rw [positional, if_neg large]
  simp only [if_pos short]
  refine ⟨.filled (first.toNat + 1 - digits.length) ?_ ?_ ?_ ?_, ?_, ?_, fun _ =>
    List.cons_ne_nil _ _⟩
  · simp only
    omega
  · rw [Written.coefficient, valueOf_append_singleton, valueOf_append, valueOf_replicate_zero,
      List.length_replicate, Nat.add_zero]
    exact Nat.mul_comm _ _
  · rfl
  · calc valueOf digits * 10 ^ (first.toNat + 1 - digits.length)
        < 10 ^ digits.length * 10 ^ (first.toNat + 1 - digits.length) :=
          Nat.mul_lt_mul_of_pos_right (valueOf_lt digits) (by positivity)
      _ = 10 ^ (first.toNat + 1) := by rw [← Nat.pow_add, Nat.add_sub_cancel' short]
      _ ≤ 10 ^ (layout.greatestPositional.toNat + 1) :=
          Nat.pow_le_pow_right (by decide) (by omega)
  · exact List.append_ne_nil_of_left_ne_nil nonempty _
  · exact leading_of_head (List.head?_append_of_ne_nil _ nonempty) head

/-- Digits on both sides of the point. -/
theorem positional_of_long
    {first : Int}
    (large : ¬ first < 0)
    (long : ¬ digits.length ≤ first.toNat + 1)
    (head : digits.head? ≠ some .zero) :
    LaidOut layout ⟨valueOf digits, first + 1 - digits.length⟩ (positional digits first) ∧
      (positional digits first).Regular := by
  rw [positional, if_neg large]
  simp only [if_neg long]
  refine ⟨.kept ?_ ?_, ?_, ?_, fun _ => ?_⟩
  · rw [Written.coefficient, List.take_append_drop]
  · rw [Written.power, List.length_drop]
    simp only [Option.getD_none]
    omega
  · rw [ne_eq, List.take_eq_nil_iff]
    rintro (none | empty)
    · omega
    · exact long (by rw [empty]; exact Nat.zero_le _)
  · exact leading_of_head (List.head?_take.trans (if_neg (Nat.succ_ne_zero _))) head
  · rw [ne_eq, List.drop_eq_nil_iff]
    exact long

/-- Digits with an exponent: one of them stands before the point. -/
theorem exponential_spec
    (first : Int)
    (nonempty : digits ≠ []) :
    LaidOut layout ⟨valueOf digits, first + 1 - digits.length⟩
        ⟨digits.take 1, digits.drop 1, some first⟩ ∧
      Written.Regular ⟨digits.take 1, digits.drop 1, some first⟩ := by
  have several := List.length_pos_iff.mpr nonempty
  refine ⟨.kept ?_ ?_, ?_, fun long => ?_, fun none => nomatch none⟩
  · rw [Written.coefficient, List.take_append_drop]
  · rw [Written.power, List.length_drop]
    simp only [Option.getD_some]
    omega
  · rw [ne_eq, List.take_eq_nil_iff]
    rintro (none | empty)
    · exact absurd none one_ne_zero
    · exact nonempty empty
  · rw [List.length_take] at long
    omega

end Digits

/-- Positional digits have no exponent. -/
theorem exponent_positional (digits : List Digit) (first : Int) :
    (positional digits first).exponent = none := by
  unfold positional
  split
  · rfl
  · simp only
    split <;> rfl

/-- The exponent of a laid-out decimal is the power of ten of its first digit. -/
theorem Layout.exponent_scaled
    (layout : Layout)
    {scaled : Scaled}
    {power : Int}
    (marked : (layout.scaled scaled).exponent = some power) :
    power = scaled.power + digitCount scaled.coefficient - 1 := by
  rw [Layout.scaled] at marked
  split at marked
  · rw [exponent_positional] at marked
    cases marked
  · exact (Option.some.inj marked).symm

/-- A decimal that is laid out keeps its value, and its digits are regular. -/
theorem Layout.scaled_spec
    (layout : Layout)
    {scaled : Scaled}
    (positive : 0 < scaled.coefficient) :
    LaidOut layout scaled (layout.scaled scaled) ∧ (layout.scaled scaled).Regular := by
  have nonempty := digitsOf_ne_nil scaled.coefficient
  have head := head?_digitsOf_ne_zero positive
  have power : scaled.power + (digitsOf scaled.coefficient).length - 1 + 1 -
      (digitsOf scaled.coefficient).length = scaled.power := by omega
  have same : scaled = ⟨valueOf (digitsOf scaled.coefficient),
      scaled.power + (digitsOf scaled.coefficient).length - 1 + 1 -
        (digitsOf scaled.coefficient).length⟩ := by
    rw [valueOf_digitsOf, power]
  rw [Layout.scaled]
  nth_rewrite 1 [same]
  generalize digitsOf scaled.coefficient = digits at *
  generalize scaled.power + digits.length - 1 = first at *
  split
  · next bounded =>
    by_cases small : first < 0
    · exact positional_of_neg small nonempty
    · by_cases short : digits.length ≤ first.toNat + 1
      · exact positional_of_short small bounded.2 short nonempty head
      · exact positional_of_long small short head
  · exact exponential_spec first nonempty

end Decimal
end TileProgram
