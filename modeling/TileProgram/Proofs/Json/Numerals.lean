import TileProgram.Json.Decode
import TileProgram.Json.Printer
import TileProgram.Proofs.Decimal.Digits
import TileProgram.Proofs.Json.Singles

/-!
# Reading printed numbers

The numeral of a written decimal is read as the natural of its digits, scaled
by its power of ten.  Every finite single is read back from the numeral that is
printed for it, and a number that is not finite is printed as nothing a number
is read from.
-/

namespace TileProgram
namespace Json

open Binary Decimal

namespace Accumulator

/-- One more digit is appended like the digits before it. -/
theorem appended_append_singleton (significand : Nat) (digits : List Digit) (digit : Digit) :
    significand * 10 ^ (digits ++ [digit]).length + valueOf (digits ++ [digit]) =
      (significand * 10 ^ digits.length + valueOf digits) * 10 + digit.val := by
  rw [valueOf_append_singleton, List.length_append, List.length_singleton, Nat.pow_succ]
  ring

theorem fits_of_lt
    {accumulator : Accumulator}
    {digit : Digit}
    (room : accumulator.full = false)
    (small : accumulator.significand * 10 + digit.val < UInt64.size) :
    accumulator.fits digit = true := by
  rw [fits, room, Bool.not_false, Bool.true_and, decide_eq_true_eq]
  exact small

/-- Digits before the point that fit are appended to the significand. -/
theorem foldl_addWhole
    (digits : List Digit)
    {accumulator : Accumulator}
    (room : accumulator.full = false)
    (small : accumulator.significand * 10 ^ digits.length + valueOf digits < UInt64.size) :
    digits.foldl addWhole accumulator =
      { accumulator with
        significand := accumulator.significand * 10 ^ digits.length + valueOf digits } := by
  induction digits using List.reverseRecOn with
  | nil => simp
  | append_singleton digits digit inductionHypothesis =>
      rw [appended_append_singleton] at small ⊢
      rw [List.foldl_append, inductionHypothesis (by omega), List.foldl_cons, List.foldl_nil,
        addWhole, if_pos]
      exact fits_of_lt room small

/-- Digits after the point that fit are appended too, and each lowers the power of ten. -/
theorem foldl_addFraction
    (digits : List Digit)
    {accumulator : Accumulator}
    (room : accumulator.full = false)
    (small : accumulator.significand * 10 ^ digits.length + valueOf digits < UInt64.size) :
    digits.foldl addFraction accumulator =
      { accumulator with
        significand := accumulator.significand * 10 ^ digits.length + valueOf digits
        exponent := accumulator.exponent - digits.length } := by
  induction digits using List.reverseRecOn with
  | nil => simp
  | append_singleton digits digit inductionHypothesis =>
      rw [appended_append_singleton] at small ⊢
      rw [List.foldl_append, inductionHypothesis (by omega), List.foldl_cons, List.foldl_nil,
        addFraction, if_pos]
      · rw [List.length_append, List.length_singleton]
        congr 1
        push_cast
        ring
      · exact fits_of_lt room small

/-- Digits that fit a word of 64 bits are read exactly. -/
theorem ofDigits_eq
    {whole fraction : List Digit}
    (small : valueOf (whole ++ fraction) < UInt64.size) :
    ofDigits whole fraction = ⟨valueOf (whole ++ fraction), -fraction.length, false⟩ := by
  rw [valueOf_append] at small ⊢
  have positive : 0 < 10 ^ fraction.length := by positivity
  have wholeSmall : valueOf whole < UInt64.size :=
    lt_of_le_of_lt ((Nat.le_mul_of_pos_right _ positive).trans (Nat.le_add_right _ _)) small
  have before : whole.foldl addWhole empty = ⟨valueOf whole, 0, false⟩ := by
    rw [foldl_addWhole whole rfl (by rw [empty, Nat.zero_mul, Nat.zero_add]; exact wholeSmall)]
    simp [empty]
  rw [ofDigits, before, foldl_addFraction fraction rfl small]
  simp

end Accumulator

namespace Numeral

/-- The numeral of a written decimal. -/
def ofWritten (negative : Bool) (written : Written) : Numeral where
  isNegative := negative
  whole := written.whole
  fraction := if written.fraction.isEmpty then none else some written.fraction
  exponent := written.exponent.map fun power => (power < 0, digitsOf power.natAbs)

theorem getD_fraction_ofWritten (negative : Bool) (written : Written) :
    (ofWritten negative written).fraction.getD [] = written.fraction := by
  unfold ofWritten
  cases written.fraction <;> rfl

/-- A written decimal is read as its coefficient, scaled by its power of ten. -/
theorem double?_ofWritten
    (negative : Bool)
    {written : Written}
    (small : written.coefficient < UInt64.size)
    (moderate : ∀ power, written.exponent = some power → power.natAbs ≤ greatestExponent) :
    (ofWritten negative written).double? =
      scaleByTen (Format.double.nearest written.coefficient 1) written.power := by
  have read : Accumulator.ofDigits (ofWritten negative written).whole
      ((ofWritten negative written).fraction.getD []) =
        ⟨written.coefficient, -written.fraction.length, false⟩ := by
    rw [getD_fraction_ofWritten]
    exact Accumulator.ofDigits_eq small
  unfold double?
  rw [read, Written.power]
  cases marked : written.exponent with
  | none =>
      simp [ofWritten, marked]
  | some power =>
      have bounded := moderate power marked
      simp only [ofWritten, marked, Option.map_some, valueOf_digitsOf, Option.getD_some]
      rw [if_neg (Nat.not_lt.mpr bounded)]
      congr 1
      by_cases sign : power < 0
      · simp only [sign, decide_true, if_true]
        omega
      · simp only [sign, decide_false]
        rw [if_neg (by decide)]
        omega

/-- A regular written decimal is not an integer. -/
theorem word?_ofWritten
    (negative : Bool)
    {written : Written}
    (regular : written.Regular) :
    (ofWritten negative written).word? = none := by
  have none : (ofWritten negative written).toInt? = none := by
    unfold toInt? ofWritten
    cases marked : written.exponent with
    | none =>
        have digits := regular.marked marked
        cases present : written.fraction with
        | nil => exact absurd present digits
        | cons digit digits => rfl
    | some power => cases written.fraction <;> rfl
  rw [word?, none]
  rfl

end Numeral

/-- What is printed for a finite single is a written decimal. -/
theorem ofSingle_of_isFinite {number : Single} (finite : number.isFinite = true) :
    Value.ofSingle number =
      .number (.ofWritten number.isNegative
        (numberLayout.write Format.single number.magnitude)) :=
  if_pos finite

/-- A single is its sign and its magnitude. -/
theorem ofParts_magnitude (number : Single) :
    Single.ofParts number.isNegative number.magnitude = number := by
  obtain ⟨bits⟩ := number
  have bound := bits.toNat_lt
  have parts : (if Single.isNegative ⟨bits⟩ then 0x80000000 else 0) + Single.magnitude ⟨bits⟩ =
      bits.toNat := by
    simp only [Single.isNegative, Single.magnitude, decide_eq_true_eq]
    split <;> omega
  rw [Single.ofParts, parts, UInt32.ofNat_toNat]

/-- The pattern of zero is read back from the decimal that is written for it. -/
theorem read_zero :
    scaleByTen (Format.double.nearest 0 1) (-1) = some 0 ∧
      Format.convert .double .single 0 = 0 := by
  decide +kernel

/-- A large integer is read exactly, since it has few digits. -/
theorem exists_read_integer
    {natural pattern : ℕ}
    (positive : 0 < pattern)
    (finite : pattern < Format.single.infinity)
    (nonzero : 0 < natural)
    (small : natural * 10 < 2 ^ 53)
    (holds : (intervalOf .single pattern).Holds natural) :
    ∃ read, scaleByTen (Format.double.nearest (natural * 10) 1) (-1) = some read ∧
      Format.convert .double .single read = pattern := by
  obtain ⟨read, unit, count, scales, rounded⟩ :=
    exists_scaleByTen (Nat.mul_pos nonzero (by decide)) small (by decide : (-1 : ℤ).natAbs ≤ 200)
  have tenth : readPower (-1) = 1 / 10 := by
    have ten : powerDouble 1 = 10 := value_nearest_natural (by decide : 0 < 10) (by decide)
    rw [readPower, if_neg (by decide), Int.natAbs_neg, Int.natAbs_one, ten]
  have exact : ((natural * 10 : ℕ) : ℚ) * readPower (-1) = natural * 2 ^ (0 : ℤ) := by
    rw [tenth, zpow_zero]
    push_cast
    ring
  have value : Format.double.value read = _ := rounded.eq_of_short (by omega) exact
  rw [exact, zpow_zero, mul_one] at value
  refine ⟨read, scales, nearest_of_holds (by decide) positive finite (Nat.pow_pos two_pos) ?_⟩
  rw [scaled_ratio]
  exact (congrArg (intervalOf .single pattern).Holds value).mpr holds

/-- The decimal that is written for a single is regular, has few digits and a moderate exponent, and
is read as a double that is rounded to the single. -/
structure ReadsBack (written : Written) (pattern : ℕ) : Prop where
  regular : written.Regular
  small : written.coefficient < UInt64.size
  moderate : ∀ power, written.exponent = some power → power.natAbs ≤ greatestExponent
  reads : ∃ read,
    scaleByTen (Format.double.nearest written.coefficient 1) written.power = some read ∧
      Format.convert .double .single read = pattern

theorem readsBack_write {pattern : ℕ} (finite : pattern < Format.single.infinity) :
    ReadsBack (numberLayout.write .single pattern) pattern := by
  rcases Nat.eq_zero_or_pos pattern with rfl | positive
  · obtain ⟨scales, converts⟩ := read_zero
    exact ⟨⟨by decide, by decide, by decide⟩, by decide, fun _ none => (nomatch none),
      0, scales, converts⟩
  rw [Layout.write, if_neg positive.ne']
  obtain ⟨nonzero, few, bounded, read, scales, converts⟩ :=
    exists_read_shortest positive finite numberLayout.tie
  have holds := shortest_holds .single (by decide) positive numberLayout.tie
  generalize shortest .single numberLayout.tie pattern = scaled at *
  obtain ⟨laidOut, regular⟩ := numberLayout.scaled_spec nonzero
  have digits : digitCount scaled.coefficient ≤ 10 := by
    have most := (pow_digitCount_le nonzero).trans few
    have := (Nat.pow_le_pow_iff_right (by decide)).mp most
    omega
  have moderate : ∀ power, (numberLayout.scaled scaled).exponent = some power →
      power.natAbs ≤ greatestExponent := by
    intro power marked
    have equal := numberLayout.exponent_scaled marked
    rw [greatestExponent]
    omega
  cases laidOut with
  | kept coefficient power =>
      refine ⟨regular, ?_, moderate, read, ?_, converts⟩
      · rw [coefficient]
        exact lt_of_le_of_lt few (by decide)
      · rw [coefficient, power, scales]
  | filled zeros power coefficient last below =>
      have natural : scaled.value = (scaled.coefficient * 10 ^ zeros : ℕ) := by
        rw [Scaled.value, power, zpow_natCast]
        push_cast
        rfl
      rw [natural] at holds
      have below : scaled.coefficient * 10 ^ zeros < 10 ^ 13 := below
      refine ⟨regular, ?_, moderate, ?_⟩
      · rw [coefficient]
        exact lt_of_lt_of_le (Nat.mul_lt_mul_of_pos_right below (by decide)) (by decide)
      · rw [coefficient, last]
        exact exists_read_integer positive finite (Nat.mul_pos nonzero (by positivity)) (by omega)
          holds

/-- Every finite single is read back from the number that is printed for it. -/
theorem single?_ofWritten {number : Single} (finite : number.isFinite = true) :
    (Numeral.ofWritten number.isNegative
      (numberLayout.write Format.single number.magnitude)).single? = some number := by
  obtain ⟨regular, small, moderate, read, scales, converts⟩ :=
    readsBack_write (of_decide_eq_true finite)
  rw [Numeral.single?, Numeral.word?_ofWritten _ regular]
  simp only
  rw [Numeral.double?_ofWritten _ small moderate, scales, Option.map_some, converts]
  exact congrArg some (ofParts_magnitude number)

/-- A single is read back from what is printed for it exactly when it is finite. -/
theorem single_ofSingle (number : Single) :
    Decoder.single (.ofSingle number) = if number.isFinite then some number else none := by
  by_cases finite : number.isFinite = true
  · rw [ofSingle_of_isFinite finite, if_pos finite]
    exact single?_ofWritten finite
  · rw [Value.ofSingle, if_neg finite, if_neg finite]
    rfl

end Json
end TileProgram
