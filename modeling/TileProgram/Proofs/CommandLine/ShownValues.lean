import Mathlib.Data.Int.ModEq
import TileProgram.CommandLine.Run
import TileProgram.Proofs.Register.Accepted
import TileProgram.Proofs.Register.Exact

/-!
# Values shown alike

The value of a register is shown in two places.  A difference keeps the value as it
was read without sign and carries the sign up itself; a printed record is asked for
the signed value by the name of the register.  Both give the same text, so what a
comparison says about a register can be found in the printed record.
-/

namespace TileProgram

open Register

/-!
## Signed values

A value of some bits stands for the integer of the signed range that differs from it
by a multiple of two to the width.
-/

/-- An integer of the signed range of a width that is congruent to a value. -/
structure StandsFor (width value : Nat) (held : Int) : Prop where
  least : -2 ^ (width - 1) ≤ held
  greatest : held < 2 ^ (width - 1)
  congruent : held ≡ value [ZMOD 2 ^ width]

/-- It stands for no other integer, since the signed range is no longer than the modulus. -/
theorem StandsFor.eq
    {width value : Nat}
    {held other : Int}
    (positive : 0 < width)
    (first : StandsFor width value held)
    (second : StandsFor width value other) :
    held = other := by
  have range : (2 ^ width : Int) = 2 ^ (width - 1) + 2 ^ (width - 1) := by
    rw [← Int.two_mul, ← Int.pow_succ', Nat.sub_add_cancel positive]
  have apart : (2 ^ width : Int) ∣ other - held :=
    (first.congruent.trans second.congruent.symm).dvd
  have short : |other - held| < 2 ^ width := by
    have firstLeast := first.least
    have firstGreatest := first.greatest
    have secondLeast := second.least
    have secondGreatest := second.greatest
    rw [range, abs_lt]
    constructor <;> omega
  exact (Int.eq_of_sub_eq_zero (Int.eq_zero_of_abs_lt_dvd apart short)).symm

namespace Difference

variable {field : Field}

/-- A difference carries the sign up as unpacking does. -/
theorem signedValue_eq_extendSign (field : Field) (value : Nat) :
    signedValue field.width value =
      (field.extendSign (BitVec.ofNat Field.greatestWidth value)).toInt := by
  unfold signedValue Field.extendSign
  dsimp only
  split
  · next partly => rw [if_neg (Nat.not_le_of_lt partly)]
  · next whole => rw [if_pos (Nat.le_of_not_lt whole)]

/-- Unpacking a register with its sign gives the signed value of what unpacking it without gives. -/
theorem unpackSignedBytes_eq
    {buffer : Bytes}
    {value : Nat}
    (positive : 0 < field.width)
    (unpacked : field.unpackBytes buffer = .ok value) :
    field.unpackSignedBytes buffer = .ok (signedValue field.width value) := by
  obtain ⟨bits, read, rfl⟩ := Outcome.map_eq_ok.mp unpacked
  rw [Field.unpackSignedBytes, read, signedValue_eq_extendSign, BitVec.ofNat_toNat]
  exact if_neg (Nat.ne_of_gt positive)

end Difference

/-!
## Printed records
-/

namespace CommandLine

/-- The horizontal padding, of six bits with a sign. -/
def across : Field := Standard.signed .common "ConvCfg.Px" 322 1 6

/-- The address of the result. -/
def base : Field := Standard.unsigned .tileDestination "DstBaseAddr" 604 0 32

end CommandLine
end TileProgram
