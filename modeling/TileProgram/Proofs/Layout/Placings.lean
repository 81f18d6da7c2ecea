import Mathlib.Order.Bounds.Defs
import TileProgram.Proofs.Layout.Allocator

/-!
# Surfaces placed one after another

An allocator is asked for surfaces of any sizes in any order.  Each surface that
it grants begins at an aligned address, lies in the address space, and lies
behind all that it granted before.  A surface is refused exactly when the space
that is left is too small for it.  A refusal takes nothing, so that a smaller
surface may follow.
-/

namespace TileProgram
namespace Layout

/-!
## Least multiples

The alignment of a value is the least multiple that is not below it.  The
address space ends at a multiple of every alignment.
-/

/-- The alignment of a value passes a multiple exactly when the value does. -/
theorem alignUp_le_iff
    {alignment value stop : Nat}
    (power : isPowerOfTwo alignment = true)
    (multiple : alignment ∣ stop) :
    alignUp value alignment ≤ stop ↔ value ≤ stop := by
  have positive := pos_of_isPowerOfTwo power
  constructor
  · exact Nat.le_trans (le_alignUp positive)
  · intro below
    obtain ⟨count, rfl⟩ := multiple
    rw [alignUp_eq power]
    apply Nat.mul_le_mul_left
    apply Nat.le_of_lt_succ
    rw [Nat.div_lt_iff_lt_mul positive, Nat.succ_mul, Nat.mul_comm count]
    omega

theorem isLeast_alignUp
    {alignment : Nat}
    (power : isPowerOfTwo alignment = true)
    (value : Nat) :
    IsLeast {offset | alignment ∣ offset ∧ value ≤ offset} (alignUp value alignment) := by
  refine ⟨⟨dvd_alignUp power value, le_alignUp (pos_of_isPowerOfTwo power)⟩, ?_⟩
  rintro offset ⟨multiple, above⟩
  exact (alignUp_le_iff power multiple).mpr above

/-- Every alignment of 32 bits divides the size of the address space. -/
theorem dvd_spaceSize
    {alignment : UInt32}
    (power : isPowerOfTwo alignment.toNat = true) :
    alignment.toNat ∣ Allocator.spaceSize := by
  have equal : 2 ^ alignment.toNat.log2 = alignment.toNat := by simpa [isPowerOfTwo] using power
  have small : 2 ^ alignment.toNat.log2 < 2 ^ 32 := by
    rw [equal]
    exact alignment.toNat_lt
  rw [← equal]
  show 2 ^ alignment.toNat.log2 ∣ 2 ^ 32
  apply Nat.pow_dvd_pow 2
  exact Nat.le_of_lt ((Nat.pow_lt_pow_iff_right (by decide)).mp small)

/-!
## Words

Addresses are computed in words of 64 bits.  As long as no sum leaves their
range the results are those of numbers without bounds.
-/

/-- Raises a word to the next multiple of an alignment. -/
def alignUpWord (value alignment : UInt64) : UInt64 :=
  (value + alignment - 1) &&& ~~~(alignment - 1)

/-- Clearing bits takes away what they stand for. -/
theorem toNat_and_not (word mask : UInt64) :
    (word &&& ~~~mask).toNat = word.toNat - (word.toNat &&& mask.toNat) := by
  have apart : (word.toBitVec &&& ~~~mask.toBitVec) &&&
      (word.toBitVec &&& mask.toBitVec) = 0#64 := by
    ext place
    cases masked : mask.toBitVec[place] <;> simp [masked]
  have parts : (word.toBitVec &&& ~~~mask.toBitVec) |||
      (word.toBitVec &&& mask.toBitVec) = word.toBitVec := by
    ext place
    cases masked : mask.toBitVec[place] <;> simp [masked]
  have sum : (word &&& ~~~mask).toNat + (word.toNat &&& mask.toNat) = word.toNat := by
    have numbers := BitVec.toNat_add_of_and_eq_zero apart
    rw [BitVec.add_eq_or_of_and_eq_zero _ _ apart, parts] at numbers
    exact numbers.symm
  omega

theorem toNat_alignUpWord
    {value alignment : UInt64}
    (positive : 0 < alignment.toNat)
    (fits : value.toNat + alignment.toNat < UInt64.size) :
    (alignUpWord value alignment).toNat = alignUp value.toNat alignment.toNat := by
  have one : (1 : UInt64).toNat = 1 := rfl
  have sum : (value + alignment).toNat = value.toNat + alignment.toNat := by
    rw [UInt64.toNat_add, Nat.mod_eq_of_lt fits]
  have raised : (value + alignment - 1).toNat = value.toNat + alignment.toNat - 1 := by
    rw [UInt64.toNat_sub_of_le, sum, one]
    rw [UInt64.le_iff_toNat_le, sum, one]
    omega
  have mask : (alignment - 1).toNat = alignment.toNat - 1 := by
    rw [UInt64.toNat_sub_of_le, one]
    rwa [UInt64.le_iff_toNat_le, one]
  rw [alignUpWord, toNat_and_not, raised, mask]
  rfl

namespace Allocator

/-- The end of a surface that is placed at an address. -/
def stopWord (next size alignment : UInt64) : UInt64 :=
  alignUpWord (next + if size = 0 then 1 else size) alignment

/-- Places a surface behind an address. -/
def placeWord? (next size alignment : UInt64) : Option (UInt32 × UInt64) :=
  if next < 0x100000000 ∧ stopWord next size alignment ≤ 0x100000000 then
    some (next.toUInt32, stopWord next size alignment)
  else none

variable {next size alignment : UInt64}

theorem toNat_stopWord
    (positive : 0 < alignment.toNat)
    (fits : next.toNat + max size.toNat 1 + alignment.toNat < UInt64.size) :
    (stopWord next size alignment).toNat =
      alignUp (next.toNat + max size.toNat 1) alignment.toNat := by
  have taken : (if size = 0 then 1 else size).toNat = max size.toNat 1 := by
    split
    · next empty =>
      rw [empty]
      rfl
    · next filled =>
      have filled : size.toNat ≠ 0 := fun zero => filled (UInt64.toNat_inj.mp zero)
      omega
  have sum : (next + if size = 0 then 1 else size).toNat = next.toNat + max size.toNat 1 := by
    rw [UInt64.toNat_add, taken, Nat.mod_eq_of_lt]
    exact Nat.lt_of_le_of_lt (Nat.le_add_right _ _) fits
  rw [stopWord, toNat_alignUpWord positive (by rwa [sum]), sum]

/-- Words place a surface as numbers do. -/
theorem placeWord?_eq
    (positive : 0 < alignment.toNat)
    (fits : next.toNat + max size.toNat 1 + alignment.toNat < UInt64.size) :
    placeWord? next size alignment =
      (place? ⟨next.toNat, alignment.toNat⟩ size.toNat).map fun placed =>
        (placed.1, UInt64.ofNat placed.2.next) := by
  have stop := toNat_stopWord positive fits
  have space : (0x100000000 : UInt64).toNat = spaceSize := rfl
  have room : (next < 0x100000000 ∧ stopWord next size alignment ≤ 0x100000000) ↔
      next.toNat < spaceSize ∧
        alignUp (next.toNat + max size.toNat 1) alignment.toNat ≤ spaceSize := by
    rw [UInt64.lt_iff_toNat_lt, UInt64.le_iff_toNat_le, stop, space]
  unfold placeWord? place?
  simp only [room]
  split
  · rw [Option.map_some, ← stop, UInt64.ofNat_toNat]
    rfl
  · rfl

end Allocator

/-!
## Requests one after another
-/

/-- A request for a surface: the allocator before it, the size, the address if the surface is
granted, and the allocator after it. -/
structure Placing where
  before : Allocator
  size : Nat
  base? : Option UInt32
  after : Allocator
  deriving DecidableEq

namespace Allocator

/-- Asks for a surface; an allocator that has no room for it stays as it is. -/
def placing (allocator : Allocator) (size : Nat) : Placing :=
  match allocator.place? size with
  | some (base, next) => ⟨allocator, size, some base, next⟩
  | none => ⟨allocator, size, none, allocator⟩

@[simp] theorem before_placing (allocator : Allocator) (size : Nat) :
    (allocator.placing size).before = allocator := by
  unfold placing
  split <;> rfl

@[simp] theorem size_placing (allocator : Allocator) (size : Nat) :
    (allocator.placing size).size = size := by
  unfold placing
  split <;> rfl

/-- Asks for surfaces of some sizes, one after another. -/
def placings (allocator : Allocator) : List Nat → List Placing
  | [] => []
  | size :: rest => allocator.placing size :: (allocator.placing size).after.placings rest

end Allocator

namespace Placing

/-- What a request comes to. -/
structure Exact (policy : Policy) (placing : Placing) : Prop where
  granted : ∀ base, placing.base? = some base →
    policy.alignment.toNat ∣ base.toNat ∧ placing.before.next ≤ base.toNat ∧
      base.toNat + max placing.size 1 ≤ placing.after.next ∧
      placing.after.next ≤ Allocator.spaceSize
  refused_iff : placing.base? = none ↔ Allocator.spaceSize <
    alignUp (placing.before.next + max placing.size 1) policy.alignment.toNat
  room_iff : placing.base? = none ↔
    Allocator.spaceSize < placing.before.next + max placing.size 1
  kept : placing.base? = none → placing.after = placing.before
  full : placing.before.next = Allocator.spaceSize → placing.base? = none
  smaller : placing.base? = none → ∀ size,
    placing.before.next + max size 1 ≤ Allocator.spaceSize →
    ∃ base, (placing.after.placing size).base? = some base
  words : ∀ next size alignment : UInt64, next.toNat = placing.before.next →
    size.toNat = placing.size → alignment = policy.alignment.toUInt64 →
    next.toNat + max size.toNat 1 + alignment.toNat < UInt64.size →
    Allocator.placeWord? next size alignment =
      placing.base?.map fun base => (base, UInt64.ofNat placing.after.next)

/-- The surface of one request, if it is granted, ends before that of another begins. -/
def Below (earlier later : Placing) : Prop :=
  ∀ first second, earlier.base? = some first → later.base? = some second →
    first.toNat + max earlier.size 1 ≤ second.toNat

end Placing

namespace Allocator

variable {policy : Policy} {allocator : Allocator}

/-- An allocator of a policy, at an aligned address in the space or at its end. -/
structure Sound (policy : Policy) (allocator : Allocator) : Prop where
  alignment : allocator.alignment = policy.alignment.toNat
  aligned : policy.alignment.toNat ∣ allocator.next
  inside : allocator.next ≤ spaceSize

theorem sound_ofPolicy (accepted : policy.validate = .ok ()) : (ofPolicy policy).Sound policy where
  alignment := rfl
  aligned := Policy.dvd_baseAddress accepted
  inside := Nat.le_of_lt policy.baseAddress.toNat_lt

/-- A request is granted exactly when there is room for the surface. -/
theorem placing_cases
    (accepted : policy.validate = .ok ())
    (sound : allocator.Sound policy)
    (size : Nat) :
    allocator.next + max size 1 ≤ spaceSize ∧
        allocator.placing size =
          ⟨allocator, size, some (UInt32.ofNat allocator.next),
            { allocator with
              next := alignUp (allocator.next + max size 1) policy.alignment.toNat }⟩ ∨
      spaceSize < allocator.next + max size 1 ∧
        allocator.placing size = ⟨allocator, size, none, allocator⟩ := by
  have power := (Policy.alignments_of_validate accepted).1
  have fits_iff := @alignUp_le_iff _ (allocator.next + max size 1) _ power (dvd_spaceSize power)
  unfold placing place?
  dsimp only
  rw [sound.alignment]
  by_cases room : allocator.next + max size 1 ≤ spaceSize
  · left
    rw [if_pos ⟨by omega, fits_iff.mpr room⟩]
    exact ⟨room, rfl⟩
  · right
    rw [if_neg fun fits => room (fits_iff.mp fits.2)]
    exact ⟨by omega, rfl⟩

/-- A request leaves an allocator sound, and no address is given back. -/
theorem Sound.placing
    (accepted : policy.validate = .ok ())
    (sound : allocator.Sound policy)
    (size : Nat) :
    (allocator.placing size).after.Sound policy ∧
      allocator.next ≤ (allocator.placing size).after.next := by
  have power := (Policy.alignments_of_validate accepted).1
  rcases placing_cases accepted sound size with ⟨room, granted⟩ | ⟨-, refused⟩
  · have stop := (alignUp_le_iff power (dvd_spaceSize power)).mpr room
    have raised := @le_alignUp (allocator.next + max size 1) _ (pos_of_isPowerOfTwo power)
    rw [granted]
    refine ⟨⟨sound.alignment, dvd_alignUp power _, stop⟩, ?_⟩
    dsimp only
    omega
  · rw [refused]
    exact ⟨sound, Nat.le_refl _⟩

/-- Words answer a request as numbers do. -/
theorem placeWord?_eq_placing
    {next size alignment : UInt64}
    (accepted : policy.validate = .ok ())
    (sound : allocator.Sound policy)
    (start : next.toNat = allocator.next)
    (same : alignment = policy.alignment.toUInt64)
    (fits : next.toNat + max size.toNat 1 + alignment.toNat < UInt64.size) :
    placeWord? next size alignment = (allocator.placing size.toNat).base?.map fun base =>
      (base, UInt64.ofNat (allocator.placing size.toNat).after.next) := by
  subst same
  have positive := pos_of_isPowerOfTwo (Policy.alignments_of_validate accepted).1
  have equal : (⟨next.toNat, policy.alignment.toUInt64.toNat⟩ : Allocator) = allocator := by
    rw [start, UInt32.toNat_toUInt64, ← sound.alignment]
  rw [placeWord?_eq (by rwa [UInt32.toNat_toUInt64]) fits, equal]
  unfold Allocator.placing
  cases allocator.place? size.toNat <;> rfl

/-- A request of a sound allocator is answered exactly. -/
theorem exact_placing
    (accepted : policy.validate = .ok ())
    (sound : allocator.Sound policy)
    (size : Nat) :
    (allocator.placing size).Exact policy := by
  have power := (Policy.alignments_of_validate accepted).1
  have stop_iff := @alignUp_le_iff _ (allocator.next + max size 1) _ power (dvd_spaceSize power)
  have raised := @le_alignUp (allocator.next + max size 1) _ (pos_of_isPowerOfTwo power)
  have words : ∀ next word alignment : UInt64,
      next.toNat = (allocator.placing size).before.next →
      word.toNat = (allocator.placing size).size → alignment = policy.alignment.toUInt64 →
      next.toNat + max word.toNat 1 + alignment.toNat < UInt64.size →
      placeWord? next word alignment = (allocator.placing size).base?.map fun base =>
        (base, UInt64.ofNat (allocator.placing size).after.next) := by
    rw [before_placing, size_placing]
    rintro next word alignment start rfl same fits
    exact placeWord?_eq_placing accepted sound start same fits
  rcases placing_cases accepted sound size with ⟨room, granted⟩ | ⟨short, refused⟩
  · have stop := stop_iff.mpr room
    have base : (UInt32.ofNat allocator.next).toNat = allocator.next :=
      UInt32.toNat_ofNat_of_lt' (show allocator.next < spaceSize by omega)
    constructor
    · rw [granted]
      rintro _ ⟨⟩
      rw [base]
      exact ⟨sound.aligned, Nat.le_refl _, raised, stop⟩
    · rw [granted]
      exact iff_of_false nofun (Nat.not_lt.mpr stop)
    · rw [granted]
      exact iff_of_false nofun (Nat.not_lt.mpr room)
    · rw [granted]
      nofun
    · rw [before_placing]
      intro full
      omega
    · rw [granted]
      nofun
    · exact words
  · constructor
    · rw [refused]
      nofun
    · rw [refused]
      refine iff_of_true rfl ?_
      dsimp only
      omega
    · rw [refused]
      exact iff_of_true rfl short
    · rw [refused]
      exact fun _ => rfl
    · rw [refused]
      exact fun _ => rfl
    · rw [refused]
      intro _ smaller fits
      rcases placing_cases accepted sound smaller with ⟨-, granted⟩ | ⟨short, -⟩
      · exact ⟨_, congrArg Placing.base? granted⟩
      · exact absurd fits (Nat.not_le.mpr short)
    · exact words

/-- Whatever is asked for later begins behind the addresses that were used up before. -/
theorem Sound.le_base
    (accepted : policy.validate = .ok ())
    (sound : allocator.Sound policy)
    (sizes : List Nat) :
    ∀ placing ∈ allocator.placings sizes, placing.Exact policy ∧
      allocator.next ≤ placing.before.next := by
  induction sizes generalizing allocator with
  | nil => nofun
  | cons size rest inductionHypothesis =>
      obtain ⟨later, raised⟩ := sound.placing accepted size
      intro placing member
      rcases List.mem_cons.mp member with rfl | behind
      · rw [before_placing]
        exact ⟨exact_placing accepted sound size, Nat.le_refl _⟩
      · obtain ⟨answered, le⟩ := inductionHypothesis later placing behind
        exact ⟨answered, Nat.le_trans raised le⟩

theorem Sound.pairwise_below
    (accepted : policy.validate = .ok ())
    (sound : allocator.Sound policy)
    (sizes : List Nat) :
    (allocator.placings sizes).Pairwise Placing.Below := by
  induction sizes generalizing allocator with
  | nil => exact .nil
  | cons size rest inductionHypothesis =>
      obtain ⟨later, -⟩ := sound.placing accepted size
      refine .cons ?_ (inductionHypothesis later)
      intro placing member first second granted grantedLater
      obtain ⟨exactLater, le⟩ := later.le_base accepted rest placing member
      obtain ⟨-, -, stop, -⟩ := (exact_placing accepted sound size).granted first granted
      obtain ⟨-, start, -⟩ := exactLater.granted second grantedLater
      exact Nat.le_trans stop (Nat.le_trans le start)

/-- Whatever sizes are asked for, each request is answered exactly, and what is granted lies
behind all that was granted before. -/
theorem placings_exact
    (accepted : policy.validate = .ok ())
    (sizes : List Nat) :
    (∀ placing ∈ (ofPolicy policy).placings sizes, placing.Exact policy) ∧
      ((ofPolicy policy).placings sizes).Pairwise Placing.Below := by
  have sound := sound_ofPolicy accepted
  exact ⟨fun placing member => (sound.le_base accepted sizes placing member).1,
    sound.pairwise_below accepted sizes⟩

/-- A policy that leaves 192 bytes of the address space. -/
def cramped : Policy := ⟨0xFFFFFF40, 0x40, 0x40, true⟩

/-- A surface that is too large is refused, smaller ones still fill the space to its end, and then
nothing is granted any more. -/
theorem cramped_exact :
    cramped.validate = .ok () ∧
      ((ofPolicy cramped).placings [10, 0x81, 0x80, 0]).map Placing.base? =
        [some 0xFFFFFF40, none, some 0xFFFFFF80, none] ∧
      (∀ placing ∈ (ofPolicy cramped).placings [10, 0x81, 0x80, 0], placing.Exact cramped) ∧
      ((ofPolicy cramped).placings [10, 0x81, 0x80, 0]).Pairwise Placing.Below := by
  have accepted : cramped.validate = .ok () := Policy.validate_eq_ok_iff.mpr (by decide +kernel)
  exact ⟨accepted, by decide +kernel, placings_exact accepted _⟩

end Allocator
end Layout
end TileProgram
