import Mathlib.Data.List.Chain
import Mathlib.Data.List.Nodup
import TileProgram.Proofs.Assembly.Chaining
import TileProgram.Proofs.Container.Differences

/-!
# What a comparison lists

The comparison of two programs goes through the positions of their records, and
at each position through the registers of the table.  So it lists every register
that differs, and none twice, in that order.  Against a missing record it lists
the registers that are not zero: of two linked programs the longer one has a
link where the shorter one ends, so programs of different lengths always differ.
-/

namespace TileProgram

open Register

/-!
## One position

What comparing one register says depends on which of the two records are there.
-/

namespace Difference

/-- What is listed for a register that differs: both values, or one that is not
zero where the other record is missing. -/
inductive Tells (field : Field) :
    Option Descriptor → Option Descriptor → Option Nat → Option Nat → Prop where
  | both {first second : Descriptor}
      (different : field.unsigned first.bits ≠ field.unsigned second.bits) :
      Tells field (some first) (some second)
        (some (field.unsigned first.bits)) (some (field.unsigned second.bits))
  | onlyLeft {first : Descriptor} (nonzero : field.unsigned first.bits ≠ 0) :
      Tells field (some first) none (some (field.unsigned first.bits)) none
  | onlyRight {second : Descriptor} (nonzero : field.unsigned second.bits ≠ 0) :
      Tells field none (some second) none (some (field.unsigned second.bits))

variable {record : Nat} {left right : Option Descriptor} {fields : List Field}

/-- What a register holds on a side, if there is a record. -/
def valueOn (field : Field) (side : Option Descriptor) : Option Nat :=
  side.map fun descriptor => field.unsigned descriptor.bits

theorem tells_iff {field : Field} {leftValue rightValue : Option Nat} :
    Tells field left right leftValue rightValue ↔
      leftValue = valueOn field left ∧ rightValue = valueOn field right ∧
      differs leftValue rightValue = true := by
  constructor
  · rintro (different | nonzero | nonzero)
    · exact ⟨rfl, rfl, bne_iff_ne.mpr different⟩
    · exact ⟨rfl, rfl, bne_iff_ne.mpr nonzero⟩
    · exact ⟨rfl, rfl, bne_iff_ne.mpr nonzero⟩
  · rintro ⟨rfl, rfl, different⟩
    cases left with
    | some first =>
        cases right with
        | some second => exact .both (bne_iff_ne.mp different)
        | none => exact .onlyLeft (bne_iff_ne.mp different)
    | none =>
        cases right with
        | some second => exact .onlyRight (bne_iff_ne.mp different)
        | none => cases different

/-- What is listed for a register. -/
def ofField? (record : Nat) (left right : Option Descriptor) (field : Field) : Option Difference :=
  if !field.isAlias && differs (valueOn field left) (valueOn field right) then
    some ⟨record, field, valueOn field left, valueOn field right⟩
  else none

theorem ofFields_eq :
    ofFields record left right fields = fields.filterMap (ofField? record left right) := rfl

theorem ofField?_eq_some_iff {field : Field} {difference : Difference} :
    ofField? record left right field = some difference ↔
      difference.record = record ∧ difference.field = field ∧ field.isAlias = false ∧
      Tells field left right difference.left difference.right := by
  rw [ofField?, Option.ite_none_right_eq_some, Option.some.injEq, tells_iff, Bool.and_eq_true,
    Bool.not_eq_true']
  constructor
  · rintro ⟨⟨plain, different⟩, rfl⟩
    exact ⟨rfl, rfl, plain, rfl, rfl, different⟩
  · obtain ⟨position, register, leftValue, rightValue⟩ := difference
    dsimp only
    rintro ⟨rfl, rfl, plain, rfl, rfl, different⟩
    exact ⟨⟨plain, different⟩, rfl⟩

/-- The differences at a position are those of the registers that are no aliases. -/
theorem mem_ofFields_iff {difference : Difference} :
    difference ∈ ofFields record left right fields ↔
      difference.record = record ∧ difference.field ∈ fields ∧
      difference.field.isAlias = false ∧
      Tells difference.field left right difference.left difference.right := by
  simp only [ofFields_eq, List.mem_filterMap, ofField?_eq_some_iff]
  constructor
  · rintro ⟨field, present, position, rfl, plain, tells⟩
    exact ⟨position, present, plain, tells⟩
  · rintro ⟨position, present, plain, tells⟩
    exact ⟨difference.field, present, position, rfl, plain, tells⟩

theorem differs_comm (first second : Option Nat) : differs first second = differs second first := by
  cases first with
  | none => cases second <;> rfl
  | some value =>
      cases second with
      | none => rfl
      | some other => exact bne_comm

/-- From the other side the same registers differ. -/
theorem ofFields_swap (record : Nat) (left right : Option Descriptor) (fields : List Field) :
    ofFields record right left fields = (ofFields record left right fields).map swap := by
  rw [ofFields_eq, ofFields_eq, List.map_filterMap]
  congr 1
  funext field
  rw [ofField?, ofField?, differs_comm]
  split <;> rfl

/-- One difference is listed before another one. -/
def Before (first second : Difference) : Prop :=
  first.record < second.record ∨
    first.record = second.record ∧
      Table.standard.fields.idxOf first.field < Table.standard.fields.idxOf second.field

/-- The registers of the built-in table begin one after another. -/
theorem standard_increasing :
    Table.standard.fields.IsChain fun first second => first.bitStart < second.bitStart := by
  decide +kernel

/-- The built-in table lists no register twice. -/
theorem standard_nodup : Table.standard.fields.Nodup := by
  have transitive : Trans (fun first second : Field => first.bitStart < second.bitStart)
      (fun first second : Field => first.bitStart < second.bitStart)
      (fun first second : Field => first.bitStart < second.bitStart) :=
    ⟨fun before after => Nat.lt_trans before after⟩
  refine (List.isChain_iff_pairwise.mp standard_increasing).imp ?_
  rintro first second before rfl
  exact Nat.lt_irrefl _ before

/-- The differences at a position are in the order of the table. -/
theorem pairwise_ofFields :
    (ofFields record left right Table.standard.fields).Pairwise Before := by
  rw [ofFields_eq, List.pairwise_filterMap, List.pairwise_iff_getElem]
  intro index later inside laterInside increasing first firstListed second secondListed
  obtain ⟨position, field, -⟩ := ofField?_eq_some_iff.mp firstListed
  obtain ⟨laterPosition, laterField, -⟩ := ofField?_eq_some_iff.mp secondListed
  refine .inr ⟨position.trans laterPosition.symm, ?_⟩
  rwa [field, laterField, standard_nodup.idxOf_getElem, standard_nodup.idxOf_getElem]

/-- Records of the built-in table are compared in its registers, whichever is missing. -/
theorem ofRecords_eq
    (leftBuiltIn : ∀ descriptor, left = some descriptor → descriptor.table = .standard)
    (rightBuiltIn : ∀ descriptor, right = some descriptor → descriptor.table = .standard) :
    ofRecords record left right = ofFields record left right Table.standard.fields := by
  cases left with
  | some first =>
      rw [ofRecords, Option.some_or]
      dsimp only
      rw [leftBuiltIn first rfl]
  | none =>
      cases right with
      | some second =>
          rw [ofRecords, Option.none_or]
          dsimp only
          rw [rightBuiltIn second rfl]
      | none =>
          rw [ofRecords, Option.none_or]
          refine (List.eq_nil_iff_forall_not_mem.mpr fun difference present => ?_).symm
          cases (mem_ofFields_iff.mp present).2.2.2

/-!
## All positions

The positions are those of the longer list.
-/

/-- The comparison of two lists, position by position. -/
theorem ofLists_eq (record : Nat) (lefts rights : List Descriptor) :
    ofLists record lefts rights =
      (List.range (max lefts.length rights.length)).flatMap fun index =>
        ofRecords (record + index) lefts[index]? rights[index]? := by
  -- The recursion takes one record from each side that still has one.
  induction record, lefts, rights using ofLists.induct with
  | case1 record => simp [ofLists]
  | case2 record left lefts inductionHypothesis =>
      rw [ofLists, inductionHypothesis, List.length_cons, List.length_nil, Nat.max_zero,
        Nat.max_zero, List.range_succ_eq_map, List.flatMap_cons, List.flatMap_map]
      simp [Nat.add_assoc, Nat.add_comm 1]
  | case3 record right rights inductionHypothesis =>
      rw [ofLists, inductionHypothesis, List.length_cons, List.length_nil, Nat.zero_max,
        Nat.zero_max, List.range_succ_eq_map, List.flatMap_cons, List.flatMap_map]
      simp [Nat.add_assoc, Nat.add_comm 1]
  | case4 record left lefts right rights inductionHypothesis =>
      rw [ofLists, inductionHypothesis, List.length_cons, List.length_cons, Nat.add_max_add_right,
        List.range_succ_eq_map, List.flatMap_cons, List.flatMap_map]
      simp [Nat.add_assoc, Nat.add_comm 1]

end Difference

/-!
## Two programs
-/

namespace Container

open Difference

/-- A program that was read, or made of records of the built-in table. -/
inductive Produced (container : Container) : Prop where
  | read {bytes : Bytes} (gives : Container.read bytes = .ok container)
  | chained {records : List Descriptor} {relocations : List Relocation} {data : Bytes}
      (builtIn : ∀ record ∈ records, record.table = .standard)
      (made : ofRecords records relocations data = .ok container)

/-- The records of a program are linked and of the built-in table. -/
theorem Produced.linked
    {container : Container}
    (produced : container.Produced) :
    Linked container.entries ∧
      ∀ entry ∈ container.entries, entry.descriptor.table = .standard := by
  cases produced with
  | read gives =>
      obtain ⟨formed, stored⟩ := wellFormed_of_read gives
      exact ⟨formed.records, fun entry present => builtIn_of_mem_stored (stored.symm ▸ present)⟩
  | chained builtIn made =>
      obtain ⟨nonempty, -, -, placed, -⟩ := ofRecords_eq_ok made
      refine ⟨linked_of_placed nonempty builtIn placed, ?_⟩
      intro entry present
      rw [(placeFrom_eq_ok placed).1] at present
      obtain ⟨index, inside, rfl⟩ := List.mem_mapIdx.mp present
      exact builtIn _ (List.getElem_mem inside)

/-- The record of a program at a position. -/
def recordAt? (container : Container) (position : Nat) : Option Descriptor :=
  container.entries[position]?.map Entry.descriptor

section Pair

variable {left right : Container}

/-- The comparison of two programs of the built-in table, position by position. -/
theorem ofContainers_eq
    (leftBuiltIn : ∀ entry ∈ left.entries, entry.descriptor.table = .standard)
    (rightBuiltIn : ∀ entry ∈ right.entries, entry.descriptor.table = .standard) :
    ofContainers left right =
      (List.range (max left.entries.length right.entries.length)).flatMap fun position =>
        ofFields position (left.recordAt? position) (right.recordAt? position)
          Table.standard.fields := by
  have builtIn : ∀ {container : Container},
      (∀ entry ∈ container.entries, entry.descriptor.table = .standard) →
      ∀ (position : Nat) (descriptor : Descriptor),
        container.recordAt? position = some descriptor → descriptor.table = .standard := by
    intro container every position descriptor present
    obtain ⟨entry, entryPresent, rfl⟩ := Option.map_eq_some_iff.mp present
    exact every entry (List.mem_of_getElem? entryPresent)
  rw [ofContainers, ofLists_eq, descriptors, descriptors, List.length_map, List.length_map]
  congr 1
  funext position
  rw [List.getElem?_map, List.getElem?_map, Nat.zero_add]
  exact ofRecords_eq (builtIn leftBuiltIn position) (builtIn rightBuiltIn position)

/-- A difference is listed when its register differs at its position. -/
theorem mem_ofContainers_iff
    (leftBuiltIn : ∀ entry ∈ left.entries, entry.descriptor.table = .standard)
    (rightBuiltIn : ∀ entry ∈ right.entries, entry.descriptor.table = .standard)
    {difference : Difference} :
    difference ∈ ofContainers left right ↔
      difference.field ∈ Table.standard.fields ∧ difference.field.isAlias = false ∧
      Tells difference.field (left.recordAt? difference.record)
        (right.recordAt? difference.record) difference.left difference.right := by
  rw [ofContainers_eq leftBuiltIn rightBuiltIn, List.mem_flatMap]
  constructor
  · rintro ⟨position, -, listed⟩
    obtain ⟨rfl, facts⟩ := mem_ofFields_iff.mp listed
    exact facts
  · intro facts
    refine ⟨difference.record, List.mem_range.mpr ?_, mem_ofFields_iff.mpr ⟨rfl, facts⟩⟩
    -- Past both ends there is nothing to tell.
    by_contra past
    have leftMissing : left.recordAt? difference.record = none := by
      rw [recordAt?, List.getElem?_eq_none (by omega), Option.map_none]
    have rightMissing : right.recordAt? difference.record = none := by
      rw [recordAt?, List.getElem?_eq_none (by omega), Option.map_none]
    have tells := facts.2.2
    rw [leftMissing, rightMissing] at tells
    cases tells

/-- Differences are listed by position and then in the order of the table. -/
theorem pairwise_ofContainers
    (leftBuiltIn : ∀ entry ∈ left.entries, entry.descriptor.table = .standard)
    (rightBuiltIn : ∀ entry ∈ right.entries, entry.descriptor.table = .standard) :
    (ofContainers left right).Pairwise Before := by
  rw [ofContainers_eq leftBuiltIn rightBuiltIn, List.pairwise_flatMap]
  refine ⟨fun _ _ => pairwise_ofFields, List.pairwise_lt_range.imp ?_⟩
  intro position later increasing first firstListed second secondListed
  left
  rwa [(mem_ofFields_iff.mp firstListed).1, (mem_ofFields_iff.mp secondListed).1]

/-- What is listed in order is listed once. -/
theorem nodup_of_pairwise
    {differences : List Difference}
    (ordered : differences.Pairwise Before) :
    (differences.map fun difference => (difference.record, difference.field)).Nodup := by
  rw [List.nodup_iff_pairwise_ne, List.pairwise_map]
  refine ordered.imp ?_
  intro first second before same
  obtain ⟨records, fields⟩ := Prod.mk.inj same
  rcases before with earlier | ⟨-, earlier⟩
  · omega
  · rw [fields] at earlier
    omega

/-- From the other side the same differences are listed. -/
theorem ofContainers_swap
    (leftBuiltIn : ∀ entry ∈ left.entries, entry.descriptor.table = .standard)
    (rightBuiltIn : ∀ entry ∈ right.entries, entry.descriptor.table = .standard) :
    ofContainers right left = (ofContainers left right).map swap := by
  rw [ofContainers_eq rightBuiltIn leftBuiltIn, ofContainers_eq leftBuiltIn rightBuiltIn,
    List.map_flatMap, Nat.max_comm]
  congr 1
  funext position
  exact ofFields_swap position _ _ _

end Pair

/-- The comparison of two programs lists, by position and then in the order of the
table and each once, the registers beside aliases that differ, or that are not
zero where the other program has no record.  From the other side the same list is
seen swapped.  It is empty exactly when the programs have as many records and
these agree in their registers, so never for different numbers of records. -/
theorem ofContainers_exact
    {left right : Container}
    (leftProduced : left.Produced)
    (rightProduced : right.Produced) :
    (∀ difference, difference ∈ ofContainers left right ↔
      difference.field ∈ Table.standard.fields ∧ difference.field.isAlias = false ∧
      Tells difference.field (left.recordAt? difference.record)
        (right.recordAt? difference.record) difference.left difference.right) ∧
    (ofContainers left right).Pairwise Before ∧
    ((ofContainers left right).map fun difference =>
      (difference.record, difference.field)).Nodup ∧
    ofContainers right left = (ofContainers left right).map swap ∧
    (ofContainers left right = [] ↔ left.SameRegisters right) ∧
    (left.entries.length ≠ right.entries.length → ofContainers left right ≠ []) := by
  obtain ⟨leftLinked, leftBuiltIn⟩ := leftProduced.linked
  obtain ⟨rightLinked, rightBuiltIn⟩ := rightProduced.linked
  have ordered := pairwise_ofContainers leftBuiltIn rightBuiltIn
  have empty := ofContainers_eq_nil_iff leftLinked rightLinked leftBuiltIn rightBuiltIn
  refine ⟨fun _ => mem_ofContainers_iff leftBuiltIn rightBuiltIn, ordered,
    nodup_of_pairwise ordered, ofContainers_swap leftBuiltIn rightBuiltIn, empty, ?_⟩
  intro lengths none
  exact lengths (empty.mp none).1

/-- A program of one record of zeros. -/
def blank : Container :=
  ⟨formatVersion, 0, [], [⟨0x4000, ⟨.standard, 0, none⟩, none⟩], []⟩

/-- A program of two records that was read differs from one of a single record that
was made. -/
theorem curve_blank_exact :
    Container.read curve.write = .ok curve.stored ∧
      ofRecords [⟨.standard, 0, none⟩] [] [] = .ok blank ∧
      ofContainers curve.stored blank ≠ [] ∧
      ofContainers blank curve.stored = (ofContainers curve.stored blank).map swap := by
  have gives := read_write_eq curve_wellFormed
  have made : ofRecords [⟨.standard, 0, none⟩] [] [] = .ok blank := by decide +kernel
  have builtIn : ∀ record ∈ [(⟨.standard, 0, none⟩ : Descriptor)], record.table = .standard := by
    simp
  obtain ⟨-, -, -, swapped, -, lengths⟩ :=
    ofContainers_exact (.read gives) (.chained builtIn made)
  exact ⟨gives, made, lengths (by simp [stored, blank, withTables, bare, curve]), swapped⟩

end Container
end TileProgram
