import TileProgram.Proofs.Descriptor.Assignments

/-!
# Records whose addresses are moved

Two records agree up to the place in memory when some of their registers hold
addresses that differ by the same distance, and all other registers and the
bits between registers are the same.  Runs of assignments that agree in this way
make such records, and later assignments to other registers keep them so.
-/

namespace TileProgram

open Register

section Related

variable {α β γ δ : Type} {relation : α → β → Prop} {left : List α} {right : List β}

/-- Related lists are related at every position. -/
theorem rel_getElem? (related : List.Forall₂ relation left right) (index : Nat) :
    Option.Rel relation left[index]? right[index]? := by
  induction related generalizing index with
  | nil => exact .none
  | cons here related inductionHypothesis =>
      cases index with
      | zero => exact .some here
      | succ index => exact inductionHypothesis index

/-- What is found in one of two related lists is related to what is found in the other. -/
theorem rel_getD
    {index : Nat}
    (related : List.Forall₂ relation left right)
    (inside : index < left.length)
    (one : α)
    (other : β) :
    relation (left[index]?.getD one) (right[index]?.getD other) := by
  have here := rel_getElem? related index
  rw [List.getElem?_eq_getElem inside] at here ⊢
  generalize right[index]? = found at here ⊢
  cases here with
  | some both => exact both

/-- Numbering related lists keeps them related. -/
theorem rel_mapIdx
    {result : γ → δ → Prop}
    {first : Nat → α → γ}
    {second : Nat → β → δ}
    (related : List.Forall₂ relation left right)
    (keeps : ∀ index one other, relation one other →
      result (first index one) (second index other)) :
    List.Forall₂ result (left.mapIdx first) (right.mapIdx second) := by
  induction related generalizing first second with
  | nil => exact .nil
  | cons here related inductionHypothesis =>
      rw [List.mapIdx_cons, List.mapIdx_cons]
      exact .cons (keeps 0 _ _ here) (inductionHypothesis fun index => keeps (index + 1))

end Related

/-- An address and the moved address, or the same amount if it is no address. -/
inductive Amount.Moved (source target : Nat) (isAddress : Prop) : Amount → Amount → Prop
  | address {value other : Nat}
      (listed : isAddress)
      (distance : value + target = other + source) :
      Amount.Moved source target isAddress (.unsigned value) (.unsigned other)
  | same {amount : Amount}
      (unlisted : ¬ isAddress) :
      Amount.Moved source target isAddress amount amount

namespace Assignment

/-- Assignments to the same register that differ at most by a moved address. -/
structure Moved (source target : Nat) (addresses : List Name) (first second : Assignment) :
    Prop where
  name : second.name = first.name
  amount : Amount.Moved source target (first.name ∈ addresses) first.amount second.amount

variable {source target : Nat} {addresses : List Name} {assignments others : List Assignment}

/-- What is assigned last to a register is moved when all assignments are. -/
theorem last?_moved
    (moved : List.Forall₂ (Moved source target addresses) assignments others)
    (name : Name) :
    Option.Rel (Amount.Moved source target (name ∈ addresses))
      (last? name assignments) (last? name others) := by
  induction moved with
  | nil => exact .none
  | @cons first second rest others here moved inductionHypothesis =>
      rw [last?_cons, last?_cons, here.name]
      generalize last? name rest = later at inductionHypothesis
      generalize last? name others = otherLater at inductionHypothesis
      cases inductionHypothesis with
      | some both => exact .some both
      | none =>
          rw [Option.none_or, Option.none_or]
          by_cases same : first.name = name
          · rw [if_pos same, if_pos same]
            exact .some (same ▸ here.amount)
          · rw [if_neg same, if_neg same]
            exact .none

/-- Something is assigned last to a register that is assigned to. -/
theorem last?_ne_none
    {assignment : Assignment}
    (member : assignment ∈ assignments) :
    last? assignment.name assignments ≠ none := by
  induction assignments with
  | nil => cases member
  | cons first rest inductionHypothesis =>
      intro absent
      rw [last?_cons, Option.or_eq_none_iff] at absent
      rcases List.mem_cons.mp member with rfl | later
      · simp at absent
      · exact inductionHypothesis later absent.1

end Assignment

namespace Descriptor

open Assignment

/-- Records that differ at most by moved addresses. -/
structure Moved (source target : Nat) (addresses : List Name) (first second : Descriptor) :
    Prop where
  table : second.table = first.table
  lookup : second.lookup = first.lookup
  address : ∀ name ∈ addresses, ∃ value other, first.get name = .ok value ∧
    second.get name = .ok other ∧ value + target = other + source
  register : ∀ name, name ∉ addresses → second.get name = first.get name
  outside : ∀ index, (∀ (name : Name) (field : Field), first.table.lookup name = .ok field →
      ¬(field.bitStart ≤ index ∧ index < field.bitEnd)) →
    second.bits.getLsbD index = first.bits.getLsbD index

variable {descriptor other first second changed otherChanged : Descriptor}
  {source target : Nat} {addresses : List Name} {assignments others : List Assignment}

/-- A register reads the same after runs that assign the same to it last. -/
theorem get_assigned_congr
    {name : Name}
    (separate : descriptor.table.Separate)
    (table : other.table = descriptor.table)
    (assigned : descriptor.assigned assignments = .ok changed)
    (otherAssigned : other.assigned others = .ok otherChanged)
    (same : last? name others = last? name assignments)
    (before : other.get name = descriptor.get name) :
    otherChanged.get name = changed.get name := by
  cases last : last? name assignments with
  | none =>
      rw [get_assigned_of_none separate assigned last,
        get_assigned_of_none (table ▸ separate) otherAssigned (same.trans last), before]
  | some amount =>
      rw [get, get, (assigned_frame assigned).1, (assigned_frame otherAssigned).1, table]
      cases found : descriptor.table.lookup name with
      | error error => rfl
      | ok field =>
          have bits := slice_assigned separate found assigned
          have otherBits := slice_assigned (table ▸ separate) (table ▸ found) otherAssigned
          rw [last] at bits
          rw [same, last] at otherBits
          simp only [Except.map, Field.unsigned, bits, otherBits]

/-- Runs of assignments that differ by moved addresses make records that do. -/
theorem moved_of_assigned
    (separate : descriptor.table.Separate)
    (moved : List.Forall₂ (Assignment.Moved source target addresses) assignments others)
    (covered : ∀ name ∈ addresses, ∃ assignment ∈ assignments, assignment.name = name)
    (assigned : descriptor.assigned assignments = .ok changed)
    (otherAssigned : descriptor.assigned others = .ok otherChanged) :
    Moved source target addresses changed otherChanged := by
  obtain ⟨table, lookup⟩ := assigned_frame assigned
  obtain ⟨otherTable, otherLookup⟩ := assigned_frame otherAssigned
  refine ⟨otherTable.trans table.symm, otherLookup.trans lookup.symm, ?_, ?_, ?_⟩
  · intro name listed
    obtain ⟨assignment, member, rfl⟩ := covered name listed
    have related := last?_moved moved assignment.name
    have present := last?_ne_none member
    cases last : last? assignment.name assignments with
    | none => exact absurd last present
    | some amount =>
        rw [last] at related
        cases otherLast : last? assignment.name others with
        | none =>
            rw [otherLast] at related
            cases related
        | some otherAmount =>
            rw [otherLast] at related
            cases related with
            | some both =>
                cases both with
                | same unlisted => exact absurd listed unlisted
                | address _ distance =>
                    exact ⟨_, _, get_assigned_of_some separate assigned last,
                      get_assigned_of_some separate otherAssigned otherLast, distance⟩
  · intro name unlisted
    refine get_assigned_congr separate rfl assigned otherAssigned ?_ rfl
    have related := last?_moved moved name
    generalize last? name assignments = last at related
    generalize last? name others = otherLast at related
    cases related with
    | none => rfl
    | some both =>
        cases both with
        | same => rfl
        | address listed => exact absurd listed unlisted
  · intro index between
    rw [table] at between
    rw [getLsbD_assigned assigned between, getLsbD_assigned otherAssigned between]

/-- The same assignments to registers without an address keep records moved. -/
theorem Moved.assigned
    (moved : Moved source target addresses first second)
    (separate : first.table.Separate)
    (unlisted : ∀ assignment ∈ assignments, assignment.name ∉ addresses)
    (assigned : first.assigned assignments = .ok changed)
    (otherAssigned : second.assigned assignments = .ok otherChanged) :
    Moved source target addresses changed otherChanged := by
  obtain ⟨table, lookup⟩ := assigned_frame assigned
  obtain ⟨otherTable, otherLookup⟩ := assigned_frame otherAssigned
  refine ⟨?_, ?_, ?_, ?_, ?_⟩
  · rw [otherTable, moved.table, table]
  · rw [otherLookup, moved.lookup, lookup]
  · intro name listed
    have untouched : last? name assignments = none :=
      last?_eq_none fun assignment member same => unlisted assignment member (same ▸ listed)
    rw [get_assigned_of_none separate assigned untouched,
      get_assigned_of_none (moved.table ▸ separate) otherAssigned untouched]
    exact moved.address name listed
  · intro name unlisted
    exact get_assigned_congr separate moved.table assigned otherAssigned rfl
      (moved.register name unlisted)
  · intro index between
    rw [table] at between
    rw [getLsbD_assigned assigned between,
      getLsbD_assigned otherAssigned (moved.table ▸ between), moved.outside index between]

end Descriptor
end TileProgram
