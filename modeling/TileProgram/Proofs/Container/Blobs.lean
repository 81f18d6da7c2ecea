import TileProgram.Proofs.Container.RoundTrip

/-!
# Blobs of a container

Reading looks at the blobs of lookup tables only.  A container is read whatever
its other relocations say, and it is read exactly when each lookup table can be
attached: it names a record, lies inside the data, and has as many entries as
the record announces.  One that names a record and lies outside, behind others
that can be attached, is reported as missing.  The blob of a weight may lie
anywhere and belong to a record that does not exist.
-/

namespace TileProgram
namespace Container

open Outcome

variable {data : Bytes} {entries : List Entry} {relocations : List Relocation}

/-- A lookup table that names a record and lies outside the data is missed. -/
theorem attachTable_eq_truncated
    {relocation : Relocation}
    (kind : relocation.kind = .lookupTable)
    (named : relocation.record.toNat < entries.length)
    (outside : data.length < relocation.offset.toNat + relocation.size.toNat)
    (index : Nat) :
    attachTable data entries index relocation =
      .error (.truncated .lookupTable relocation.offset.toNat relocation.size.toNat
        data.length) := by
  rw [attachTable, if_neg (by simp [kind])]
  dsimp only
  rw [List.getElem?_eq_getElem named]
  dsimp only
  rw [checkRange, if_neg (Nat.not_le_of_gt outside)]
  rfl

/-- The first lookup table that cannot be attached is missed if it names a record and lies outside
the data.  The tables before it change no record in a way that matters to it. -/
theorem attachTables_eq_truncated
    {index : Nat}
    {relocation : Relocation}
    (present : relocations[index]? = some relocation)
    (kind : relocation.kind = .lookupTable)
    (named : relocation.record.toNat < entries.length)
    (outside : data.length < relocation.offset.toNat + relocation.size.toNat)
    (earlier : ∀ other ∈ relocations.take index, other.kind = .lookupTable →
      Attachable data entries other)
    (start : Nat) :
    attachTables data entries start relocations =
      .error (.truncated .lookupTable relocation.offset.toNat relocation.size.toNat
        data.length) := by
  induction relocations generalizing entries index start with
  | nil => cases present
  | cons first rest inductionHypothesis =>
      rw [attachTables]
      cases index with
      | zero =>
          cases present
          rw [attachTable_eq_truncated kind named outside]
          rfl
      | succ index =>
          rw [List.take_succ_cons, List.forall_mem_cons] at earlier
          obtain ⟨here, earlier⟩ := earlier
          have attached : attachTable data entries start first =
              .ok (withTables data [first] entries) := attachTable_eq_ok_iff.mpr ⟨here, rfl⟩
          rw [attached, ok_bind]
          refine inductionHypothesis present ?_ ?_ (start + 1)
          · rwa [withTables, List.length_mapIdx]
          · intro other member tables
            exact attachable_withTables.mpr (earlier other member tables)

variable {bytes : Bytes} {container : Container}

/-- Other relocations, as many as fit, leave a container framed. -/
theorem Framed.withRelocations
    (framed : container.Framed)
    (few : relocations.length ≤ greatestRelocations)
    (names : ∀ relocation ∈ relocations, Relocation.nameFits relocation.name = true) :
    Framed { container with relocations := relocations } where
  version := framed.version
  few := few
  names := names
  records := framed.records
  addressable := framed.addressable

/-- A container has the record that a relocation names and all bytes of the blob that it
locates. -/
def Holds (container : Container) (relocation : Relocation) : Prop :=
  relocation.record.toNat < container.entries.length ∧
    relocation.offset.toNat + relocation.size.toNat ≤ container.data.length

instance (container : Container) (relocation : Relocation) :
    Decidable (container.Holds relocation) :=
  inferInstanceAs (Decidable (_ ∧ _))

/-- A container that is read holds its lookup tables.  With any other relocations in the place of
its own, it is read exactly when each lookup table among them can be attached, whatever the
relocations of other kinds say; and a lookup table that names a record, lies outside the
data, and is the first that cannot be attached is reported as missing. -/
theorem tables_inside_of_read (readEq : read bytes = .ok container) :
    (∀ relocation ∈ container.relocations, relocation.kind = .lookupTable →
      container.Holds relocation) ∧
    ∀ relocations : List Relocation, relocations.length ≤ greatestRelocations →
      (∀ relocation ∈ relocations, Relocation.nameFits relocation.name = true) →
      ((∃ result, read (write { container with relocations := relocations }) = .ok result) ↔
        ∀ relocation ∈ relocations, relocation.kind = .lookupTable →
          Attachable container.data container.bare.entries relocation) ∧
      ∀ index relocation, relocations[index]? = some relocation →
        relocation.kind = .lookupTable → relocation.record.toNat < container.entries.length →
        container.data.length < relocation.offset.toNat + relocation.size.toNat →
        (∀ other ∈ relocations.take index, other.kind = .lookupTable →
          Attachable container.data container.bare.entries other) →
        read (write { container with relocations := relocations }) =
          .error (.truncated .lookupTable relocation.offset.toNat relocation.size.toNat
            container.data.length) := by
  obtain ⟨wellFormed, -⟩ := wellFormed_of_read readEq
  constructor
  · intro relocation member tables
    obtain ⟨entry, present, inside, -⟩ := wellFormed.tables relocation member tables
    exact ⟨(List.getElem?_eq_some_iff.mp present).1, inside⟩
  · intro relocations few names
    have readChanged := read_write_eq_attached (wellFormed.framed.withRelocations few names)
    constructor
    · rw [readChanged]
      constructor
      · rintro ⟨result, attached⟩
        exact (attached_eq_ok_iff.mp attached).1
      · intro attachable
        exact ⟨_, attached_eq_ok_iff.mpr ⟨attachable, rfl⟩⟩
    · intro index relocation present tables named outside earlier
      have bareNamed : relocation.record.toNat < container.bare.entries.length := by
        rwa [bare, List.length_map]
      have stopped := attachTables_eq_truncated present tables bareNamed outside earlier 0
      rw [readChanged, attached]
      exact congrArg (Except.map _) stopped

/-- The program of two records is read with a weight that it does not hold in the place of its
relocations, and misses the last byte of a longer table. -/
theorem curve_tables_inside :
    read curve.write = .ok curve.stored ∧
      (∀ relocation ∈ curve.stored.relocations, relocation.kind = .lookupTable →
        curve.stored.Holds relocation) ∧
      (∃ result,
        read (write { curve.stored with relocations :=
          [⟨.weight, 9, 0xFFFFFFFFFFFFFFFF, 0xFFFFFFFFFFFFFFFF, "weights"⟩] }) = .ok result) ∧
      read (write { curve.stored with relocations := [⟨.lookupTable, 1, 2, 6, "curve"⟩] }) =
        .error (.truncated .lookupTable 2 6 7) := by
  have readEq := read_write_eq curve_wellFormed
  obtain ⟨held, others⟩ := tables_inside_of_read readEq
  refine ⟨readEq, held, ?_, ?_⟩
  · obtain ⟨readIff, -⟩ := others [⟨.weight, 9, 0xFFFFFFFFFFFFFFFF, 0xFFFFFFFFFFFFFFFF, "weights"⟩]
      (by decide) (by decide +kernel)
    refine readIff.mpr ?_
    intro relocation member kind
    cases List.mem_singleton.mp member
    cases kind
  · obtain ⟨-, missed⟩ := others [⟨.lookupTable, 1, 2, 6, "curve"⟩] (by decide) (by decide +kernel)
    exact missed 0 _ rfl rfl (by decide) (by decide) (by simp)

/-- A program of one record, with a weight of a record and in data that it does not have. -/
def adrift : Container :=
  { version := formatVersion
    flags := 0
    relocations := [⟨.weight, 5, 0x40, 0x20, "weights5"⟩]
    entries := [⟨arrayOffset, .empty, none⟩]
    data := [] }

/-- The program is framed. -/
theorem adrift_framed : adrift.Framed where
  version := rfl
  few := by decide
  names := by decide +kernel
  records :=
    { start := rfl
      slots := by
        intro offset present
        cases List.mem_singleton.mp present
        exact ⟨0, rfl⟩
      increasing := List.pairwise_singleton _ _
      linked := by
        intro index entry following present followingPresent
        cases followingPresent
      last := by
        rintro entry ⟨⟩
        exact ⟨rfl, by rw [Descriptor.next_stored rfl]; decide +kernel⟩ }
  addressable := by decide

/-- The program is read, though it does not hold its weight. -/
theorem weight_not_held :
    ∃ container relocation, read adrift.write = .ok container ∧
      relocation ∈ container.relocations ∧ relocation.kind = .weight ∧
      ¬ container.Holds relocation := by
  refine ⟨adrift.stored, _, ?_, List.mem_singleton_self _, rfl, by decide⟩
  rw [read_write_eq_attached adrift_framed]
  refine attached_eq_ok_iff.mpr ⟨?_, rfl⟩
  intro relocation member kind
  cases List.mem_singleton.mp member
  cases kind

end Container
end TileProgram
