import TileProgram.Activation
import TileProgram.Proofs.Container.Layout

/-!
# Lookup tables of records

Reading attaches the tables of the relocations one after another.  It succeeds
exactly when each of them is attachable, which the tables attached before do
not change; then every record has the table of the last relocation that names
it.
-/

/-!
## Bytes of lookup tables

A table is read back from its bytes bit by bit, not only numerically, and its
length is half the number of bytes it is read from.
-/

namespace TileProgram
namespace Binary
namespace Half

@[simp] theorem length_listToBytes (numbers : List Half) :
    (listToBytes numbers).length = 2 * numbers.length := by
  induction numbers with
  | nil => rfl
  | cons number numbers inductionHypothesis =>
      rw [listToBytes, List.flatMap_cons, List.length_append, List.length_cons]
      change (Bytes.ofNat 2 number.bits.toNat).length + (listToBytes numbers).length = _
      rw [Bytes.length_ofNat, inductionHypothesis]
      omega

@[simp] theorem length_listOfBytes (bytes : Bytes) :
    (listOfBytes bytes).length = bytes.length / 2 := by
  induction bytes using listOfBytes.induct with
  | case1 low high rest inductionHypothesis =>
      rw [listOfBytes, List.length_cons, inductionHypothesis]
      simp only [List.length_cons]
      omega
  | case2 bytes short =>
      rw [listOfBytes]
      · match bytes, short with
        | [], _ => rfl
        | [_], _ => simp
        | low :: high :: rest, short => exact absurd rfl (short low high rest)
      · exact short

/-- Numbers are read back with their bit patterns. -/
@[simp] theorem listOfBytes_listToBytes (numbers : List Half) :
    listOfBytes (listToBytes numbers) = numbers := by
  induction numbers with
  | nil => rfl
  | cons number numbers inductionHypothesis =>
      have bound : number.bits.toNat < Bytes.capacity 2 := number.bits.toNat_lt
      have bytes : listToBytes (number :: numbers) =
          UInt8.ofNat number.bits.toNat :: UInt8.ofNat (number.bits.toNat / 256) ::
            listToBytes numbers := rfl
      rw [bytes, listOfBytes, inductionHypothesis]
      have read := Bytes.toNat_ofNat_of_lt bound
      simp only [Bytes.ofNat_succ, Bytes.ofNat_zero] at read
      rw [read, UInt16.ofNat_toNat]

end Half
end Binary

namespace LookupTable

@[simp] theorem ofBytes_toBytes (table : LookupTable) : ofBytes table.toBytes = table := by
  rw [ofBytes, toBytes, Binary.Half.listOfBytes_listToBytes]

@[simp] theorem length_ofBytes (bytes : Bytes) : (ofBytes bytes).length = bytes.length / 2 :=
  Binary.Half.length_listOfBytes bytes

@[simp] theorem length_toBytes (table : LookupTable) :
    table.toBytes.length = 2 * table.length :=
  Binary.Half.length_listToBytes table.samples

end LookupTable
end TileProgram

/-!
## Tables that relocations attach

A table whose length a record announces is attached without any change to the
bits, so the relocations of a record only decide which table it has.
-/

namespace TileProgram

open Register

namespace Descriptor

/-- A record that announces the length of a table takes it without any change to
its bits. -/
theorem attach_of_get
    {descriptor : Descriptor}
    {table : LookupTable}
    (announced : descriptor.get Registers.lookupLength = .ok table.length) :
    descriptor.attach table = .ok { descriptor with lookup := some table } := by
  obtain ⟨field, found, value⟩ := Outcome.map_eq_ok.mp announced
  rw [attach, assign, Assignment.unsigned, found, Except.bind, put, ← value,
    Field.pack_unsigned]
  rfl

end Descriptor

namespace Container

/-- Whether a relocation is the lookup table of the record with a given index. -/
def Relocation.isTableOf (relocation : Relocation) (record : Nat) : Bool :=
  relocation.kind == .lookupTable && relocation.record.toNat == record

/-- The lookup table that a relocation locates in the data. -/
def Relocation.table (data : Bytes) (relocation : Relocation) : LookupTable :=
  LookupTable.ofBytes (data.slice relocation.offset.toNat relocation.size.toNat)

/-- The lookup table that relocations give to a record: that of the last one
that names it. -/
def tableOf? (data : Bytes) (relocations : List Relocation) (record : Nat) : Option LookupTable :=
  ((relocations.filter fun relocation => relocation.isTableOf record).getLast?).map
    (Relocation.table data)

/-- A relocation names a record, lies inside the data, and has as many entries
as the record announces. -/
def Attachable (data : Bytes) (entries : List Entry) (relocation : Relocation) : Prop :=
  ∃ entry, entries[relocation.record.toNat]? = some entry ∧
    relocation.offset.toNat + relocation.size.toNat ≤ data.length ∧
    entry.descriptor.get Registers.lookupLength = .ok (relocation.size.toNat / 2)

/-- A record with a lookup table, if there is one, in place of its own. -/
def Entry.withTable (entry : Entry) (table : Option LookupTable) : Entry :=
  { entry with
    descriptor := { entry.descriptor with lookup := table.or entry.descriptor.lookup } }

/-- Records with the tables that relocations give to them. -/
def withTables (data : Bytes) (relocations : List Relocation) (entries : List Entry) :
    List Entry :=
  entries.mapIdx fun index entry => entry.withTable (tableOf? data relocations index)

@[simp] theorem Entry.withTable_withTable
    (entry : Entry)
    (first second : Option LookupTable) :
    (entry.withTable first).withTable second = entry.withTable (second.or first) := by
  simp [Entry.withTable, Option.or_assoc]

/-- Later relocations prevail over earlier ones. -/
theorem tableOf?_append
    (data : Bytes)
    (first second : List Relocation)
    (record : Nat) :
    tableOf? data (first ++ second) record =
      (tableOf? data second record).or (tableOf? data first record) := by
  unfold tableOf?
  rw [List.filter_append, List.getLast?_append, Option.map_or]

/-- A later relocation prevails over an earlier one. -/
theorem tableOf?_cons
    (data : Bytes)
    (relocation : Relocation)
    (rest : List Relocation)
    (record : Nat) :
    tableOf? data (relocation :: rest) record =
      (tableOf? data rest record).or (tableOf? data [relocation] record) :=
  tableOf?_append data [relocation] rest record

/-- A record that no lookup table names has none. -/
theorem tableOf?_eq_none
    {relocations : List Relocation}
    {record : Nat}
    (unnamed : ∀ relocation ∈ relocations, relocation.isTableOf record = false)
    (data : Bytes) :
    tableOf? data relocations record = none := by
  unfold tableOf?
  rw [List.filter_eq_nil_iff.mpr (by simpa using unnamed)]
  rfl

/-- Tables that lie inside the data are not changed by what is appended to it. -/
theorem tableOf?_of_prefix
    {data more : Bytes}
    {relocations : List Relocation}
    {record : Nat}
    (inside : ∀ relocation ∈ relocations, relocation.kind = .lookupTable →
      relocation.offset.toNat + relocation.size.toNat ≤ data.length)
    (grows : data <+: more) :
    tableOf? more relocations record = tableOf? data relocations record := by
  obtain ⟨rest, rfl⟩ := grows
  unfold tableOf?
  cases last : (relocations.filter fun relocation => relocation.isTableOf record).getLast? with
  | none => rfl
  | some relocation =>
      obtain ⟨present, names⟩ := List.mem_filter.mp (List.mem_of_getLast? last)
      have kind : relocation.kind = .lookupTable := by
        simp only [Relocation.isTableOf, Bool.and_eq_true, beq_iff_eq] at names
        exact names.1
      simp only [Option.map_some, Relocation.table,
        Bytes.slice_append_of_le (inside relocation present kind)]

theorem getElem?_withTables
    (data : Bytes)
    (relocations : List Relocation)
    (entries : List Entry)
    (index : Nat) :
    (withTables data relocations entries)[index]? =
      entries[index]?.map fun entry => entry.withTable (tableOf? data relocations index) :=
  List.getElem?_mapIdx

/-- Giving the tables of one relocation and then those of the rest gives those of all. -/
theorem withTables_cons
    (data : Bytes)
    (relocation : Relocation)
    (rest : List Relocation)
    (entries : List Entry) :
    withTables data rest (withTables data [relocation] entries) =
      withTables data (relocation :: rest) entries := by
  apply List.ext_getElem?
  intro index
  rw [getElem?_withTables, getElem?_withTables, getElem?_withTables, Option.map_map,
    tableOf?_cons data relocation rest]
  congr 1
  funext entry
  exact Entry.withTable_withTable _ _ _

/-- Tables that records have got do not matter to whether another one is attachable. -/
theorem attachable_withTables
    {data : Bytes}
    {given : List Relocation}
    {entries : List Entry}
    {relocation : Relocation} :
    Attachable data (withTables data given entries) relocation ↔
      Attachable data entries relocation := by
  unfold Attachable
  rw [getElem?_withTables]
  cases entries[relocation.record.toNat]? with
  | none => simp
  | some entry => simp [Entry.withTable, Descriptor.get]

/-- A relocation that is no lookup table gives none. -/
theorem withTables_of_kind_ne
    {relocation : Relocation}
    (kind : relocation.kind ≠ .lookupTable)
    (data : Bytes)
    (entries : List Entry) :
    withTables data [relocation] entries = entries := by
  have names : ∀ record, relocation.isTableOf record = false := by
    intro record
    simp [Relocation.isTableOf, kind]
  apply List.ext_getElem?
  intro index
  rw [getElem?_withTables, tableOf?, List.filter_cons, names, if_neg (by decide),
    List.filter_nil]
  cases entries[index]? with
  | none => rfl
  | some entry => rfl

/-- A relocation that is a lookup table gives it to the record it names alone. -/
theorem withTables_of_kind
    {relocation : Relocation}
    {entries : List Entry}
    {entry : Entry}
    (kind : relocation.kind = .lookupTable)
    (present : entries[relocation.record.toNat]? = some entry)
    (data : Bytes) :
    withTables data [relocation] entries =
      entries.set relocation.record.toNat (entry.withTable (some (relocation.table data))) := by
  have names : ∀ record,
      relocation.isTableOf record = decide (relocation.record.toNat = record) := by
    intro record
    rw [Relocation.isTableOf, kind, beq_self_eq_true, Bool.true_and, beq_eq_decide]
  have inside := (List.getElem?_eq_some_iff.mp present).1
  apply List.ext_getElem?
  intro index
  rw [getElem?_withTables, tableOf?, List.filter_cons, names, List.getElem?_set]
  by_cases here : relocation.record.toNat = index
  · subst here
    rw [if_pos (by simp), if_pos rfl, if_pos inside, present]
    rfl
  · rw [if_neg (by simpa using here), if_neg here]
    cases entries[index]? with
    | none => rfl
    | some entry => rfl

/-- One relocation is attached exactly when it is attachable or no lookup table. -/
theorem attachTable_eq_ok_iff
    {data : Bytes}
    {entries changed : List Entry}
    {index : Nat}
    {relocation : Relocation} :
    attachTable data entries index relocation = .ok changed ↔
      (relocation.kind = .lookupTable → Attachable data entries relocation) ∧
        withTables data [relocation] entries = changed := by
  unfold attachTable
  by_cases kind : relocation.kind = .lookupTable
  · rw [if_neg (by simp [kind])]
    dsimp only
    unfold Attachable
    cases present : entries[relocation.record.toNat]? with
    | none => simp [kind]
    | some entry =>
        simp only [Outcome.seq_eq_ok, Outcome.guard_eq_ok, Outcome.pure_eq_ok,
          Outcome.mapError_eq_ok, Outcome.exists_unit, checkRange_eq_ok_iff, bne_iff_ne, ne_eq,
          Decidable.not_not, withTables_of_kind kind present, kind, forall_const,
          Option.some.injEq, exists_eq_left', LookupTable.length_ofBytes]
        constructor
        · rintro ⟨inside, declared, announced, rfl, descriptor, attached, rfl⟩
          rw [Bytes.length_slice inside] at announced
          refine ⟨⟨inside, announced⟩, ?_⟩
          rw [Descriptor.attach_of_get] at attached
          · cases attached
            rfl
          · rw [LookupTable.length_ofBytes, Bytes.length_slice inside, announced]
        · rintro ⟨⟨inside, announced⟩, rfl⟩
          refine ⟨inside, _, announced, by rw [Bytes.length_slice inside], _, ?_, rfl⟩
          apply Descriptor.attach_of_get
          rw [LookupTable.length_ofBytes, Bytes.length_slice inside, announced]
  · rw [if_pos (by simp [kind]), withTables_of_kind_ne kind]
    simp [kind]

/-- Relocations are attached exactly when each lookup table among them is attachable. -/
theorem attachTables_eq_ok_iff
    {data : Bytes}
    {entries changed : List Entry}
    {index : Nat}
    {relocations : List Relocation} :
    attachTables data entries index relocations = .ok changed ↔
      (∀ relocation ∈ relocations, relocation.kind = .lookupTable →
        Attachable data entries relocation) ∧
      withTables data relocations entries = changed := by
  induction relocations generalizing entries index with
  | nil =>
      have unchanged : withTables data [] entries = entries := by
        apply List.ext_getElem?
        intro index
        rw [getElem?_withTables]
        cases entries[index]? with
        | none => rfl
        | some entry => rfl
      rw [attachTables, unchanged]
      simp
  | cons relocation rest inductionHypothesis =>
      rw [attachTables, Outcome.seq_eq_ok]
      simp only [attachTable_eq_ok_iff, inductionHypothesis, List.forall_mem_cons]
      constructor
      · rintro ⟨middle, ⟨here, rfl⟩, others, rfl⟩
        simp only [attachable_withTables] at others
        exact ⟨⟨here, others⟩, (withTables_cons _ _ _ _).symm⟩
      · rintro ⟨⟨here, others⟩, rfl⟩
        refine ⟨_, ⟨here, rfl⟩, ?_, withTables_cons _ _ _ _⟩
        simpa only [attachable_withTables] using others

end Container
end TileProgram
