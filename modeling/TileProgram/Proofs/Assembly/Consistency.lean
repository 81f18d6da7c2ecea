import TileProgram.Proofs.Assembly.Draft

/-!
# Lookup tables of drafts

In a draft the relocations locate exactly the lookup tables of its records.
Adding a stage keeps this, so it holds of every draft that is begun without
records; the records can then be stored and get their tables back.
-/

namespace TileProgram
namespace Assembly

open Network Stage Container

/-- The relocations of a draft locate the lookup tables of its records and no others. -/
structure Consistent (draft : Draft) : Prop where
  builtIn : ∀ record ∈ draft.records, record.table = .standard
  tables : ∀ relocation ∈ draft.relocations, relocation.kind = .lookupTable →
    ∃ record, draft.records[relocation.record.toNat]? = some record ∧
      relocation.offset.toNat + relocation.size.toNat ≤ draft.data.length ∧
      record.get Registers.lookupLength = .ok (relocation.size.toNat / 2)
  attached : ∀ (index : Nat) (record : Descriptor), draft.records[index]? = some record →
    record.lookup = tableOf? draft.data draft.relocations index
  addressable : draft.data.length < UInt64.size

@[simp] theorem ofBlob_record
    {index : Nat}
    (small : index < UInt32.size)
    (kind : RelocationKind)
    (name : String)
    (place : ChannelData) :
    (Relocation.ofBlob kind index name place).record.toNat = index :=
  UInt32.toNat_ofNat_of_lt' small

/-- A number of 32 bits is kept in 64 bits. -/
theorem toNat_widened (number : UInt32) : (UInt64.ofNat number.toNat).toNat = number.toNat :=
  UInt64.toNat_ofNat_of_lt' (Nat.lt_trans number.toNat_lt (by decide))

@[simp] theorem ofBlob_offset
    (kind : RelocationKind)
    (index : Nat)
    (name : String)
    (place : ChannelData) :
    (Relocation.ofBlob kind index name place).offset.toNat = place.offset.toNat :=
  toNat_widened place.offset

@[simp] theorem ofBlob_size
    (kind : RelocationKind)
    (index : Nat)
    (name : String)
    (place : ChannelData) :
    (Relocation.ofBlob kind index name place).size.toNat = place.length.toNat :=
  toNat_widened place.length

@[simp] theorem ofBlob_kind
    (kind : RelocationKind)
    (index : Nat)
    (name : String)
    (place : ChannelData) :
    (Relocation.ofBlob kind index name place).kind = kind := rfl

namespace Draft
namespace Added

variable {draft next : Draft} {nodes : List Node} {inputs : List Placed} {output : Placed}
  {hints : Residency.StageHints} {weights table : Option ChannelData} {record : Descriptor}

/-- The relocations that a stage adds give its lookup table to its record. -/
theorem tableOf?_new
    {index : Nat}
    (added : Added draft next index nodes inputs output hints weights table record)
    (small : index < UInt32.size) :
    tableOf? next.data (blobRelocation .weight "weights" index weights ++
        blobRelocation .lookupTable "lut" index table) index = record.lookup := by
  have plain : tableOf? next.data (blobRelocation .weight "weights" index weights) index =
      none := by
    apply tableOf?_eq_none
    intro relocation present
    obtain ⟨data, -, rfl⟩ := mem_blobRelocation.mp present
    rfl
  rw [tableOf?_append, plain, Option.or_none]
  rcases added.table_held with ⟨rfl, lookup⟩ | ⟨place, samples, rfl, lookup, holds⟩
  · rw [lookup]
    rfl
  · have names : (Relocation.ofBlob .lookupTable index ("lut" ++ toString index) place).isTableOf
        index = true := by
      simp [Relocation.isTableOf, small]
    rw [blobRelocation, Option.toList_some, List.map_singleton, Container.tableOf?,
      List.filter_singleton, names, cond_true, List.getLast?_singleton, Option.map_some,
      Relocation.table, ofBlob_offset, ofBlob_size, holds.bytes, LookupTable.ofBytes_toBytes,
      lookup]

/-- The relocations that a stage adds name no other record. -/
theorem tableOf?_other
    {index other : Nat}
    (small : index < UInt32.size)
    (different : other ≠ index)
    (data : Bytes) :
    tableOf? data (blobRelocation .weight "weights" index weights ++
        blobRelocation .lookupTable "lut" index table) other = none := by
  apply tableOf?_eq_none
  intro relocation present
  rcases List.mem_append.mp present with ofWeights | ofTable
  · obtain ⟨place, -, rfl⟩ := mem_blobRelocation.mp ofWeights
    rfl
  · obtain ⟨place, -, rfl⟩ := mem_blobRelocation.mp ofTable
    simp [Relocation.isTableOf, small, Ne.symm different]

/-- The relocations that a stage adds are attachable. -/
theorem tables_new
    (added : Added draft next draft.records.length nodes inputs output hints weights table record)
    (small : draft.records.length < UInt32.size) :
    ∀ relocation ∈ blobRelocation .weight "weights" draft.records.length weights ++
        blobRelocation .lookupTable "lut" draft.records.length table,
      relocation.kind = .lookupTable →
      ∃ record, next.records[relocation.record.toNat]? = some record ∧
        relocation.offset.toNat + relocation.size.toNat ≤ next.data.length ∧
        record.get Registers.lookupLength = .ok (relocation.size.toNat / 2) := by
  intro relocation present kind
  rcases List.mem_append.mp present with ofWeights | ofTable
  · obtain ⟨place, -, rfl⟩ := mem_blobRelocation.mp ofWeights
    cases kind
  · obtain ⟨place, tableEq, rfl⟩ := mem_blobRelocation.mp ofTable
    rcases added.table_held with ⟨rfl, -⟩ | ⟨other, samples, rfl, lookup, holds⟩
    · cases tableEq
    · cases tableEq
      obtain ⟨-, lookupEq, announced⟩ := lookup_of_encode added.encoded
      refine ⟨record, ?_, ?_, ?_⟩
      · rw [ofBlob_record small]
        exact added.record_present
      · rw [ofBlob_offset, ofBlob_size]
        exact holds.inside
      · rw [ofBlob_size, holds.length_eq, LookupTable.length_toBytes,
          Nat.mul_div_cancel_left _ (by decide)]
        exact announced samples (lookupEq.symm.trans lookup)

/-- Adding a stage keeps a draft consistent. -/
theorem consistent
    (added : Added draft next draft.records.length nodes inputs output hints weights table record)
    (small : draft.records.length < UInt32.size)
    (sound : Consistent draft) :
    Consistent next := by
  have extension := added.extension
  have longer : draft.data.length ≤ next.data.length := extension.data.length_le
  have kept : ∀ index, tableOf? next.data draft.relocations index =
      tableOf? draft.data draft.relocations index := by
    intro index
    refine tableOf?_of_prefix ?_ extension.data
    intro relocation present kind
    obtain ⟨-, -, inside, -⟩ := sound.tables relocation present kind
    exact inside
  refine ⟨?_, ?_, ?_, added.addressable sound.addressable⟩
  · rw [added.records]
    intro other present
    rcases List.mem_append.mp present with old | new
    · exact sound.builtIn other old
    · rw [List.mem_singleton.mp new]
      exact (lookup_of_encode added.encoded).1
  · rw [added.relocations]
    intro relocation present kind
    rcases List.mem_append.mp present with old | new
    · obtain ⟨other, otherPresent, inside, announced⟩ := sound.tables relocation old kind
      exact ⟨other, extension.record otherPresent, by omega, announced⟩
    · exact added.tables_new small relocation new kind
  · intro index other present
    rw [added.relocations, tableOf?_append, kept]
    by_cases here : index = draft.records.length
    · -- No earlier relocation names the new record, since all of them name records that exist.
      subst here
      rw [added.record_present] at present
      cases present
      have unnamed : tableOf? draft.data draft.relocations draft.records.length = none := by
        apply tableOf?_eq_none
        intro relocation old
        rw [Relocation.isTableOf, Bool.and_eq_false_imp]
        intro kind
        obtain ⟨earlier, earlierPresent, -⟩ :=
          sound.tables relocation old (by simpa using kind)
        have := (List.getElem?_eq_some_iff.mp earlierPresent).1
        rw [beq_eq_false_iff_ne]
        omega
      rw [unnamed, Option.or_none, added.tableOf?_new small]
    · have inside : index < draft.records.length := by
        have := (List.getElem?_eq_some_iff.mp present).1
        rw [added.records, List.length_append, List.length_singleton] at this
        omega
      rw [added.records, List.getElem?_append_left inside] at present
      rw [tableOf?_other small here, Option.none_or]
      exact sound.attached index other present

end Added
end Draft

/-- Encoding stages keeps a draft consistent, as long as the indices of its
records fit. -/
theorem encodeFrom_consistent
    {network : Network}
    {placement : Placement}
    {reads : Residency.Reads}
    {hints : List Residency.StageHints}
    {draft final : Draft}
    {alignment : Nat}
    {stages : List Stage}
    (positive : 0 < alignment)
    (few : draft.records.length + stages.length ≤ UInt32.size)
    (sound : Consistent draft)
    (success : encodeFrom alignment network placement reads hints draft draft.records.length
      stages = .ok final) :
    Consistent final := by
  induction stages generalizing draft with
  | nil =>
      cases success
      exact sound
  | cons stage rest inductionHypothesis =>
      rw [encodeFrom, Outcome.seq_eq_ok] at success
      obtain ⟨next, step, success⟩ := success
      obtain ⟨weights, table, record, added⟩ := Draft.addStage_eq_ok positive step
      rw [List.length_cons] at few
      have lengthEq : next.records.length = draft.records.length + 1 := by
        rw [added.records, List.length_append, List.length_singleton]
      rw [← lengthEq] at success
      exact inductionHypothesis (by omega) (added.consistent (by omega) sound) success

end Assembly
end TileProgram
