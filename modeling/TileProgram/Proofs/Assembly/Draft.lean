import TileProgram.Assembly
import TileProgram.Proofs.Bytes.Slices
import TileProgram.Proofs.Container.Tables
import TileProgram.Proofs.Layout.Allocator
import TileProgram.Proofs.Stage.Registers

/-!
# Drafts of programs

A draft only grows: encoding a stage appends one record, the blobs of that
stage and their relocations, and leaves everything else where it is.  What is
established for one stage therefore holds of the finished draft.
-/

namespace TileProgram
namespace Assembly

open Network Stage Container

/-- A blob lies in the data section at a place. -/
structure Holds (data : Bytes) (place : ChannelData) (blob : Bytes) : Prop where
  inside : place.offset.toNat + place.length.toNat ≤ data.length
  bytes : data.slice place.offset.toNat place.length.toNat = blob

namespace Holds

variable {data more : Bytes} {place : ChannelData} {blob : Bytes}

theorem length_eq (holds : Holds data place blob) : place.length.toNat = blob.length := by
  rw [← holds.bytes, Bytes.length_slice holds.inside]

/-- A blob stays where it is when data is appended. -/
theorem mono (holds : Holds data place blob) (grows : data <+: more) : Holds more place blob := by
  obtain ⟨rest, rfl⟩ := grows
  refine ⟨?_, ?_⟩
  · have inside := holds.inside
    rw [List.length_append]
    omega
  · rw [Bytes.slice_append_of_le holds.inside, holds.bytes]

end Holds

/-- So does a blob that may be missing. -/
theorem held_mono
    {data more : Bytes}
    {place : Option ChannelData}
    {blob : Option Bytes}
    (held : Option.Rel (Holds data) place blob)
    (grows : data <+: more) :
    Option.Rel (Holds more) place blob := by
  cases held with
  | none => exact .none
  | some holds => exact .some (holds.mono grows)

/-- The bytes of the weights of a node, if it has any. -/
def weightBytes (node : Node) : Option Bytes :=
  node.weights.map fun weights => Binary.Half.listToBytes (weights.map Binary.Single.toHalf)

/-- The relocation of a blob of a record, if there is one. -/
def blobRelocation (kind : RelocationKind) (word : String) (index : Nat)
    (place : Option ChannelData) : List Relocation :=
  place.toList.map (Relocation.ofBlob kind index (word ++ toString index))

/-- A relocation of a blob is that of the place of the blob. -/
theorem mem_blobRelocation
    {kind : RelocationKind}
    {word : String}
    {index : Nat}
    {place : Option ChannelData}
    {relocation : Relocation} :
    relocation ∈ blobRelocation kind word index place ↔
      ∃ data, place = some data ∧
        relocation = .ofBlob kind index (word ++ toString index) data := by
  unfold blobRelocation
  cases place with
  | none => simp
  | some data => simp

namespace Draft

/-- A draft in which everything of another one stands where it stood. -/
structure Extends (draft next : Draft) : Prop where
  relocations : draft.relocations <+: next.relocations
  data : draft.data <+: next.data
  records : draft.records <+: next.records

theorem Extends.refl (draft : Draft) : Extends draft draft :=
  ⟨List.prefix_rfl, List.prefix_rfl, List.prefix_rfl⟩

theorem Extends.trans
    {first second third : Draft}
    (earlier : Extends first second)
    (later : Extends second third) :
    Extends first third :=
  ⟨earlier.relocations.trans later.relocations, earlier.data.trans later.data,
    earlier.records.trans later.records⟩

/-- A record keeps its index. -/
theorem Extends.record
    {draft next : Draft}
    {index : Nat}
    {record : Descriptor}
    (extension : Extends draft next)
    (present : draft.records[index]? = some record) :
    next.records[index]? = some record := by
  obtain ⟨inside, rfl⟩ := List.getElem?_eq_some_iff.mp present
  exact List.prefix_iff_getElem?.mp extension.records index inside

/-- What appending the blobs and the record of a stage does to a draft. -/
structure Added (draft next : Draft) (index : Nat) (nodes : List Node) (inputs : List Placed)
    (output : Placed) (hints : Residency.StageHints) (weights table : Option ChannelData)
    (record : Descriptor) : Prop where
  encoded : Stage.encode index nodes ⟨inputs, output, weights, hints⟩ = .ok record
  records : next.records = draft.records ++ [record]
  relocations : next.relocations = draft.relocations ++
    (blobRelocation .weight "weights" index weights ++
      blobRelocation .lookupTable "lut" index table)
  data : draft.data <+: next.data
  weightsHeld : Option.Rel (Holds next.data) weights (nodes.head?.bind weightBytes)
  tableHeld : Option.Rel (Holds next.data) table (record.lookup.map LookupTable.toBytes)
  addressable : draft.data.length < UInt64.size → next.data.length < UInt64.size

variable {draft next : Draft} {alignment index : Nat}

/-- A blob is put at the first aligned place behind the data there was. -/
theorem pushBlob_eq
    {blob : Bytes}
    {place : ChannelData}
    (success : draft.pushBlob alignment index blob = .ok (place, next)) :
    place.offset.toNat = Layout.alignUp draft.data.length alignment ∧
      place.length.toNat = blob.length ∧
      next = { draft with
        data := draft.data.resize (Layout.alignUp draft.data.length alignment) ++ blob } := by
  unfold pushBlob at success
  dsimp only at success
  split at success
  · cases success
  · next low =>
      split at success
      · cases success
      · next short =>
          cases success
          exact ⟨UInt32.toNat_ofNat_of_lt' (Nat.lt_of_not_le low),
            UInt32.toNat_ofNat_of_lt' (Nat.lt_of_not_le short), rfl⟩

/-- So is a blob that is added with its relocation. -/
theorem addBlob_eq
    {kind : RelocationKind}
    {word : String}
    {blob : Bytes}
    {place : ChannelData}
    (success : draft.addBlob alignment index kind word blob = .ok (place, next)) :
    place.offset.toNat = Layout.alignUp draft.data.length alignment ∧
      place.length.toNat = blob.length ∧
      next = { draft with
        relocations := draft.relocations ++ blobRelocation kind word index (some place)
        data := draft.data.resize (Layout.alignUp draft.data.length alignment) ++ blob } := by
  unfold addBlob at success
  rw [Outcome.seq_eq_ok] at success
  obtain ⟨⟨data, pushed⟩, push, equal⟩ := success
  cases Outcome.pure_eq_ok.mp equal
  obtain ⟨offset, length, rfl⟩ := pushBlob_eq push
  exact ⟨offset, length, rfl⟩

/-- A blob that is added lies in the data, and everything that was there stays. -/
theorem addBlob_eq_ok
    {kind : RelocationKind}
    {word : String}
    {blob : Bytes}
    {place : ChannelData}
    (positive : 0 < alignment)
    (success : draft.addBlob alignment index kind word blob = .ok (place, next)) :
    Holds next.data place blob ∧ draft.data <+: next.data ∧
      next.data.length < UInt64.size ∧
      next.relocations = draft.relocations ++ blobRelocation kind word index (some place) ∧
      next.records = draft.records := by
  have behind : draft.data.length ≤ Layout.alignUp draft.data.length alignment :=
    Layout.le_alignUp positive
  obtain ⟨offset, length, rfl⟩ := addBlob_eq success
  have lengthData : (draft.data.resize (Layout.alignUp draft.data.length alignment) ++
      blob).length = place.offset.toNat + place.length.toNat := by
    rw [List.length_append, Bytes.length_resize, offset, length]
  refine ⟨⟨Nat.le_of_eq lengthData.symm, ?_⟩, ?_, ?_, rfl, rfl⟩
  · rw [offset, length]
    have found := Bytes.slice_append_right
      (draft.data.resize (Layout.alignUp draft.data.length alignment)) blob
    rwa [Bytes.length_resize] at found
  · rw [Bytes.resize_eq behind, List.append_assoc]
    exact List.prefix_append _ _
  · have low : place.offset.toNat < 4294967296 := place.offset.toNat_lt
    have short : place.length.toNat < 4294967296 := place.length.toNat_lt
    dsimp only
    rw [lengthData]
    show _ < 18446744073709551616
    omega

/-- Appends a blob that may be missing. -/
def addOptional (draft : Draft) (alignment index : Nat) (kind : RelocationKind) (word : String) :
    Option Bytes → Except ProgramError (Option ChannelData × Draft)
  | none => .ok (none, draft)
  | some blob =>
      (draft.addBlob alignment index kind word blob).map fun result =>
        (some result.1, result.2)

/-- The weights of a stage are a blob that may be missing. -/
theorem addWeights_eq (draft : Draft) (alignment index : Nat) (primary : Option Node) :
    draft.addWeights alignment index primary =
      draft.addOptional alignment index .weight "weights" (primary.bind weightBytes) := by
  have bytesEq : primary.bind weightBytes = (primary.bind Node.weights).map fun numbers =>
      Binary.Half.listToBytes (numbers.map Binary.Single.toHalf) := by
    cases primary <;> rfl
  unfold addWeights
  rw [bytesEq]
  cases primary.bind Node.weights with
  | none => rfl
  | some numbers =>
      rw [Option.map_some, addOptional]
      dsimp only
      cases draft.addBlob alignment index .weight "weights"
        (Binary.Half.listToBytes (numbers.map Binary.Single.toHalf)) <;> rfl

/-- So is the lookup table of a record. -/
theorem addTable_eq (draft : Draft) (alignment index : Nat) (record : Descriptor) :
    draft.addTable alignment index record =
      (draft.addOptional alignment index .lookupTable "lut"
        (record.lookup.map LookupTable.toBytes)).map Prod.snd := by
  unfold addTable
  cases record.lookup with
  | none => rfl
  | some table =>
      rw [Option.map_some, addOptional]
      dsimp only
      cases draft.addBlob alignment index .lookupTable "lut" table.toBytes <;> rfl

/-- A blob that may be missing is appended when it is there. -/
theorem addOptional_eq_ok
    {kind : RelocationKind}
    {word : String}
    {blob : Option Bytes}
    {place : Option ChannelData}
    (positive : 0 < alignment)
    (success : draft.addOptional alignment index kind word blob = .ok (place, next)) :
    Option.Rel (Holds next.data) place blob ∧ draft.data <+: next.data ∧
      (draft.data.length < UInt64.size → next.data.length < UInt64.size) ∧
      next.relocations = draft.relocations ++ blobRelocation kind word index place ∧
      next.records = draft.records := by
  cases blob with
  | none =>
      cases success
      exact ⟨.none, List.prefix_rfl, id, (List.append_nil _).symm, rfl⟩
  | some blob =>
      obtain ⟨⟨data, added⟩, add, equal⟩ := Outcome.map_eq_ok.mp success
      cases equal
      obtain ⟨holds, grows, addressable, relocations, records⟩ := addBlob_eq_ok positive add
      exact ⟨.some holds, grows, fun _ => addressable, relocations, records⟩

/-- The steps of adding a stage: its weights, its record, and the lookup table of the record. -/
theorem addStage_steps
    {nodes : List Node}
    {inputs : List Placed}
    {output : Placed}
    {hints : Residency.StageHints}
    (success : draft.addStage alignment index nodes inputs output hints = .ok next) :
    ∃ weights withWeights record table withTable,
      draft.addOptional alignment index .weight "weights" (nodes.head?.bind weightBytes) =
        .ok (weights, withWeights) ∧
      Stage.encode index nodes ⟨inputs, output, weights, hints⟩ = .ok record ∧
      withWeights.addOptional alignment index .lookupTable "lut"
        (record.lookup.map LookupTable.toBytes) = .ok (table, withTable) ∧
      next = { withTable with records := withTable.records ++ [record] } := by
  unfold addStage at success
  simp only [Outcome.seq_eq_ok, Outcome.pure_eq_ok] at success
  obtain ⟨⟨weights, withWeights⟩, addedWeights, record, encoded, withTable, addedTable, equal⟩ :=
    success
  rw [addWeights_eq] at addedWeights
  rw [addTable_eq] at addedTable
  obtain ⟨⟨table, added⟩, appended, rfl⟩ := Outcome.map_eq_ok.mp addedTable
  exact ⟨weights, withWeights, record, table, added, addedWeights, encoded, appended, equal.symm⟩

/-- Adding a stage appends its weights, its lookup table and its record. -/
theorem addStage_eq_ok
    {nodes : List Node}
    {inputs : List Placed}
    {output : Placed}
    {hints : Residency.StageHints}
    (positive : 0 < alignment)
    (success : draft.addStage alignment index nodes inputs output hints = .ok next) :
    ∃ weights table record,
      Added draft next index nodes inputs output hints weights table record := by
  obtain ⟨weights, withWeights, record, table, withTable, addedWeights, encoded, addedTable, rfl⟩ :=
    addStage_steps success
  obtain ⟨weightsHeld, weightsGrow, weightsAddressable, weightsRelocations, weightsRecords⟩ :=
    addOptional_eq_ok positive addedWeights
  obtain ⟨tableHeld, tableGrows, tableAddressable, tableRelocations, tableRecords⟩ :=
    addOptional_eq_ok positive addedTable
  refine ⟨weights, table, record, encoded, ?_, ?_, weightsGrow.trans tableGrows,
    held_mono weightsHeld tableGrows, tableHeld,
    fun small => tableAddressable (weightsAddressable small)⟩
  · dsimp only
    rw [tableRecords, weightsRecords]
  · dsimp only
    rw [tableRelocations, weightsRelocations, List.append_assoc]

namespace Added

variable {nodes : List Node} {inputs : List Placed} {output : Placed}
  {hints : Residency.StageHints} {weights table : Option ChannelData} {record : Descriptor}

/-- Everything that was there stays. -/
theorem extension
    (added : Added draft next index nodes inputs output hints weights table record) :
    Extends draft next :=
  ⟨⟨_, added.relocations.symm⟩, added.data, ⟨_, added.records.symm⟩⟩

/-- The stage adds a lookup table exactly when its record has one. -/
theorem table_held
    (added : Added draft next index nodes inputs output hints weights table record) :
    table = none ∧ record.lookup = none ∨
      ∃ place samples, table = some place ∧ record.lookup = some samples ∧
        Holds next.data place samples.toBytes := by
  have held := added.tableHeld
  cases lookup : record.lookup with
  | none =>
      rw [lookup] at held
      cases held
      exact Or.inl ⟨rfl, rfl⟩
  | some samples =>
      rw [lookup] at held
      cases held with
      | some holds => exact Or.inr ⟨_, samples, rfl, rfl, holds⟩

/-- The new record stands behind those there were. -/
theorem record_present
    (added : Added draft next index nodes inputs output hints weights table record) :
    next.records[draft.records.length]? = some record := by
  rw [added.records, List.getElem?_append_right (Nat.le_refl _), Nat.sub_self]
  rfl

end Added

end Draft

section Encoding

variable {network : Network} {placement : Placement} {reads : Residency.Reads}
  {hints : List Residency.StageHints} {draft final : Draft} {alignment start : Nat}
  {stages : List Stage}

/-- What a stage reads, with its place. -/
def inputsOf (placement : Placement) (reads : Residency.Reads) (index : Nat) : List Placed :=
  ((reads[index]?).getD []).map placement.lookup

/-- Encoding stages keeps what there was and appends one record for each of them. -/
theorem encodeFrom_extends
    (positive : 0 < alignment)
    (success : encodeFrom alignment network placement reads hints draft start stages = .ok final) :
    Draft.Extends draft final ∧ final.records.length = draft.records.length + stages.length := by
  induction stages generalizing draft start with
  | nil =>
      cases success
      exact ⟨.refl _, rfl⟩
  | cons stage rest inductionHypothesis =>
      rw [encodeFrom, Outcome.seq_eq_ok] at success
      obtain ⟨next, step, success⟩ := success
      obtain ⟨weights, table, record, added⟩ := Draft.addStage_eq_ok positive step
      obtain ⟨extension, lengthEq⟩ := inductionHypothesis success
      refine ⟨added.extension.trans extension, ?_⟩
      rw [lengthEq, added.records, List.length_append, List.length_singleton, List.length_cons]
      omega

/-- Every stage is encoded with the places of what it reads and of its result,
and its weights lie in the finished data. -/
theorem encodeFrom_encodes
    {index : Nat}
    {stage : Stage}
    (positive : 0 < alignment)
    (success : encodeFrom alignment network placement reads hints draft start stages = .ok final)
    (present : stages[index]? = some stage) :
    ∃ weights record, final.records[draft.records.length + index]? = some record ∧
      Stage.encode (start + index) (stage.nodesOf network)
        ⟨inputsOf placement reads (start + index), placement.lookup (.stage (start + index)),
          weights, (hints[start + index]?).getD default⟩ = .ok record ∧
      Option.Rel (Holds final.data) weights ((stage.nodesOf network).head?.bind weightBytes) ∧
      ∀ relocation ∈ blobRelocation .weight "weights" (start + index) weights,
        relocation ∈ final.relocations := by
  induction stages generalizing draft start index with
  | nil => cases present
  | cons first rest inductionHypothesis =>
      rw [encodeFrom, Outcome.seq_eq_ok] at success
      obtain ⟨next, step, success⟩ := success
      obtain ⟨weights, table, record, added⟩ := Draft.addStage_eq_ok positive step
      cases index with
      | zero =>
          cases present
          obtain ⟨extension, -⟩ := encodeFrom_extends positive success
          refine ⟨weights, record, extension.record added.record_present, added.encoded,
            held_mono added.weightsHeld extension.data, ?_⟩
          intro relocation ofWeights
          refine extension.relocations.subset ?_
          rw [added.relocations]
          exact List.mem_append_right _ (List.mem_append_left _ ofWeights)
      | succ index =>
          obtain ⟨later, other, otherPresent, encoded, held, located⟩ :=
            inductionHypothesis success present
          rw [added.records, List.length_append, List.length_singleton, Nat.add_assoc,
            Nat.add_comm 1] at otherPresent
          rw [Nat.add_assoc, Nat.add_comm 1] at encoded located
          exact ⟨later, other, otherPresent, encoded, held, located⟩

/-- Encoded records are described by the built-in table. -/
theorem builtIn_of_encodeFrom
    {relocations : List Relocation}
    {data : Bytes}
    (positive : 0 < alignment)
    (success : encodeFrom alignment network placement reads hints ⟨relocations, data, []⟩ 0
      stages = .ok final) :
    ∀ record ∈ final.records, record.table = .standard := by
  intro record present
  obtain ⟨index, present⟩ := List.mem_iff_getElem?.mp present
  have low := (List.getElem?_eq_some_iff.mp present).1
  rw [(encodeFrom_extends positive success).2, List.length_nil, Nat.zero_add] at low
  obtain ⟨weights, other, otherPresent, encoded, -⟩ :=
    encodeFrom_encodes positive success (List.getElem?_eq_getElem low)
  rw [List.length_nil, Nat.zero_add, present] at otherPresent
  cases otherPresent
  exact (lookup_of_encode encoded).1

/-- Encoding stages appends, stage by stage, the relocation of its weights and
that of its lookup table, where it has them. -/
theorem encodeFrom_relocations
    (positive : 0 < alignment)
    (success : encodeFrom alignment network placement reads hints draft start stages = .ok final) :
    ∃ lists : List (List Relocation), final.relocations = draft.relocations ++ lists.flatten ∧
      lists.length = stages.length ∧
      ∀ (index : Nat) (stage : Stage), stages[index]? = some stage →
        ∃ weights table, lists[index]? = some
            (blobRelocation .weight "weights" (start + index) weights ++
              blobRelocation .lookupTable "lut" (start + index) table) ∧
          Option.Rel (Holds final.data) weights ((stage.nodesOf network).head?.bind weightBytes) ∧
          Option.Rel (Holds final.data) table
            ((lookup? (stage.nodesOf network)).map LookupTable.toBytes) := by
  induction stages generalizing draft start with
  | nil =>
      cases success
      exact ⟨[], by simp, rfl, by simp⟩
  | cons stage rest inductionHypothesis =>
      rw [encodeFrom, Outcome.seq_eq_ok] at success
      obtain ⟨next, step, success⟩ := success
      obtain ⟨weights, table, record, added⟩ := Draft.addStage_eq_ok positive step
      obtain ⟨lists, relocations, lengthEq, each⟩ := inductionHypothesis success
      obtain ⟨extension, -⟩ := encodeFrom_extends positive success
      refine ⟨(blobRelocation .weight "weights" start weights ++
        blobRelocation .lookupTable "lut" start table) :: lists, ?_,
        congrArg (· + 1) lengthEq, ?_⟩
      · rw [relocations, added.relocations, List.flatten_cons, List.append_assoc]
      · intro index other present
        cases index with
        | zero =>
            cases present
            have tableHeld := added.tableHeld
            rw [(lookup_of_encode added.encoded).2.1] at tableHeld
            exact ⟨weights, table, rfl, held_mono added.weightsHeld extension.data,
              held_mono tableHeld extension.data⟩
        | succ index =>
            have later := each index other present
            rwa [Nat.add_assoc, Nat.add_comm 1] at later

/-- Encoding stages adds relocations of weights and of lookup tables alone. -/
theorem encodeFrom_named
    (positive : 0 < alignment)
    (success : encodeFrom alignment network placement reads hints draft start stages = .ok final) :
    ∃ rest, final.relocations = draft.relocations ++ rest ∧
      ∀ relocation ∈ rest, relocation.kind ≠ .surface ∧
        ∃ number < start + stages.length, relocation.name = "weights" ++ toString number ∨
          relocation.name = "lut" ++ toString number := by
  obtain ⟨lists, relocations, lengthEq, each⟩ := encodeFrom_relocations positive success
  refine ⟨lists.flatten, relocations, ?_⟩
  intro relocation member
  obtain ⟨list, listMember, member⟩ := List.mem_flatten.mp member
  obtain ⟨index, listPresent⟩ := List.mem_iff_getElem?.mp listMember
  have inside := (List.getElem?_eq_some_iff.mp listPresent).1
  rw [lengthEq] at inside
  obtain ⟨weights, table, found, -, -⟩ := each index _ (List.getElem?_eq_getElem inside)
  rw [listPresent, Option.some.injEq] at found
  rw [found] at member
  rcases List.mem_append.mp member with ofWeights | ofTable
  · obtain ⟨data, -, rfl⟩ := mem_blobRelocation.mp ofWeights
    exact ⟨by simp [Relocation.ofBlob], start + index, by omega, Or.inl rfl⟩
  · obtain ⟨data, -, rfl⟩ := mem_blobRelocation.mp ofTable
    exact ⟨by simp [Relocation.ofBlob], start + index, by omega, Or.inr rfl⟩

end Encoding
end Assembly
end TileProgram
