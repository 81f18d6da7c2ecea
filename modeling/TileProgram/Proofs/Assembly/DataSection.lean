import TileProgram.Proofs.Assembly.BlobAlignment
import TileProgram.Proofs.Assembly.Dataflow
import TileProgram.Proofs.Layout.Placings

/-!
# The data section

Weights and lookup tables are pushed into the data section one after another.  A
push fills the section with zeros up to the next multiple of the weight alignment
and appends the blob there; what was pushed before is neither moved nor changed.
So the relocations of a program describe, in order, stretches of the section that
lie as close to each other as the alignment allows, and each of them holds the
bytes of the stage it names.
-/

namespace TileProgram

namespace Assembly

open Network Stage Container

/-!
## Stretches that lie one after another
-/

/-- One past the last byte of a stretch. -/
def Stretch.stop (stretch : Stretch) : Nat :=
  stretch.base + stretch.size

/-- A position is one of the bytes of a stretch. -/
def Stretch.Covers (stretch : Stretch) (position : Nat) : Prop :=
  stretch.base ≤ position ∧ position < stretch.stop

/-- The end of the last of some stretches, zero if there is none. -/
def lastStop (stretches : List Stretch) : Nat :=
  (stretches.getLast?.map Stretch.stop).getD 0

/-- A byte of data into which a blob was pushed was there before, is a zero in front of the
blob, or belongs to the blob. -/
theorem byte_of_pushed
    {data blob : Bytes}
    {start position : Nat}
    {byte : UInt8}
    (behind : data.length ≤ start)
    (present : (data.resize start ++ blob)[position]? = some byte) :
    data[position]? = some byte ∨ byte = 0 ∨
      start ≤ position ∧ position < start + blob.length := by
  rcases Nat.lt_or_ge position start with before | after
  · rw [List.getElem?_append_left (by rwa [Bytes.length_resize]), Bytes.resize_eq behind] at present
    rcases Nat.lt_or_ge position data.length with old | padding
    · rw [List.getElem?_append_left old] at present
      exact Or.inl present
    · rw [List.getElem?_append_right padding, Bytes.zeros,
        List.getElem?_replicate_of_lt (by omega)] at present
      exact Or.inr (Or.inl (Option.some.inj present).symm)
  · have inside := (List.getElem?_eq_some_iff.mp present).1
    rw [List.length_append, Bytes.length_resize] at inside
    exact Or.inr (Or.inr ⟨after, inside⟩)

/-- Stretches lie in data one after another, each as close to the one before as an
alignment allows.  What they do not cover is zero, and the data ends with the last
of them. -/
structure LaidOut (alignment : Nat) (data : Bytes) (stretches : List Stretch) : Prop where
  inside : ∀ stretch ∈ stretches, stretch.stop ≤ data.length
  disjoint : stretches.Pairwise Stretch.Disjoint
  first : ∀ stretch, stretches.head? = some stretch → stretch.base = 0
  next : ∀ (number : Nat) (earlier later : Stretch), stretches[number]? = some earlier →
    stretches[number + 1]? = some later →
    IsLeast {offset | alignment ∣ offset ∧ earlier.stop ≤ offset} later.base
  clear : ∀ (position : Nat) (byte : UInt8), data[position]? = some byte →
    (∀ stretch ∈ stretches, ¬ stretch.Covers position) → byte = 0
  stop : data.length = lastStop stretches

namespace LaidOut

variable {alignment : Nat} {data : Bytes} {stretches : List Stretch}

theorem nil (alignment : Nat) : LaidOut alignment [] [] where
  inside := by simp
  disjoint := .nil
  first := by simp
  next := by simp
  clear := by simp
  stop := rfl

/-- The last stretch ends where the data does. -/
theorem stop_of_last
    {number : Nat}
    {last : Stretch}
    (laidOut : LaidOut alignment data stretches)
    (present : stretches[number]? = some last)
    (ended : number + 1 = stretches.length) :
    last.stop = data.length := by
  rw [laidOut.stop, lastStop, List.getLast?_eq_getElem?, ← ended, Nat.add_sub_cancel, present]
  rfl

/-- Pushing a blob lays it out behind everything that was pushed before. -/
theorem push
    (laidOut : LaidOut alignment data stretches)
    (power : Layout.isPowerOfTwo alignment = true)
    (blob : Bytes) :
    LaidOut alignment (data.resize (Layout.alignUp data.length alignment) ++ blob)
      (stretches ++ [⟨Layout.alignUp data.length alignment, blob.length⟩]) := by
  have least := Layout.isLeast_alignUp power data.length
  have behind : data.length ≤ Layout.alignUp data.length alignment := least.1.2
  have atStart : data.length = 0 → Layout.alignUp data.length alignment = 0 := by
    intro empty
    rw [empty]
    exact Layout.alignUp_of_dvd power (Nat.dvd_zero alignment)
  generalize Layout.alignUp data.length alignment = start at least behind atStart
  have length : (data.resize start ++ blob).length = start + blob.length := by
    rw [List.length_append, Bytes.length_resize]
  refine ⟨?_, ?_, ?_, ?_, ?_, ?_⟩
  · intro stretch present
    rw [length]
    rcases List.mem_append.mp present with old | new
    · have := laidOut.inside stretch old
      omega
    · rw [List.mem_singleton.mp new]
      exact Nat.le_refl _
  · refine List.pairwise_append.mpr ⟨laidOut.disjoint, List.pairwise_singleton _ _, ?_⟩
    intro earlier old later new
    rw [List.mem_singleton.mp new]
    exact Or.inl (Nat.le_trans (laidOut.inside earlier old) behind)
  · intro stretch present
    cases stretches with
    | nil =>
        cases present
        exact atStart laidOut.stop
    | cons stretch rest =>
        cases present
        exact laidOut.first stretch rfl
  · intro number earlier later earlierPresent laterPresent
    rcases Nat.lt_or_ge (number + 1) stretches.length with old | new
    · rw [List.getElem?_append_left (by omega)] at earlierPresent
      rw [List.getElem?_append_left old] at laterPresent
      exact laidOut.next number earlier later earlierPresent laterPresent
    · -- The new stretch follows the last one, which ends where the data ended.
      have last : number + 1 = stretches.length := by
        have inside := (List.getElem?_eq_some_iff.mp laterPresent).1
        rw [List.length_append, List.length_singleton] at inside
        omega
      rw [last, List.getElem?_concat_length] at laterPresent
      rw [List.getElem?_append_left (by omega)] at earlierPresent
      cases laterPresent
      rw [laidOut.stop_of_last earlierPresent last]
      exact least
  · intro position byte present uncovered
    rcases byte_of_pushed behind present with old | zero | new
    · exact laidOut.clear position byte old fun stretch member =>
        uncovered stretch (List.mem_append_left _ member)
    · exact zero
    · exact absurd new (uncovered _ (List.mem_append_right _ (List.mem_singleton.mpr rfl)))
  · rw [length, lastStop, List.getLast?_concat]
    rfl

end LaidOut

/-!
## Blobs and the relocations that describe them
-/

/-- The stretch of the data section that a relocation describes. -/
def describedStretch (relocation : Relocation) : Stretch :=
  ⟨relocation.offset.toNat, relocation.size.toNat⟩

/-- The stretches that the relocations of weights and of lookup tables describe, in order. -/
def blobStretches (relocations : List Relocation) : List Stretch :=
  (blobRelocations relocations).map describedStretch

theorem blobStretches_append (first second : List Relocation) :
    blobStretches (first ++ second) = blobStretches first ++ blobStretches second := by
  rw [blobStretches, blobRelocations_append, List.map_append]
  rfl

/-- A blob that a program stores: what it is, the number of its stage, and its bytes. -/
structure Blob where
  kind : RelocationKind
  stage : Nat
  bytes : Bytes

namespace Blob

/-- The blobs of a stage: the weights of its primary node, then its lookup table. -/
def ofStage (network : Network) (number : Nat) (stage : Stage) : List Blob :=
  (stageWeights network stage).toList.map (Blob.mk .weight number) ++
    ((lookup? (stage.nodesOf network)).map LookupTable.toBytes).toList.map
      (Blob.mk .lookupTable number)

/-- The blobs of stages that are numbered from a given number on. -/
def ofStages (network : Network) (number : Nat) : List Stage → List Blob
  | [] => []
  | stage :: rest => ofStage network number stage ++ ofStages network (number + 1) rest

end Blob

/-- A relocation says what a blob is, whose it is, and where in data its bytes are. -/
structure Describes (data : Bytes) (relocation : Relocation) (blob : Blob) : Prop where
  kind : relocation.kind = blob.kind
  record : relocation.record.toNat = blob.stage
  inside : relocation.offset.toNat + relocation.size.toNat ≤ data.length
  bytes : data.slice relocation.offset.toNat relocation.size.toNat = blob.bytes

/-- A blob is described when data is appended. -/
theorem Describes.mono
    {data more : Bytes}
    {relocation : Relocation}
    {blob : Blob}
    (describes : Describes data relocation blob)
    (grows : data <+: more) :
    Describes more relocation blob := by
  obtain ⟨rest, rfl⟩ := grows
  refine ⟨describes.kind, describes.record, ?_, ?_⟩
  · have inside := describes.inside
    rw [List.length_append]
    omega
  · rw [Bytes.slice_append_of_le describes.inside, describes.bytes]

/-- The relocation of a blob that may be missing describes it where it is held. -/
theorem describes_blobRelocation
    {data : Bytes}
    {place : Option ChannelData}
    {blob : Option Bytes}
    {number : Nat}
    (held : Option.Rel (Holds data) place blob)
    (small : number < UInt32.size)
    (kind : RelocationKind)
    (word : String) :
    List.Forall₂ (Describes data) (blobRelocation kind word number place)
      (blob.toList.map (Blob.mk kind number)) := by
  cases held with
  | none => exact .nil
  | some holds =>
      refine .cons ⟨rfl, ofBlob_record small .., ?_, ?_⟩ .nil
      · rw [ofBlob_offset, ofBlob_size]
        exact holds.inside
      · rw [ofBlob_offset, ofBlob_size]
        exact holds.bytes

/-- The last kernel channel that a record uses reads what a relocation describes. -/
def ReadsLast (record : Descriptor) (relocation : Relocation) : Prop :=
  ∃ used channel data, record.usedChannels = .ok used ∧ used.getLast? = some channel ∧
    record.channel channel = .ok (some data) ∧
    data.offset.toNat = relocation.offset.toNat ∧ data.length.toNat = relocation.size.toNat

/-- The weights of a stage are read by the last channel of its record. -/
theorem readsLast_of_encode
    {index : Nat}
    {nodes : List Node}
    {binding : Binding}
    {record : Descriptor}
    {weights : ChannelData}
    (encoded : Stage.encode index nodes binding = .ok record)
    (bound : binding.weights = some weights)
    (kind : RelocationKind)
    (number : Nat)
    (name : String) :
    ReadsLast record (.ofBlob kind number name weights) := by
  obtain ⟨primary, folded, -, rfl, -⟩ := encode_eq_ok encoded
  have count : binding.channels.length = binding.inputs.length + 1 := by
    rw [Binding.length_channels, bound]
    rfl
  refine ⟨_, binding.inputs.length, weights, usedChannels_of_encode encoded, ?_,
    channel_of_present encoded (Binding.channels_weights bound), (ofBlob_offset ..).symm,
    (ofBlob_size ..).symm⟩
  rw [count, List.range_succ, List.getLast?_concat]

/-- Numbering and linking a record keeps what its channels read. -/
theorem Numbered.readsLast
    {count index : Nat}
    {record changed : Descriptor}
    {relocation : Relocation}
    (numbered : Numbered count index record changed)
    (reads : ReadsLast record relocation) :
    ReadsLast changed relocation := by
  obtain ⟨used, channel, data, usedEq, last, read, place⟩ := reads
  exact ⟨used, channel, data, numbered.usedChannels.trans usedEq, last,
    (numbered.channel channel).trans read, place⟩

/-!
## Drafts

A draft stocks some blobs when its relocations describe them, where they are laid
out.  One stage adds its own blobs to those that are stocked; an induction on the
stages gives those of a whole network.
-/

namespace Draft

/-- A draft holds some blobs, laid out in order, and its records read their weights. -/
structure Stocks (draft : Draft) (alignment : Nat) (blobs : List Blob) : Prop where
  laidOut : LaidOut alignment draft.data (blobStretches draft.relocations)
  described : List.Forall₂ (Describes draft.data) (blobRelocations draft.relocations) blobs
  channel : ∀ relocation ∈ draft.relocations, relocation.kind = .weight →
    ∃ record, draft.records[relocation.record.toNat]? = some record ∧ ReadsLast record relocation

variable {draft next : Draft} {alignment index : Nat}

/-- Adding a blob that may be missing keeps everything laid out. -/
theorem laidOut_addOptional
    {kind : RelocationKind}
    {word : String}
    {blob : Option Bytes}
    {place : Option ChannelData}
    (power : Layout.isPowerOfTwo alignment = true)
    (ofBlobs : kind = .weight ∨ kind = .lookupTable)
    (success : draft.addOptional alignment index kind word blob = .ok (place, next))
    (laidOut : LaidOut alignment draft.data (blobStretches draft.relocations)) :
    LaidOut alignment next.data (blobStretches next.relocations) := by
  cases blob with
  | none =>
      cases success
      exact laidOut
  | some blob =>
      obtain ⟨⟨data, added⟩, add, equal⟩ := Outcome.map_eq_ok.mp success
      cases equal
      obtain ⟨offset, length, rfl⟩ := addBlob_eq add
      have new : blobStretches (blobRelocation kind word index (some data)) =
          [⟨Layout.alignUp draft.data.length alignment, blob.length⟩] := by
        have located : locatesBlob (.ofBlob kind index (word ++ toString index) data) = true := by
          rcases ofBlobs with rfl | rfl <;> rfl
        rw [blobStretches, blobRelocations, blobRelocation, Option.toList_some, List.map_singleton,
          List.filter_singleton, located, cond_true, List.map_singleton, describedStretch,
          ofBlob_offset, ofBlob_size, offset, length]
      rw [blobStretches_append, new]
      exact laidOut.push power blob

/-- Adding a stage keeps everything laid out. -/
theorem laidOut_addStage
    {nodes : List Node}
    {inputs : List Placed}
    {output : Placed}
    {hints : Residency.StageHints}
    (power : Layout.isPowerOfTwo alignment = true)
    (success : draft.addStage alignment index nodes inputs output hints = .ok next)
    (laidOut : LaidOut alignment draft.data (blobStretches draft.relocations)) :
    LaidOut alignment next.data (blobStretches next.relocations) := by
  obtain ⟨weights, withWeights, record, table, added, addedWeights, -, appended, rfl⟩ :=
    addStage_steps success
  show LaidOut alignment added.data (blobStretches added.relocations)
  exact laidOut_addOptional power (.inr rfl) appended
    (laidOut_addOptional power (.inl rfl) addedWeights laidOut)

namespace Added

variable {network : Network} {stage : Stage} {inputs : List Placed} {output : Placed}
  {hints : Residency.StageHints} {weights table : Option ChannelData} {record : Descriptor}
  {blobs : List Blob}

/-- The relocations that a stage adds describe its blobs. -/
theorem described
    (added : Added draft next index (stage.nodesOf network) inputs output hints weights table
      record)
    (head : (stage.nodesOf network).head? = network.nodes[stage.primary]?)
    (small : index < UInt32.size) :
    List.Forall₂ (Describes next.data)
      (blobRelocations (blobRelocation .weight "weights" index weights ++
        blobRelocation .lookupTable "lut" index table))
      (Blob.ofStage network index stage) := by
  have all : blobRelocations (blobRelocation .weight "weights" index weights ++
      blobRelocation .lookupTable "lut" index table) =
      blobRelocation .weight "weights" index weights ++
        blobRelocation .lookupTable "lut" index table := by
    refine List.filter_eq_self.mpr ?_
    intro relocation present
    rcases List.mem_append.mp present with ofWeights | ofTable
    · obtain ⟨place, -, rfl⟩ := mem_blobRelocation.mp ofWeights
      rfl
    · obtain ⟨place, -, rfl⟩ := mem_blobRelocation.mp ofTable
      rfl
  have weightsHeld := added.weightsHeld
  have tableHeld := added.tableHeld
  rw [head] at weightsHeld
  rw [(lookup_of_encode added.encoded).2.1] at tableHeld
  rw [all, Blob.ofStage]
  exact List.rel_append (describes_blobRelocation weightsHeld small ..)
    (describes_blobRelocation tableHeld small ..)

/-- The weights that a stage adds are read by the last channel of its record. -/
theorem channel
    {nodes : List Node}
    (added : Added draft next draft.records.length nodes inputs output hints weights table record)
    (small : draft.records.length < UInt32.size) :
    ∀ relocation ∈ blobRelocation .weight "weights" draft.records.length weights ++
        blobRelocation .lookupTable "lut" draft.records.length table,
      relocation.kind = .weight →
      ∃ record, next.records[relocation.record.toNat]? = some record ∧
        ReadsLast record relocation := by
  intro relocation present kind
  rcases List.mem_append.mp present with ofWeights | ofTable
  · obtain ⟨place, rfl, rfl⟩ := mem_blobRelocation.mp ofWeights
    refine ⟨record, ?_, readsLast_of_encode added.encoded rfl ..⟩
    rw [ofBlob_record small]
    exact added.record_present
  · obtain ⟨place, -, rfl⟩ := mem_blobRelocation.mp ofTable
    cases kind

/-- A stage adds its blobs to those that are stocked. -/
theorem stocks
    (added : Added draft next draft.records.length (stage.nodesOf network) inputs output hints
      weights table record)
    (head : (stage.nodesOf network).head? = network.nodes[stage.primary]?)
    (small : draft.records.length < UInt32.size)
    (laidOut : LaidOut alignment next.data (blobStretches next.relocations))
    (stocks : draft.Stocks alignment blobs) :
    next.Stocks alignment (blobs ++ Blob.ofStage network draft.records.length stage) := by
  refine ⟨laidOut, ?_, ?_⟩
  · rw [added.relocations, blobRelocations_append]
    exact List.rel_append (stocks.described.imp fun _ _ describes => describes.mono added.data)
      (added.described head small)
  · rw [added.relocations]
    intro relocation present kind
    rcases List.mem_append.mp present with old | new
    · obtain ⟨other, otherPresent, reads⟩ := stocks.channel relocation old kind
      exact ⟨other, added.extension.record otherPresent, reads⟩
    · exact added.channel small relocation new kind

end Added
end Draft

/-- Encoding stages stocks the blobs of all of them, as long as their numbers fit. -/
theorem encodeFrom_stocks
    {network : Network}
    {placement : Placement}
    {reads : Residency.Reads}
    {hints : List Residency.StageHints}
    {draft final : Draft}
    {alignment : Nat}
    {stages : List Stage}
    {blobs : List Blob}
    (power : Layout.isPowerOfTwo alignment = true)
    (heads : ∀ stage ∈ stages, (stage.nodesOf network).head? = network.nodes[stage.primary]?)
    (few : draft.records.length + stages.length ≤ UInt32.size)
    (stocks : draft.Stocks alignment blobs)
    (success : encodeFrom alignment network placement reads hints draft draft.records.length
      stages = .ok final) :
    final.Stocks alignment (blobs ++ Blob.ofStages network draft.records.length stages) := by
  induction stages generalizing draft blobs with
  | nil =>
      cases success
      rwa [Blob.ofStages, List.append_nil]
  | cons stage rest inductionHypothesis =>
      rw [encodeFrom, Outcome.seq_eq_ok] at success
      obtain ⟨next, step, success⟩ := success
      obtain ⟨head, others⟩ := List.forall_mem_cons.mp heads
      obtain ⟨weights, table, record, added⟩ :=
        Draft.addStage_eq_ok (Layout.pos_of_isPowerOfTwo power) step
      rw [List.length_cons] at few
      have lengthEq : next.records.length = draft.records.length + 1 := by
        rw [added.records, List.length_append, List.length_singleton]
      have laidOut := Draft.laidOut_addStage power step stocks.laidOut
      have more := added.stocks head (by omega) laidOut stocks
      rw [← lengthEq] at success
      have all := inductionHypothesis others (by omega) more success
      rwa [lengthEq, List.append_assoc] at all

/-!
## Programs
-/

variable {policy : Layout.Policy} {network : Network} {container : Container}

/-- The data section of a program is that of its stages: the blobs of all stages are
described in order and laid out, the records have the lookup tables of their stages,
and what a relocation of weights describes is what the last channel of the record it
names reads. -/
structure Stored (alignment : Nat) (network : Network) (stages : List Stage)
    (container : Container) : Prop where
  laidOut : LaidOut alignment container.data (blobStretches container.relocations)
  described : List.Forall₂ (Describes container.data) (blobRelocations container.relocations)
    (Blob.ofStages network 0 stages)
  table : ∀ (index : Nat) (stage : Stage) (entry : Entry), stages[index]? = some stage →
    container.entries[index]? = some entry →
    entry.descriptor.lookup = lookup? (stage.nodesOf network)
  channel : ∀ relocation ∈ container.relocations, relocation.kind = .weight →
    ∃ entry, container.entries[relocation.record.toNat]? = some entry ∧
      ReadsLast entry.descriptor relocation

namespace Run

variable (run : Run policy network container)

include run

/-- The draft of a program stocks the blobs of its stages. -/
theorem stocks :
    run.draft.Stocks policy.weightAlignment.toNat (Blob.ofStages network 0 run.stages) := by
  have power := (Layout.Policy.alignments_of_validate run.accepted).2.2
  have none : blobRelocations (inputRelocations run.placement) = [] :=
    blobRelocations_eq_nil fun _ => kind_of_mem_inputs
  have few : 0 + run.stages.length ≤ UInt32.size := by
    have := run.few
    show 0 + _ ≤ 4294967296
    omega
  have start : Draft.Stocks ⟨inputRelocations run.placement, [], []⟩
      policy.weightAlignment.toNat [] := by
    refine ⟨?_, ?_, ?_⟩
    · rw [blobStretches, none]
      exact .nil _
    · rw [none]
      exact .nil
    · intro relocation present kind
      rw [kind_of_mem_inputs present] at kind
      cases kind
  refine encodeFrom_stocks power (fun _ present => head?_nodesOf run.divided present) ?_ start
    run.encoded
  exact few

/-- The program stores the blobs of its stages. -/
theorem stored : Stored policy.weightAlignment.toNat network run.stages container := by
  obtain ⟨-, relocations, -, data⟩ := run.container_eq
  have stocks := run.stocks
  have surfaces : ∀ relocation ∈ outputRelocations network run.stages run.placement,
      relocation.kind = .surface := by
    intro relocation present
    obtain ⟨number, placed, rfl⟩ := mem_outputRelocations present
    rfl
  have blobs : blobRelocations container.relocations = blobRelocations run.draft.relocations := by
    rw [relocations, blobRelocations_append, blobRelocations_eq_nil surfaces, List.append_nil]
  refine ⟨?_, ?_, ?_, ?_⟩
  · rw [blobStretches, blobs, data]
    exact stocks.laidOut
  · rw [blobs, data]
    exact stocks.described
  · intro index stage entry stagePresent entryPresent
    obtain ⟨weights, record, encoded, numbered, -, -⟩ := run.encodes stagePresent entryPresent
    rw [numbered.lookup, (lookup_of_encode encoded).2.1]
  · intro relocation present kind
    rw [relocations] at present
    rcases List.mem_append.mp present with drafted | output
    · obtain ⟨record, recordPresent, reads⟩ := stocks.channel relocation drafted kind
      have inside := (List.getElem?_eq_some_iff.mp recordPresent).1
      rw [run.length_records, ← run.length_entries] at inside
      have entryPresent := List.getElem?_eq_getElem inside
      obtain ⟨other, otherPresent, numbered, -⟩ := run.entry entryPresent
      cases recordPresent.symm.trans otherPresent
      exact ⟨_, entryPresent, numbered.readsLast reads⟩
    · rw [surfaces relocation output] at kind
      cases kind

end Run

/-- The data section of a program holds the blobs of the stages of its network. -/
theorem stored_of_assemble (success : assemble policy network = .ok container) :
    ∃ stages, Stage.plan policy.fusion network = .ok stages ∧
      Stored policy.weightAlignment.toNat network stages container := by
  obtain ⟨run⟩ := exists_run success
  exact ⟨run.stages, run.planned, run.stored⟩

/-- Three convolutions: one with three weights and a lookup table, one with an empty list
of weights, and one with a single weight. -/
def assorted : Network :=
  { inputs := [strip]
    nodes :=
      [ ⟨.convolution (1, 1) (1, 1) (0, 0) 1, [.input 0], strip, ⟨.lut, ⟨0⟩, ⟨0⟩⟩,
          some [⟨0x3F800000⟩, ⟨0x3F000000⟩, ⟨0x3E800000⟩], some [⟨0x3F800000⟩]⟩,
        ⟨.convolution (1, 1) (1, 1) (0, 0) 1, [.node 0], strip, ⟨.identity, ⟨0⟩, ⟨0⟩⟩,
          some [], none⟩,
        ⟨.convolution (1, 1) (1, 1) (0, 0) 1, [.node 1], strip, ⟨.identity, ⟨0⟩, ⟨0⟩⟩,
          some [⟨0x3F800000⟩], none⟩ ] }

/-- The empty list of weights begins where the weight behind it does. -/
theorem assorted_stored :
    ∃ container, assemble (packing 16) assorted = .ok container ∧
      (∃ stages, Stage.plan true assorted = .ok stages ∧
        Stored 16 assorted stages container) ∧
      blobStretches container.relocations = [⟨0, 6⟩, ⟨16, 2⟩, ⟨32, 0⟩, ⟨32, 2⟩] := by
  obtain ⟨container, assembled⟩ : ∃ container, assemble (packing 16) assorted = .ok container :=
    exists_assemble_iff.mpr (by decide +kernel)
  refine ⟨container, assembled, stored_of_assemble assembled, ?_⟩
  obtain ⟨run⟩ := exists_run assembled
  have planned : Stage.plan true assorted = .ok [⟨0, []⟩, ⟨1, []⟩, ⟨2, []⟩] := rfl
  have stages := Except.ok.inj (run.planned.symm.trans planned)
  have places : (blobRelocations container.relocations).map placeOf =
      [(0, 6), (16, 2), (32, 0), (32, 2)] := by
    rw [run.places_eq, stages]
    decide +kernel
  have stretches : blobStretches container.relocations =
      ((blobRelocations container.relocations).map placeOf).map fun place =>
        ⟨place.1, place.2⟩ := by
    rw [List.map_map]
    rfl
  rw [stretches, places]
  rfl

end Assembly
end TileProgram
