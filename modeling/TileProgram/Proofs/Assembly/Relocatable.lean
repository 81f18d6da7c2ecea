import TileProgram.Proofs.Assembly.Consistency
import TileProgram.Proofs.Assembly.Contiguous
import TileProgram.Proofs.Assembly.Fusion
import TileProgram.Proofs.Assembly.Listing
import TileProgram.Proofs.Stage.Moved

/-!
# Relocatable programs

How a program depends on the base address of its policy: first for drafts, to
which stages are added one by one, then for whole assemblies.
-/

/-!
## Drafts whose surfaces are moved

Two drafts agree up to the place in memory when their data is the same and
their relocations and records are, except for addresses.  Adding a stage to
both of them, with operands and a result that are moved by the same distance,
keeps them so: where the blobs of the stage go does not depend on addresses.
-/

namespace TileProgram

open Network Stage Container Register

/-- The same relocation, whose offset is moved if it is an address of device memory. -/
structure Container.Relocation.Moved (source target : Nat) (first second : Relocation) :
    Prop where
  kind : second.kind = first.kind
  record : second.record = first.record
  size : second.size = first.size
  name : second.name = first.name
  surface : first.kind = .surface → first.offset.toNat + target = second.offset.toNat + source
  blob : first.kind ≠ .surface → second.offset = first.offset

/-- A relocation of a blob is not moved. -/
theorem Container.Relocation.Moved.refl
    {relocation : Relocation}
    (blob : relocation.kind ≠ .surface)
    (source target : Nat) :
    Relocation.Moved source target relocation relocation :=
  ⟨rfl, rfl, rfl, rfl, fun surface => absurd surface blob, fun _ => rfl⟩

namespace Assembly

variable {source target : Nat}

/-- The relocation of a moved surface is moved. -/
theorem surfaceRelocation_moved
    {placed other : Placed}
    (moved : Placed.Moved source target placed other)
    (word : String)
    (number : Nat) :
    Relocation.Moved source target (surfaceRelocation word number placed)
      (surfaceRelocation word number other) where
  kind := rfl
  record := rfl
  size := by
    rw [surfaceRelocation, surfaceRelocation, moved.size]
    rfl
  name := rfl
  surface := by
    intro _
    show (UInt64.ofNat placed.surface.base.toNat).toNat + target =
      (UInt64.ofNat other.surface.base.toNat).toNat + source
    rw [toNat_widened, toNat_widened, moved.base]
  blob := fun other => absurd rfl other

section Places

/-- The same tensors from another address on are moved. -/
theorem placedFrom_moved
    {policy otherPolicy : Layout.Policy}
    {tensors : List Tensor}
    {address other : Nat}
    (accepted : policy.validate = .ok ())
    (same : otherPolicy.alignment = policy.alignment)
    (nonempty : ∀ tensor ∈ tensors, tensor.shape.isEmpty = false)
    (distance : address + target = other + source)
    (room : address + policy.room tensors ≤ UInt32.size)
    (otherRoom : other + otherPolicy.room tensors ≤ UInt32.size) :
    List.Forall₂ (Placed.Moved source target) (placedFrom policy address tensors)
      (placedFrom otherPolicy other tensors) := by
  have extents := Layout.Policy.extent_congr same
  induction tensors generalizing address other with
  | nil => exact .nil
  | cons tensor rest inductionHypothesis =>
      obtain ⟨here, others⟩ := List.forall_mem_cons.mp nonempty
      have positive := Layout.Policy.size_pos accepted here
      rw [Layout.Policy.room_cons] at room otherRoom
      rw [extents] at otherRoom
      rw [placedFrom, placedFrom, placedAt, placedAt, extents]
      refine .cons ⟨rfl, rfl, rfl, rfl, ?_⟩
        (inductionHypothesis others (by omega) (by omega) (by omega))
      show (UInt32.ofNat address).toNat + target = (UInt32.ofNat other).toNat + source
      rw [UInt32.toNat_ofNat_of_lt' (by omega), UInt32.toNat_ofNat_of_lt' (by omega), distance]

/-- Where inputs and results lie, and where they lie when they are moved. -/
structure Placement.Moved (source target : Nat) (first second : Placement) : Prop where
  inputs : List.Forall₂ (Placed.Moved source target) first.inputs second.inputs
  results : List.Forall₂ (Placed.Moved source target) first.results second.results

/-- The place of every source is moved. -/
theorem Placement.Moved.lookup
    {placement other : Placement}
    {place : Residency.Source}
    (moved : Placement.Moved source target placement other)
    (has : placement.Has place) :
    Placed.Moved source target (placement.lookup place) (other.lookup place) := by
  cases place with
  | input index => exact rel_getD moved.inputs has default default
  | stage index => exact rel_getD moved.results has default default

/-- What a stage reads is moved. -/
theorem Placement.Moved.inputsOf
    {placement other : Placement}
    {reads : Residency.Reads}
    {index : Nat}
    (moved : Placement.Moved source target placement other)
    (has : ∀ place ∈ (reads[index]?).getD [], placement.Has place) :
    List.Forall₂ (Placed.Moved source target) (Assembly.inputsOf placement reads index)
      (Assembly.inputsOf other reads index) := by
  unfold Assembly.inputsOf
  rw [List.forall₂_map_left_iff, List.forall₂_map_right_iff, List.forall₂_same]
  exact fun place member => moved.lookup (has place member)

end Places

namespace Draft

/-- Drafts that differ at most by moved addresses.  The registers that hold
addresses are given for each record. -/
structure Moved (source target : Nat) (addresses : Nat → List Name) (first second : Draft) :
    Prop where
  relocations : List.Forall₂ (Relocation.Moved source target) first.relocations
    second.relocations
  data : second.data = first.data
  length : second.records.length = first.records.length
  records : ∀ (index : Nat) (record other : Descriptor), first.records[index]? = some record →
    second.records[index]? = some other →
    Descriptor.Moved source target (addresses index) record other

variable {addresses : Nat → List Name} {first second firstNext secondNext : Draft}
  {alignment index : Nat}

/-- A blob goes to the same place in both drafts. -/
theorem addBlob_moved
    {kind : RelocationKind}
    {word : String}
    {blob : Bytes}
    {place otherPlace : ChannelData}
    (moved : Moved source target addresses first second)
    (notSurface : kind ≠ .surface)
    (added : first.addBlob alignment index kind word blob = .ok (place, firstNext))
    (otherAdded : second.addBlob alignment index kind word blob = .ok (otherPlace, secondNext)) :
    otherPlace = place ∧ Moved source target addresses firstNext secondNext := by
  unfold addBlob pushBlob at added otherAdded
  rw [moved.data] at otherAdded
  rw [Outcome.seq_eq_ok] at added otherAdded
  obtain ⟨⟨data, pushed⟩, push, equal⟩ := added
  obtain ⟨⟨otherData, otherPushed⟩, otherPush, otherEqual⟩ := otherAdded
  cases Outcome.pure_eq_ok.mp equal
  cases Outcome.pure_eq_ok.mp otherEqual
  dsimp only at push otherPush
  split at push
  · cases push
  next low =>
    rw [if_neg low] at otherPush
    split at push
    · cases push
    next short =>
      rw [if_neg short] at otherPush
      cases push
      cases otherPush
      exact ⟨rfl, List.rel_append moved.relocations (.cons (.refl notSurface _ _) .nil), rfl,
        moved.length, moved.records⟩

/-- So does a blob that may be missing. -/
theorem addOptional_moved
    {kind : RelocationKind}
    {word : String}
    {blob : Option Bytes}
    {place otherPlace : Option ChannelData}
    (moved : Moved source target addresses first second)
    (notSurface : kind ≠ .surface)
    (added : first.addOptional alignment index kind word blob = .ok (place, firstNext))
    (otherAdded : second.addOptional alignment index kind word blob =
      .ok (otherPlace, secondNext)) :
    otherPlace = place ∧ Moved source target addresses firstNext secondNext := by
  cases blob with
  | none =>
      cases added
      cases otherAdded
      exact ⟨rfl, moved⟩
  | some blob =>
      obtain ⟨⟨data, next⟩, add, equal⟩ := Outcome.map_eq_ok.mp added
      obtain ⟨⟨otherData, otherNext⟩, otherAdd, otherEqual⟩ := Outcome.map_eq_ok.mp otherAdded
      cases equal
      cases otherEqual
      obtain ⟨rfl, moved⟩ := addBlob_moved moved notSurface add otherAdd
      exact ⟨rfl, moved⟩

/-- Appending records that are moved keeps drafts moved. -/
theorem Moved.append
    {record other : Descriptor}
    (moved : Moved source target addresses first second)
    (here : Descriptor.Moved source target (addresses first.records.length) record other) :
    Moved source target addresses { first with records := first.records ++ [record] }
      { second with records := second.records ++ [other] } where
  relocations := moved.relocations
  data := moved.data
  length := by
    rw [List.length_append, List.length_append, moved.length]
    rfl
  records := by
    intro index one another present otherPresent
    rcases Nat.lt_trichotomy index first.records.length with before | equal | behind
    · have otherBefore : index < second.records.length := moved.length ▸ before
      rw [List.getElem?_append_left before] at present
      rw [List.getElem?_append_left otherBefore] at otherPresent
      exact moved.records index one another present otherPresent
    · subst equal
      rw [List.getElem?_concat_length] at present
      rw [← moved.length, List.getElem?_concat_length] at otherPresent
      cases present
      cases otherPresent
      exact here
    · have inside := (List.getElem?_eq_some_iff.mp present).1
      rw [List.length_append, List.length_singleton] at inside
      omega

/-- Adding a stage with moved operands and a moved result keeps drafts moved. -/
theorem addStage_moved
    {nodes : List Node}
    {inputs others : List Placed}
    {output other : Placed}
    {hints : Residency.StageHints}
    (positive : 0 < alignment)
    (moved : Moved source target addresses first second)
    (inputsMoved : List.Forall₂ (Placed.Moved source target) inputs others)
    (outputMoved : Placed.Moved source target output other)
    (listed : addresses first.records.length = addressNames inputs.length)
    (added : first.addStage alignment index nodes inputs output hints = .ok firstNext)
    (otherAdded : second.addStage alignment index nodes others other hints = .ok secondNext) :
    Moved source target addresses firstNext secondNext := by
  unfold addStage at added otherAdded
  simp only [Outcome.seq_eq_ok, Outcome.pure_eq_ok, addWeights_eq, addTable_eq,
    Outcome.map_eq_ok] at added otherAdded
  obtain ⟨⟨weights, withWeights⟩, addWeights, record, encoded, withTable,
    ⟨⟨table, _⟩, addTable, rfl⟩, rfl⟩ := added
  obtain ⟨⟨otherWeights, otherWithWeights⟩, otherAddWeights, otherRecord, otherEncoded,
    otherWithTable, ⟨⟨otherTable, _⟩, otherAddTable, rfl⟩, rfl⟩ := otherAdded
  -- The weights go to the same place, so both records are encoded with the same channels; the
  -- table then comes from the record, which only addresses tell apart.
  obtain ⟨rfl, weightsMoved⟩ := addOptional_moved moved (by decide) addWeights otherAddWeights
  have bindings : Binding.Moved source target ⟨inputs, output, otherWeights, hints⟩
      ⟨others, other, otherWeights, hints⟩ := ⟨inputsMoved, outputMoved, rfl, rfl⟩
  have recordMoved := encode_moved bindings encoded otherEncoded
  rw [recordMoved.lookup] at otherAddTable
  obtain ⟨-, tableMoved⟩ := addOptional_moved weightsMoved (by decide) addTable otherAddTable
  obtain ⟨-, -, -, -, weightsRecords⟩ := addOptional_eq_ok positive addWeights
  obtain ⟨-, -, -, -, tableRecords⟩ := addOptional_eq_ok positive addTable
  refine tableMoved.append ?_
  rw [tableRecords, weightsRecords, listed]
  exact recordMoved

end Draft

/-- Encoding stages with moved operands and moved results keeps drafts moved. -/
theorem encodeFrom_moved
    {network : Network}
    {placement other : Placement}
    {reads : Residency.Reads}
    {hints : List Residency.StageHints}
    {draft otherDraft final otherFinal : Draft}
    {alignment start : Nat}
    {stages : List Stage}
    (positive : 0 < alignment)
    (moved : Draft.Moved source target
      (fun index => addressNames (inputsOf placement reads index).length) draft otherDraft)
    (inputsMoved : ∀ index < start + stages.length,
      List.Forall₂ (Placed.Moved source target) (inputsOf placement reads index)
        (inputsOf other reads index))
    (resultsMoved : ∀ index < start + stages.length,
      Placed.Moved source target (placement.lookup (.stage index)) (other.lookup (.stage index)))
    (count : draft.records.length = start)
    (encoded : encodeFrom alignment network placement reads hints draft start stages = .ok final)
    (otherEncoded : encodeFrom alignment network other reads hints otherDraft start stages =
      .ok otherFinal) :
    Draft.Moved source target
      (fun index => addressNames (inputsOf placement reads index).length) final otherFinal := by
  induction stages generalizing draft otherDraft start with
  | nil =>
      cases encoded
      cases otherEncoded
      exact moved
  | cons stage rest inductionHypothesis =>
      rw [encodeFrom, Outcome.seq_eq_ok] at encoded otherEncoded
      obtain ⟨next, step, encoded⟩ := encoded
      obtain ⟨otherNext, otherStep, otherEncoded⟩ := otherEncoded
      rw [List.length_cons] at inputsMoved resultsMoved
      have here : start < start + (rest.length + 1) := by omega
      have nextMoved := Draft.addStage_moved positive moved (inputsMoved start here)
        (resultsMoved start here) (by rw [count]) step otherStep
      obtain ⟨weights, table, record, added⟩ := Draft.addStage_eq_ok positive step
      refine inductionHypothesis nextMoved (fun index inside => inputsMoved index (by omega))
        (fun index inside => resultsMoved index (by omega)) ?_ encoded otherEncoded
      rw [added.records, List.length_append, count]
      rfl

end Assembly
end TileProgram

/-!
## Programs are relocatable

The base address of a policy decides where surfaces lie and nothing else.  Two
programs of a network, assembled for different base addresses, therefore differ
by the distance of these in every address of device memory, and in nothing else.
Whether there is room depends on the base address only in that a lower one
leaves more of it.
-/

namespace TileProgram
namespace Assembly

open Network Stage Container Assignment Register

/-- Programs of a network that differ only in where surfaces lie.  In the record
of a stage the addresses are those of the operands that it reads from outside and
of its result. -/
structure Relocated (source target : Nat) (network : Network) (stages : List Stage)
    (first second : Container) : Prop where
  version : second.version = first.version
  flags : second.flags = first.flags
  data : second.data = first.data
  relocations : List.Forall₂ (Relocation.Moved source target) first.relocations
    second.relocations
  count : first.entries.length = stages.length ∧ second.entries.length = stages.length
  entries : ∀ (index : Nat) (stage : Stage), stages[index]? = some stage →
    ∃ entry other, first.entries[index]? = some entry ∧ second.entries[index]? = some other ∧
      other.offset = entry.offset ∧ other.next = entry.next ∧
      Descriptor.Moved source target (addressNames (outsideOperands network stage).length)
        entry.descriptor other.descriptor

variable {policy : Layout.Policy} {base : UInt32} {network : Network} {first second : Container}

namespace Run

variable (run : Run policy network first)
  (other : Run { policy with baseAddress := base } network second)

include run other

/-- Stages and what they read do not depend on the base address. -/
theorem stages_rebased : other.stages = run.stages ∧ other.reads = run.reads := by
  have planned := other.planned
  have read := other.read
  have stages : other.stages = run.stages := by
    rw [show Stage.plan policy.fusion network = .ok run.stages from run.planned] at planned
    exact (Except.ok.inj planned).symm
  rw [stages, run.read] at read
  exact ⟨stages, (Except.ok.inj read).symm⟩

theorem placement_rebased :
    Placement.Moved policy.baseAddress.toNat base.toNat run.placement other.placement := by
  obtain ⟨inputs, results, room⟩ := run.placement_eq
  obtain ⟨otherInputs, otherResults, otherRoom⟩ := other.placement_eq
  have rooms : Layout.Policy.room { policy with baseAddress := base } = policy.room :=
    Layout.Policy.room_congr rfl
  rw [(run.stages_rebased other).1] at otherResults otherRoom
  rw [rooms] at otherResults otherRoom
  dsimp only at otherInputs otherResults otherRoom
  have inputsFilled := (facts_of_validate run.valid).2.1
  have resultsFilled : ∀ tensor ∈ run.stages.map (resultTensor network),
      tensor.shape.isEmpty = false := by
    have nonempty := nonempty_of_placeNetwork run.accepted run.valid (grown_of_plan run.planned)
      run.placed
    obtain ⟨-, resultTensors, -, -⟩ := placeNetwork_eq_ok run.accepted run.placed
    intro tensor member
    rw [← resultTensors] at member
    obtain ⟨result, present, rfl⟩ := List.mem_map.mp member
    exact nonempty result (List.mem_append_right _ present)
  constructor
  · rw [inputs, otherInputs]
    exact placedFrom_moved run.accepted rfl inputsFilled (Nat.add_comm _ _) (by omega)
      (by rw [rooms]; omega)
  · rw [results, otherResults]
    exact placedFrom_moved run.accepted rfl resultsFilled (by omega) (by omega)
      (by rw [rooms]; omega)

/-- The drafts of both runs agree up to addresses. -/
theorem draft_rebased :
    Draft.Moved policy.baseAddress.toNat base.toNat
      (fun index => addressNames (inputsOf run.placement run.reads index).length)
      run.draft other.draft := by
  have places := run.placement_rebased other
  obtain ⟨stages, reads⟩ := run.stages_rebased other
  have otherEncoded := other.encoded
  rw [stages, reads] at otherEncoded
  refine encodeFrom_moved run.positive ?_ ?_ ?_ rfl run.encoded otherEncoded
  · refine ⟨rel_mapIdx places.inputs ?_, rfl, rfl, fun index record another present => ?_⟩
    · exact fun number one another moved => surfaceRelocation_moved moved "input" number
    · cases present
  · exact fun index _ => places.inputsOf fun place read => run.has_of_mem_reads read
  · intro index inside
    have inside : index < run.stages.length := by simpa using inside
    exact places.lookup (run.has_result inside)

/-- Linking records keeps them as they agree. -/
theorem linked_rebased
    {index : Nat}
    {stage : Stage}
    (present : run.stages[index]? = some stage) :
    ∃ record another, run.linked[index]? = some record ∧ other.linked[index]? = some another ∧
      Descriptor.Moved policy.baseAddress.toNat base.toNat
        (addressNames (outsideOperands network stage).length) record another := by
  have drafts := run.draft_rebased other
  obtain ⟨stages, reads⟩ := run.stages_rebased other
  obtain ⟨weights, record, changed, recordPresent, changedPresent, encoded, assigned, -⟩ :=
    run.toChained.record present
  obtain ⟨-, otherRecord, otherChanged, otherRecordPresent, otherChangedPresent, -, otherAssigned,
    -⟩ := other.toChained.record (stages ▸ present)
  have records := drafts.records index record otherRecord recordPresent otherRecordPresent
  obtain ⟨sources, found, surfaces⟩ :=
    (stageReads_eq_ok run.consecutive run.read).2 index stage present
  have operands : (inputsOf run.placement run.reads index).length =
      (outsideOperands network stage).length := by
    have lengths := congrArg List.length surfaces
    rw [List.length_map, List.length_map] at lengths
    rw [inputsOf, found, List.length_map, Option.getD_some, lengths]
  rw [operands] at records
  rw [stages] at otherAssigned
  refine ⟨changed, otherChanged, changedPresent, otherChangedPresent,
    records.assigned ?_ ?_ assigned otherAssigned⟩
  · rw [(lookup_of_encode encoded).1]
    exact Table.standard_separate
  · intro assignment member
    have headers : Within [.header, .common, .engine] (chainAssignments run.stages.length index) :=
      (within_chain _ _).mono (by decide)
    exact not_mem_addressNames_of_region (headers assignment member)

/-- The programs of both runs agree up to addresses. -/
theorem relocated :
    Relocated policy.baseAddress.toNat base.toNat network run.stages first second := by
  have drafts := run.draft_rebased other
  have places := run.placement_rebased other
  obtain ⟨stages, -⟩ := run.stages_rebased other
  obtain ⟨version, relocations, entries, data⟩ := run.container_eq
  obtain ⟨otherVersion, otherRelocations, otherEntries, otherData⟩ := other.container_eq
  have counts : other.linked.length = run.linked.length := by
    rw [other.length_linked, run.length_linked, stages]
  refine ⟨?_, ?_, ?_, ?_, ⟨run.length_entries, ?_⟩, ?_⟩
  · rw [version, otherVersion]
  · rw [ofRecords_flags run.made, ofRecords_flags other.made]
  · rw [data, otherData, drafts.data]
  · rw [relocations, otherRelocations]
    refine List.rel_append drafts.relocations ?_
    rw [outputRelocations_eq run.planned, outputRelocations_eq other.planned, stages]
    have unread : List.Forall₂ (fun one another => another = one ∧ one ∈ network.outputNodes)
        network.outputNodes network.outputNodes :=
      List.forall₂_same.mpr fun node member => ⟨rfl, member⟩
    refine rel_mapIdx unread ?_
    rintro number node another ⟨rfl, member⟩
    obtain ⟨producer, found⟩ := exists_producer_of_output run.planned member
    obtain ⟨stage, present, -⟩ := output_of_producer? found
    rw [found]
    exact surfaceRelocation_moved
      (places.lookup (run.has_result (List.getElem?_eq_some_iff.mp present).1)) "output" number
  · rw [other.length_entries, stages]
  · intro index stage present
    obtain ⟨record, another, recordPresent, anotherPresent, moved⟩ :=
      run.linked_rebased other present
    refine ⟨⟨recordOffset index, record, following? run.linked.length index⟩,
      ⟨recordOffset index, another, following? other.linked.length index⟩, ?_, ?_, rfl, ?_, moved⟩
    · rw [entries, List.getElem?_mapIdx, recordPresent]
      rfl
    · rw [otherEntries, List.getElem?_mapIdx, anotherPresent]
      rfl
    · rw [counts]

end Run

/-- A network has a placement for a lower base address if it has one. -/
theorem exists_placeNetwork_of_lower
    {stages : List Stage}
    {placement : Placement}
    (accepted : policy.validate = .ok ())
    (lower : policy.baseAddress ≤ base)
    (placed : placeNetwork { policy with baseAddress := base } network stages = .ok placement) :
    ∃ other, placeNetwork policy network stages = .ok other := by
  obtain ⟨power, -, -⟩ := Layout.Policy.alignments_of_validate accepted
  obtain ⟨next, last, inputsPlaced, resultsPlaced⟩ := placeNetwork_eq_ok_iff.mp placed
  rw [@placeAll_congr policy { policy with baseAddress := base } rfl] at inputsPlaced resultsPlaced
  have start : (Layout.Allocator.ofPolicy policy).alignment =
        (Layout.Allocator.ofPolicy { policy with baseAddress := base }).alignment ∧
      (Layout.Allocator.ofPolicy policy).next ≤
        (Layout.Allocator.ofPolicy { policy with baseAddress := base }).next :=
    ⟨rfl, UInt32.le_iff_toNat_le.mp lower⟩
  -- Placing the same tensors from a lower address on stays below the placement that succeeded.
  obtain ⟨inputs, middle, otherInputs, less, same⟩ :=
    exists_placeAll_of_sublist power start.1 start.2 (List.Sublist.refl _) inputsPlaced
  have alignment := (placeAll_eq_ok (Layout.pos_of_isPowerOfTwo power) inputsPlaced).2.2.2.2.2
  obtain ⟨results, final, otherResults, -, -⟩ :=
    exists_placeAll_of_sublist (alignment ▸ power) same less (List.Sublist.refl _) resultsPlaced
  exact ⟨⟨inputs, results⟩, placeNetwork_eq_ok_iff.mpr ⟨middle, final, otherInputs, otherResults⟩⟩

/-- What can be assembled for a base address can be assembled for a lower one. -/
theorem Assemblable.lower
    {stages : List Stage}
    (assemblable : Assemblable { policy with baseAddress := base } network stages)
    (accepted : policy.validate = .ok ())
    (lower : policy.baseAddress ≤ base) :
    Assemblable policy network stages := by
  obtain ⟨placement, placed⟩ := assemblable.placed
  exact ⟨accepted, assemblable.valid, assemblable.planned,
    exists_placeNetwork_of_lower accepted lower placed, assemblable.encodable,
    assemblable.packed, assemblable.tables, assemblable.few, assemblable.relocations⟩

/-- Programs are relocatable: those of a network for two base addresses differ
by the distance of these in every device address and in nothing else, and a
network that is assembled for the higher address is assembled for the lower one. -/
theorem relocatable
    (assembled : assemble { policy with baseAddress := base } network = .ok second) :
    (∀ first, assemble policy network = .ok first →
      ∃ stages, Stage.plan policy.fusion network = .ok stages ∧
        Relocated policy.baseAddress.toNat base.toNat network stages first second) ∧
      (policy.validate = .ok () → policy.baseAddress ≤ base →
        ∃ first, assemble policy network = .ok first) := by
  obtain ⟨other⟩ := exists_run assembled
  constructor
  · intro first success
    obtain ⟨run⟩ := exists_run success
    exact ⟨run.stages, run.planned, run.relocated other⟩
  · intro accepted lower
    exact exists_assemble_iff.mpr ⟨other.stages, other.assemblable.lower accepted lower⟩

/-- A network is assembled for two base addresses. -/
theorem blend_relocated :
    ∃ first second, assemble .standard blend = .ok first ∧
      assemble { Layout.Policy.standard with baseAddress := 0x1000 } blend = .ok second ∧
      ∃ stages, Stage.plan true blend = .ok stages ∧
        Relocated 0 0x1000 blend stages first second := by
  obtain ⟨second, assembled⟩ : ∃ second,
      assemble { Layout.Policy.standard with baseAddress := 0x1000 } blend = .ok second :=
    exists_assemble_iff.mpr (by decide +kernel)
  obtain ⟨differ, lower⟩ := relocatable assembled
  obtain ⟨first, success⟩ := lower rfl (by decide)
  exact ⟨first, second, success, assembled, differ first success⟩

end Assembly
end TileProgram
