import Mathlib.Data.List.Nodup
import Mathlib.Data.List.Perm.Subperm
import TileProgram.Proofs.Assembly.Chaining
import TileProgram.Proofs.Assembly.Draft
import TileProgram.Proofs.Assembly.Producers
import TileProgram.Proofs.Stage.Encodable
import TileProgram.Proofs.Stage.FoldOrder
import TileProgram.Proofs.Stage.Soundness

/-!
# What stages are encoded with

How the blobs of all stages are packed, and what is settled about the records
of a network before any stage is encoded.
-/

/-!
## Packing blobs

The blobs of all stages, each aligned, are packed one behind the other.  Blobs
that can be packed can be packed with some of them left out.  Stages are
encoded one after another exactly when their blobs can be packed and each of
them can be encoded.
-/

namespace TileProgram
namespace Assembly

open Network Stage Container

/-- The length of data of a given length after blobs have been packed behind it. -/
def packedLength (alignment : Nat) : Nat → List Bytes → Nat
  | length, [] => length
  | length, blob :: rest =>
      packedLength alignment (Layout.alignUp length alignment + blob.length) rest

/-- Blobs can be packed behind data of a given length. -/
def Packed (alignment : Nat) : Nat → List Bytes → Prop
  | _, [] => True
  | length, blob :: rest =>
      Layout.alignUp length alignment < UInt32.size ∧ blob.length < UInt32.size ∧
        Packed alignment (Layout.alignUp length alignment + blob.length) rest

instance decidablePacked (alignment : Nat) :
    (length : Nat) → (blobs : List Bytes) → Decidable (Packed alignment length blobs)
  | _, [] => inferInstanceAs (Decidable True)
  | length, blob :: rest =>
      have := decidablePacked alignment (Layout.alignUp length alignment + blob.length) rest
      inferInstanceAs (Decidable (_ ∧ _ ∧ _))

variable {alignment : Nat}

theorem packedLength_append (length : Nat) (first second : List Bytes) :
    packedLength alignment length (first ++ second) =
      packedLength alignment (packedLength alignment length first) second := by
  induction first generalizing length with
  | nil => rfl
  | cons blob rest inductionHypothesis => exact inductionHypothesis _

theorem packed_append {length : Nat} {first second : List Bytes} :
    Packed alignment length (first ++ second) ↔
      Packed alignment length first ∧
        Packed alignment (packedLength alignment length first) second := by
  induction first generalizing length with
  | nil => simp [Packed, packedLength]
  | cons blob rest inductionHypothesis =>
      rw [List.cons_append, Packed, Packed, packedLength, inductionHypothesis, and_assoc, and_assoc]

/-- Some of the blobs can be packed behind less data. -/
theorem Packed.mono
    {less more : Nat}
    {blobs fewer : List Bytes}
    (packed : Packed alignment more blobs)
    (power : Layout.isPowerOfTwo alignment = true)
    (le : less ≤ more)
    (sublist : fewer.Sublist blobs) :
    Packed alignment less fewer := by
  have positive := Layout.pos_of_isPowerOfTwo power
  induction sublist generalizing less more with
  | slnil => trivial
  | cons blob sublist inductionHypothesis =>
      obtain ⟨low, short, packed⟩ := packed
      have raised : more ≤ Layout.alignUp more alignment := Layout.le_alignUp positive
      exact inductionHypothesis packed (by omega)
  | cons_cons blob sublist inductionHypothesis =>
      obtain ⟨low, short, packed⟩ := packed
      have raised : Layout.alignUp less alignment ≤ Layout.alignUp more alignment :=
        Layout.alignUp_mono power le
      exact ⟨by omega, short, inductionHypothesis packed (by omega)⟩

namespace Draft

variable {draft next : Draft} {index : Nat}

/-- A blob is appended exactly when it can be packed. -/
theorem exists_addBlob_iff {kind : RelocationKind} {word : String} {blob : Bytes} :
    (∃ result, draft.addBlob alignment index kind word blob = .ok result) ↔
      Packed alignment draft.data.length [blob] := by
  simp only [addBlob, Packed, and_true, Outcome.seq_eq_ok, Outcome.pure_eq_ok]
  unfold pushBlob
  dsimp only
  constructor
  · rintro ⟨result, pushed, success, -⟩
    split at success
    · cases success
    next low =>
      split at success
      · cases success
      next short => exact ⟨Nat.lt_of_not_le low, Nat.lt_of_not_le short⟩
  · rintro ⟨low, short⟩
    rw [if_neg (Nat.not_le_of_lt low), if_neg (Nat.not_le_of_lt short)]
    exact ⟨_, _, rfl, rfl⟩

/-- The length of the data after a blob has been appended. -/
theorem length_addBlob
    {kind : RelocationKind}
    {word : String}
    {blob : Bytes}
    {place : ChannelData}
    (success : draft.addBlob alignment index kind word blob = .ok (place, next)) :
    next.data.length = packedLength alignment draft.data.length [blob] := by
  obtain ⟨-, -, rfl⟩ := addBlob_eq success
  show (draft.data.resize _ ++ blob).length = _
  rw [List.length_append, Bytes.length_resize]
  rfl

/-- A blob that may be missing is appended exactly when it can be packed. -/
theorem exists_addOptional_iff {kind : RelocationKind} {word : String} {blob : Option Bytes} :
    (∃ result, draft.addOptional alignment index kind word blob = .ok result) ↔
      Packed alignment draft.data.length blob.toList := by
  cases blob with
  | none => exact ⟨fun _ => trivial, fun _ => ⟨_, rfl⟩⟩
  | some blob =>
      rw [Option.toList_some, ← @exists_addBlob_iff alignment draft index kind word]
      simp only [addOptional, Outcome.map_eq_ok]
      constructor
      · rintro ⟨result, added, success, -⟩
        exact ⟨added, success⟩
      · rintro ⟨added, success⟩
        exact ⟨_, added, success, rfl⟩

theorem length_addOptional
    {kind : RelocationKind}
    {word : String}
    {blob : Option Bytes}
    {place : Option ChannelData}
    (success : draft.addOptional alignment index kind word blob = .ok (place, next)) :
    next.data.length = packedLength alignment draft.data.length blob.toList := by
  cases blob with
  | none =>
      cases success
      rfl
  | some blob =>
      obtain ⟨⟨data, added⟩, add, equal⟩ := Outcome.map_eq_ok.mp success
      cases equal
      exact length_addBlob add

end Draft

/-- The blobs of a stage: the weights of its first node, and its lookup table. -/
def blobsOf (nodes : List Node) : List Bytes :=
  (nodes.head?.bind weightBytes).toList ++ ((lookup? nodes).map LookupTable.toBytes).toList

/-- Nodes can be encoded as a stage with given tensors. -/
def CanEncode (nodes : List Node) (inputs : List Tensor) (output : Tensor) : Prop :=
  ∃ primary folded, nodes = primary :: folded ∧
    Encodable primary folded inputs output primary.weights.isSome

/-- A place is there exactly when the blob is. -/
theorem isSome_eq_of_rel
    {data : Bytes}
    {place : Option ChannelData}
    {blob : Option Bytes}
    (held : Option.Rel (Holds data) place blob) :
    place.isSome = blob.isSome := by
  cases held <;> rfl

namespace Draft

variable {draft next : Draft} {index : Nat} {nodes : List Node} {inputs : List Placed}
  {output : Placed} {hints : Residency.StageHints}

/-- What adding a stage does to the lengths of a draft. -/
theorem lengths_addStage
    (positive : 0 < alignment)
    (success : draft.addStage alignment index nodes inputs output hints = .ok next) :
    next.data.length = packedLength alignment draft.data.length (blobsOf nodes) ∧
      next.relocations.length = draft.relocations.length + (blobsOf nodes).length := by
  have sizes : ∀ {place : Option ChannelData} {blob : Option Bytes}, place.isSome = blob.isSome →
      place.toList.length = blob.toList.length := by
    intro place blob same
    cases place <;> cases blob <;> simp_all
  obtain ⟨weights, withWeights, record, table, added, addedWeights, encoded, appended, rfl⟩ :=
    addStage_steps success
  rw [(lookup_of_encode encoded).2.1] at appended
  obtain ⟨weightsHeld, -, -, weightsRelocations, -⟩ := addOptional_eq_ok positive addedWeights
  obtain ⟨tableHeld, -, -, tableRelocations, -⟩ := addOptional_eq_ok positive appended
  have weightsSize := sizes (isSome_eq_of_rel weightsHeld)
  have tableSize := sizes (isSome_eq_of_rel tableHeld)
  constructor
  · rw [blobsOf, packedLength_append, ← length_addOptional addedWeights,
      ← length_addOptional appended]
  · show added.relocations.length = _
    simp only [tableRelocations, weightsRelocations, blobsOf, List.length_append, blobRelocation,
      List.length_map, weightsSize, tableSize, Nat.add_assoc]

/-- A stage is added exactly when its blobs can be packed and it can be encoded. -/
theorem exists_addStage_iff
    (positive : 0 < alignment)
    (interleaved : ∀ input ∈ inputs, input.surface.interleave.toNat < 16)
    (outputInterleaved : output.surface.interleave.toNat < 16) :
    (∃ next, draft.addStage alignment index nodes inputs output hints = .ok next) ↔
      Packed alignment draft.data.length (blobsOf nodes) ∧
        CanEncode nodes (inputs.map Placed.tensor) output.tensor := by
  have weighted : ∀ {weights withWeights}, draft.addOptional alignment index .weight "weights"
      (nodes.head?.bind weightBytes) = .ok (weights, withWeights) →
      ∀ primary, nodes.head? = some primary → weights.isSome = primary.weights.isSome := by
    intro weights withWeights added primary first
    rw [isSome_eq_of_rel (addOptional_eq_ok positive added).1, first, Option.bind_some,
      weightBytes, Option.isSome_map]
  unfold addStage
  simp only [Outcome.seq_eq_ok, Outcome.pure_eq_ok, addWeights_eq, addTable_eq, blobsOf,
    packed_append]
  constructor
  · rintro ⟨next, ⟨weights, withWeights⟩, addedWeights, record, encoded, withTable, addedTable, -⟩
    rw [(lookup_of_encode encoded).2.1] at addedTable
    obtain ⟨added, addedTable, -⟩ := Outcome.map_eq_ok.mp addedTable
    refine ⟨⟨exists_addOptional_iff.mp ⟨_, addedWeights⟩, ?_⟩, ?_⟩
    · rw [← length_addOptional addedWeights]
      exact exists_addOptional_iff.mp ⟨_, addedTable⟩
    · obtain ⟨primary, folded, -, rfl, -⟩ := encode_eq_ok encoded
      refine ⟨primary, folded, rfl, ?_⟩
      rw [← weighted addedWeights primary rfl]
      exact (exists_encode_iff interleaved outputInterleaved).mp ⟨record, encoded⟩
  · rintro ⟨⟨weightsFit, tableFits⟩, primary, folded, rfl, encodable⟩
    obtain ⟨⟨weights, withWeights⟩, addedWeights⟩ := exists_addOptional_iff.mpr weightsFit
    rw [← weighted addedWeights primary rfl] at encodable
    obtain ⟨record, encoded⟩ := (@exists_encode_iff index primary folded
      ⟨inputs, output, weights, hints⟩ interleaved outputInterleaved).mpr encodable
    rw [← length_addOptional addedWeights] at tableFits
    obtain ⟨⟨table, withTable⟩, addedTable⟩ := exists_addOptional_iff.mpr tableFits
    refine ⟨_, ⟨weights, withWeights⟩, addedWeights, record, encoded, withTable, ?_, rfl⟩
    rw [(lookup_of_encode encoded).2.1, addedTable]
    rfl

end Draft

section Encoding

variable {network : Network} {placement : Placement} {reads : Residency.Reads}
  {hints : List Residency.StageHints} {draft final : Draft} {start : Nat}
  {stages : List Stage}

/-- The blobs of stages in order. -/
def stageBlobs (network : Network) (stages : List Stage) : List Bytes :=
  stages.flatMap fun stage => blobsOf (stage.nodesOf network)

/-- Encoding stages appends the relocations of their blobs. -/
theorem length_encodeFrom
    (positive : 0 < alignment)
    (success : encodeFrom alignment network placement reads hints draft start stages = .ok final) :
    final.relocations.length =
      draft.relocations.length + (stageBlobs network stages).length := by
  induction stages generalizing draft start with
  | nil =>
      cases success
      rfl
  | cons stage rest inductionHypothesis =>
      rw [encodeFrom, Outcome.seq_eq_ok] at success
      obtain ⟨next, step, success⟩ := success
      rw [inductionHypothesis success, (Draft.lengths_addStage positive step).2, stageBlobs,
        stageBlobs, List.flatMap_cons, List.length_append, Nat.add_assoc]

/-- Stages are encoded exactly when their blobs can be packed and each of them
can be encoded. -/
theorem exists_encodeFrom_iff
    (positive : 0 < alignment)
    (interleaved : ∀ source, (placement.lookup source).surface.interleave.toNat < 16) :
    (∃ final, encodeFrom alignment network placement reads hints draft start stages =
        .ok final) ↔
      Packed alignment draft.data.length (stageBlobs network stages) ∧
        ∀ (index : Nat) (stage : Stage), stages[index]? = some stage →
          CanEncode (stage.nodesOf network)
            ((inputsOf placement reads (start + index)).map Placed.tensor)
            (placement.lookup (.stage (start + index))).tensor := by
  induction stages generalizing draft start with
  | nil => simp [encodeFrom, stageBlobs, Packed]
  | cons stage rest inductionHypothesis =>
      have inputs : ∀ input ∈ inputsOf placement reads start,
          input.surface.interleave.toNat < 16 := by
        intro input member
        obtain ⟨source, -, rfl⟩ := List.mem_map.mp member
        exact interleaved source
      have here : ∀ {draft : Draft}, _ := fun {draft} =>
        @Draft.exists_addStage_iff alignment draft start (stage.nodesOf network)
          (inputsOf placement reads start) (placement.lookup (.stage start))
          ((hints[start]?).getD default) positive inputs (interleaved _)
      have shift : ∀ index, start + 1 + index = start + (index + 1) := by
        intro index
        omega
      simp only [encodeFrom, Outcome.seq_eq_ok]
      rw [stageBlobs, List.flatMap_cons, packed_append]
      constructor
      · rintro ⟨final, next, step, success⟩
        obtain ⟨packed, encodable⟩ := here.mp ⟨next, step⟩
        obtain ⟨rest, others⟩ := inductionHypothesis.mp ⟨final, success⟩
        rw [(Draft.lengths_addStage positive step).1] at rest
        refine ⟨⟨packed, rest⟩, ?_⟩
        intro index other present
        cases index with
        | zero =>
            cases present
            exact encodable
        | succ index =>
            rw [← shift]
            exact others index other present
      · rintro ⟨⟨packed, rest⟩, encodable⟩
        obtain ⟨next, step⟩ := here.mpr ⟨packed, encodable 0 stage rfl⟩
        rw [← (Draft.lengths_addStage positive step).1] at rest
        obtain ⟨final, success⟩ := inductionHypothesis.mpr ⟨rest, fun index other present => by
          rw [shift]
          exact encodable (index + 1) other present⟩
        exact ⟨final, next, step, success⟩

end Encoding
end Assembly
end TileProgram

/-!
## Prepared networks

Before any stage is encoded, the nodes of a network have been grouped, what the
stages read has been found, and every surface has been placed.  What can be
wrong with the record of a stage follows from this alone, whatever blobs and
hints it is encoded with and whether the other stages can be encoded: only its
lookup table can be missing.
-/

namespace TileProgram

namespace Stage

open Network

/-- At most one node of a stage has an activation, since nothing is folded behind it. -/
theorem Grown.length_active_le
    {network : Network}
    {stage : Stage}
    (grown : Grown network stage) :
    ((stage.nodesOf network).filter fun node => !node.activation.isNone).length ≤ 1 := by
  cases grown with
  | @single index inside =>
      have single : Stage.nodesOf ⟨index, []⟩ network = [network.nodes[index]] := by
        rw [nodesOf, nodes, List.filterMap_cons, List.getElem?_eq_getElem inside]
        rfl
      rw [single]
      exact List.length_filter_le _ _
  | @fold stage index node grown present behind folded =>
      have plain := (folds_eq_ok_true folded).1.plain
      have nodesEq : (stage.fold index).nodesOf network = stage.nodesOf network ++ [node] := by
        have appended : (stage.fold index).nodes = stage.nodes ++ [index] := rfl
        rw [nodesOf, appended, List.filterMap_append, List.filterMap_cons, present]
        rfl
      have before : (stage.nodesOf network).filter (fun node => !node.activation.isNone) = [] :=
        List.filter_eq_nil_iff.mpr fun member inside => by simp [plain member inside]
      rw [nodesEq, List.filter_append, before, List.nil_append]
      exact List.length_filter_le _ _

/-- A lookup table is missing exactly when the one node with an activation needs one and has no
samples. -/
theorem tableMissing_iff
    {nodes : List Node}
    (few : (nodes.filter fun node => !node.activation.isNone).length ≤ 1) :
    tableMissing nodes = true ↔
      ∃ node, (nodes.filter fun node => !node.activation.isNone) = [node] ∧
        node.activation.kind = .lut ∧ node.samples = none := by
  have tables : nodes.filterMap tableOf? =
      (nodes.filter fun node => !node.activation.isNone).filterMap tableOf? := by
    rw [List.filterMap_filter]
    apply List.filterMap_congr
    intro node _
    cases plain : node.activation.isNone with
    | true => simp [(plain_of_isNone plain).2]
    | false => simp
  rw [tableMissing, selected, lastActive?, lookup?, tables]
  cases active : nodes.filter fun node => !node.activation.isNone with
  | nil => simp [Activation.Kind.needsTable]
  | cons node rest =>
      rw [active, List.length_cons] at few
      have alone : rest = [] := List.eq_nil_of_length_eq_zero (by omega)
      subst alone
      simp only [List.getLast?_singleton, Option.map_some, Option.getD_some, tableOf?,
        List.filterMap_cons, List.filterMap_nil, List.cons.injEq, and_true, exists_eq_left',
        Bool.and_eq_true, Option.isNone_iff_eq_none]
      cases node.activation.kind <;> cases node.samples <;> simp [Activation.Kind.needsTable]

end Stage

namespace Assembly

open Network Stage Container Register

/-- The assignments that number and link a record are sound. -/
theorem sound_chain (count index : Nat) :
    ∀ assignment ∈ chainAssignments count index, assignment.Sound := by
  unfold chainAssignments
  split
  · simp [Descriptor.taskIdAssignments, Descriptor.nextAssignments, sound_unsigned, freeNames]
  · simp [Descriptor.taskIdAssignments, Descriptor.lastAssignments, sound_unsigned, freeNames]

/-- The intermediate results of an assembly up to the places of all surfaces. -/
structure Prepared (policy : Layout.Policy) (network : Network) where
  stages : List Stage
  reads : Residency.Reads
  placement : Placement
  accepted : policy.validate = .ok ()
  valid : network.validate = .ok ()
  planned : Stage.plan policy.fusion network = .ok stages
  read : stageReads network stages = .ok reads
  placed : placeNetwork policy network stages = .ok placement

namespace Prepared

variable {policy : Layout.Policy} {network : Network} (prepared : Prepared policy network)

/-- Where a stage finds its operands and puts its result. -/
def binding (index : Nat) (weights : Option ChannelData) (hints : Residency.StageHints) :
    Binding :=
  ⟨inputsOf prepared.placement prepared.reads index, prepared.placement.lookup (.stage index),
    weights, hints⟩

include prepared

theorem grown : ∀ stage ∈ prepared.stages, Grown network stage :=
  grown_of_plan prepared.planned

theorem length_reads : prepared.reads.length = prepared.stages.length :=
  (stageReads_eq_ok (plan_eq_ok prepared.planned).1 prepared.read).1

/-- What a stage reads has places. -/
theorem has_of_mem_reads
    {index : Nat}
    {source : Residency.Source}
    (member : source ∈ (prepared.reads[index]?).getD []) :
    prepared.placement.Has source := by
  have inside : index < prepared.stages.length := by
    rw [← prepared.length_reads]
    by_contra outside
    rw [List.getElem?_eq_none (Nat.le_of_not_lt outside)] at member
    cases member
  exact (inputsOf_eq prepared.accepted prepared.valid prepared.planned prepared.read
    prepared.placed (List.getElem?_eq_getElem inside)).2 source member

/-- The place of a result. -/
theorem has_result
    {index : Nat}
    (inside : index < prepared.stages.length) :
    prepared.placement.Has (.stage index) := by
  rw [← (lengths_of_placeNetwork prepared.accepted prepared.placed).2] at inside
  exact inside

/-- Results have different addresses of 32 bits, so there are few of them. -/
theorem length_stages_le : prepared.stages.length ≤ UInt32.size := by
  have distinct : ((List.range prepared.stages.length).map fun index =>
      (prepared.placement.lookup (.stage index)).surface.base.toNat).Nodup := by
    refine List.Nodup.map_on ?_ List.nodup_range
    intro first firstInside second secondInside equal
    have same := base_injective prepared.accepted prepared.valid prepared.grown prepared.placed
      (prepared.has_result (List.mem_range.mp firstInside))
      (prepared.has_result (List.mem_range.mp secondInside)) (UInt32.toNat_inj.mp equal)
    exact Residency.Source.stage.inj same
  have small : ((List.range prepared.stages.length).map fun index =>
      (prepared.placement.lookup (.stage index)).surface.base.toNat) ⊆
        List.range UInt32.size := by
    intro base present
    obtain ⟨index, -, rfl⟩ := List.mem_map.mp present
    exact List.mem_range.mpr (UInt32.toNat_lt _)
  have fits := (distinct.subperm small).length_le
  rwa [List.length_map, List.length_range, List.length_range] at fits

/-- The surface of a source has strides that a record may hold. -/
theorem aligned_lookup
    {source : Residency.Source}
    (has : prepared.placement.Has source) :
    (prepared.placement.lookup source).surface.strides.Aligned :=
  aligned_of_placeNetwork prepared.accepted prepared.valid prepared.grown prepared.placed _
    (Placement.lookup_mem has)

theorem aligned_inputs (index : Nat) :
    ∀ input ∈ inputsOf prepared.placement prepared.reads index,
      input.surface.strides.Aligned := by
  intro input member
  obtain ⟨source, read, rfl⟩ := List.mem_map.mp member
  exact prepared.aligned_lookup (prepared.has_of_mem_reads read)

section Encoded

variable {index : Nat} {stage : Stage} {weights : Option ChannelData}
  {hints : Residency.StageHints} {record : Descriptor}

/-- The record of a stage is valid unless its lookup table is missing. -/
theorem validate_encoded
    (present : prepared.stages[index]? = some stage)
    (encoded : Stage.encode index (stage.nodesOf network)
      (prepared.binding index weights hints) = .ok record) :
    record.validate =
      if tableMissing (stage.nodesOf network) then .error .missingTable else .ok () := by
  have inside := (List.getElem?_eq_some_iff.mp present).1
  obtain ⟨primary, folded, -, nodesEq, -⟩ := encode_eq_ok encoded
  rw [nodesEq] at encoded ⊢
  exact validate_of_encode (prepared.aligned_inputs index)
    (prepared.aligned_lookup (prepared.has_result inside)) encoded

/-- Nothing else can be wrong with the record of a stage. -/
theorem valid_or_missingTable
    (present : prepared.stages[index]? = some stage)
    (encoded : Stage.encode index (stage.nodesOf network)
      (prepared.binding index weights hints) = .ok record) :
    record.validate = .ok () ∨ record.validate = .error .missingTable := by
  rw [prepared.validate_encoded present encoded]
  split
  · exact Or.inr rfl
  · exact Or.inl rfl

/-- Numbering and linking a record does not change whether it is valid. -/
theorem validate_linked
    {count number : Nat}
    {changed : Descriptor}
    (present : prepared.stages[index]? = some stage)
    (encoded : Stage.encode index (stage.nodesOf network)
      (prepared.binding index weights hints) = .ok record)
    (assigned : record.assigned (chainAssignments count number) = .ok changed) :
    changed.validate = record.validate := by
  have inside := (List.getElem?_eq_some_iff.mp present).1
  have builtIn := (lookup_of_encode encoded).1
  have numbered := numbered_of_assigned builtIn assigned
  obtain ⟨primary, folded, -, nodesEq, -⟩ := encode_eq_ok encoded
  rw [nodesEq] at encoded
  have sound := sound_of_encode (prepared.aligned_inputs index)
    (prepared.aligned_lookup (prepared.has_result inside)) encoded
  have selects := activationKind_of_encode encoded
  have unchanged : changed.get Registers.activationKind = record.get Registers.activationKind :=
    numbered.unchanged _ (by decide)
  rw [(sound.assigned (builtIn ▸ Table.standard_separate) (sound_chain _ _) assigned).validate_eq
      (unchanged.trans selects), sound.validate_eq selects, numbered.lookup]

end Encoded
end Prepared
end Assembly
end TileProgram
