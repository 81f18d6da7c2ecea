import Mathlib.Algebra.Group.Nat.Defs
import TileProgram.Proofs.Assembly.RoundTrip

/-!
# Where blobs begin

Weights and lookup tables lie in the data section where packing puts them: each
begins at the first multiple of the weight alignment behind the one before.  The
alignment of a policy that is accepted is any power of two, so blobs begin at
multiples of the alignment of the data section only when the weight alignment is
such a multiple itself.
-/

namespace TileProgram
namespace Assembly

open Network Stage Container

/-!
## Packed places

One step places the blobs of one stage; the places of a program follow from it.
-/

/-- The offsets and sizes of blobs that are packed behind data of a given length. -/
def packedPlaces (alignment : Nat) : Nat → List Bytes → List (Nat × Nat)
  | _, [] => []
  | length, blob :: rest =>
      (Layout.alignUp length alignment, blob.length) ::
        packedPlaces alignment (Layout.alignUp length alignment + blob.length) rest

variable {alignment : Nat}

theorem packedPlaces_append (length : Nat) (first second : List Bytes) :
    packedPlaces alignment length (first ++ second) =
      packedPlaces alignment length first ++
        packedPlaces alignment (packedLength alignment length first) second := by
  induction first generalizing length with
  | nil => rfl
  | cons blob rest inductionHypothesis =>
      rw [List.cons_append, packedPlaces, inductionHypothesis]
      rfl

/-- The offset and the size that a relocation gives. -/
def placeOf (relocation : Relocation) : Nat × Nat :=
  (relocation.offset.toNat, relocation.size.toNat)

/-- A relocation is that of weights or of a lookup table. -/
def locatesBlob (relocation : Relocation) : Bool :=
  relocation.kind == .weight || relocation.kind == .lookupTable

/-- The relocations of weights and of lookup tables, in order. -/
def blobRelocations (relocations : List Relocation) : List Relocation :=
  relocations.filter locatesBlob

theorem blobRelocations_append (first second : List Relocation) :
    blobRelocations (first ++ second) = blobRelocations first ++ blobRelocations second :=
  List.filter_append ..

/-- Surfaces are no blobs. -/
theorem blobRelocations_eq_nil
    {relocations : List Relocation}
    (surfaces : ∀ relocation ∈ relocations, relocation.kind = .surface) :
    blobRelocations relocations = [] := by
  rw [blobRelocations, List.filter_eq_nil_iff]
  intro relocation present
  rw [locatesBlob, surfaces relocation present]
  decide

/-- Relocations that are added for blobs locate them where packing puts them. -/
structure Locates (alignment length : Nat) (blobs : List Bytes) (added : List Relocation) :
    Prop where
  kinds : ∀ relocation ∈ added, locatesBlob relocation = true
  places : added.map placeOf = packedPlaces alignment length blobs

theorem Locates.append
    {length : Nat}
    {first second : List Bytes}
    {added more : List Relocation}
    (earlier : Locates alignment length first added)
    (later : Locates alignment (packedLength alignment length first) second more) :
    Locates alignment length (first ++ second) (added ++ more) := by
  refine ⟨?_, ?_⟩
  · intro relocation present
    exact (List.mem_append.mp present).elim (earlier.kinds relocation) (later.kinds relocation)
  · rw [List.map_append, earlier.places, later.places, packedPlaces_append]

namespace Draft

variable {draft next : Draft} {index : Nat}

/-- A blob that may be missing is put behind the data there was, and its relocation says so. -/
theorem locates_addOptional
    {kind : RelocationKind}
    {word : String}
    {blob : Option Bytes}
    {place : Option ChannelData}
    (ofBlobs : kind = .weight ∨ kind = .lookupTable)
    (success : draft.addOptional alignment index kind word blob = .ok (place, next)) :
    Locates alignment draft.data.length blob.toList (blobRelocation kind word index place) := by
  cases blob with
  | none =>
      cases success
      exact ⟨by simp [blobRelocation], rfl⟩
  | some blob =>
      obtain ⟨⟨data, added⟩, add, equal⟩ := Outcome.map_eq_ok.mp success
      cases equal
      obtain ⟨offset, length, -⟩ := addBlob_eq add
      refine ⟨?_, ?_⟩
      · intro relocation present
        obtain ⟨_, -, rfl⟩ := mem_blobRelocation.mp present
        rcases ofBlobs with rfl | rfl <;> rfl
      · show [placeOf (Relocation.ofBlob kind index _ data)] = _
        rw [placeOf, ofBlob_offset, ofBlob_size, offset, length]
        rfl

/-- Adding a stage locates its blobs. -/
theorem locates_addStage
    {nodes : List Node}
    {inputs : List Placed}
    {output : Placed}
    {hints : Residency.StageHints}
    (positive : 0 < alignment)
    (success : draft.addStage alignment index nodes inputs output hints = .ok next) :
    ∃ added, next.relocations = draft.relocations ++ added ∧
      Locates alignment draft.data.length (blobsOf nodes) added := by
  obtain ⟨weights, withWeights, record, table, added, addedWeights, encoded, appended, rfl⟩ :=
    addStage_steps success
  rw [(lookup_of_encode encoded).2.1] at appended
  obtain ⟨-, -, -, weightsRelocations, -⟩ := addOptional_eq_ok positive addedWeights
  obtain ⟨-, -, -, tableRelocations, -⟩ := addOptional_eq_ok positive appended
  refine ⟨blobRelocation .weight "weights" index weights ++
    blobRelocation .lookupTable "lut" index table, ?_, ?_⟩
  · show added.relocations = _
    rw [tableRelocations, weightsRelocations, List.append_assoc]
  · refine (locates_addOptional (.inl rfl) addedWeights).append ?_
    rw [← length_addOptional addedWeights]
    exact locates_addOptional (.inr rfl) appended

end Draft

/-- Encoding stages locates the blobs of all of them. -/
theorem locates_encodeFrom
    {network : Network}
    {placement : Placement}
    {reads : Residency.Reads}
    {hints : List Residency.StageHints}
    {draft final : Draft}
    {start : Nat}
    {stages : List Stage}
    (positive : 0 < alignment)
    (success : encodeFrom alignment network placement reads hints draft start stages = .ok final) :
    ∃ added, final.relocations = draft.relocations ++ added ∧
      Locates alignment draft.data.length (stageBlobs network stages) added := by
  induction stages generalizing draft start with
  | nil =>
      cases success
      exact ⟨[], (List.append_nil _).symm, by simp, rfl⟩
  | cons stage rest inductionHypothesis =>
      rw [encodeFrom, Outcome.seq_eq_ok] at success
      obtain ⟨next, step, success⟩ := success
      obtain ⟨added, relocations, here⟩ := Draft.locates_addStage positive step
      obtain ⟨more, others, later⟩ := inductionHypothesis success
      rw [(Draft.lengths_addStage positive step).1] at later
      refine ⟨added ++ more, ?_, ?_⟩
      · rw [others, relocations, List.append_assoc]
      · rw [stageBlobs, List.flatMap_cons]
        exact here.append later

/-!
## Places in programs
-/

variable {policy : Layout.Policy} {network : Network} {container : Container}

/-- The blobs of a program lie where packing the blobs of its stages puts them. -/
theorem Run.places_eq (run : Run policy network container) :
    (blobRelocations container.relocations).map placeOf =
      packedPlaces policy.weightAlignment.toNat 0 (stageBlobs network run.stages) := by
  obtain ⟨-, relocations, -, -⟩ := run.container_eq
  obtain ⟨added, drafted, located⟩ := locates_encodeFrom run.positive run.encoded
  have inputs : blobRelocations (inputRelocations run.placement) = [] :=
    blobRelocations_eq_nil fun _ => kind_of_mem_inputs
  have outputs : blobRelocations (outputRelocations network run.stages run.placement) = [] := by
    refine blobRelocations_eq_nil ?_
    intro relocation present
    obtain ⟨number, placed, rfl⟩ := mem_outputRelocations present
    rfl
  have blobs : blobRelocations added = added := List.filter_eq_self.mpr located.kinds
  rw [relocations, blobRelocations_append, drafted, blobRelocations_append, inputs, outputs, blobs,
    List.nil_append, List.append_nil]
  exact located.places

/-- The standard policy with another alignment of weights. -/
def packing (alignment : UInt32) : Layout.Policy :=
  { Layout.Policy.standard with weightAlignment := alignment }

end Assembly
end TileProgram
