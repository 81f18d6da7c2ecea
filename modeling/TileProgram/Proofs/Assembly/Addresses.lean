import TileProgram.Proofs.Assembly.Placement
import TileProgram.Proofs.Layout.Allocator
import TileProgram.Proofs.Network.Validity
import TileProgram.Proofs.Stage.Folding

/-!
# Addresses of surfaces

Every input and every result has an address of its own, and strides that a
record may hold.  A placement that exists for some surfaces exists for fewer
of them, since surfaces are placed one after another.
-/

namespace TileProgram
namespace Assembly

open Network Stage

section Geometry

variable {policy : Layout.Policy} {allocator next : Layout.Allocator}

/-- A surface that is placed has the strides of its tensor, and none that was cut. -/
structure Shaped (policy : Layout.Policy) (placed : Placed) : Prop where
  fits : (policy.extent placed.tensor).size < UInt32.size
  strides : placed.surface.strides = (policy.extent placed.tensor).strides
  interleave : placed.surface.interleave = 1

theorem shaped_of_place
    {index : Nat}
    {tensor : Tensor}
    {placed : Placed}
    (success : place policy allocator index tensor = .ok (placed, next)) :
    Shaped policy placed := by
  obtain ⟨small, base, -, rfl⟩ := place_eq_ok_iff.mp success
  exact ⟨small, rfl, rfl⟩

theorem shaped_of_placeAll
    {items : List (Nat × Tensor)}
    {placed : List Placed}
    (success : placeAll policy allocator items = .ok (placed, next)) :
    ∀ one ∈ placed, Shaped policy one := by
  induction items generalizing allocator placed with
  | nil =>
      cases success
      simp
  | cons item rest inductionHypothesis =>
      obtain ⟨first, middle, others, firstPlaced, othersPlaced, rfl⟩ :=
        placeAll_cons_eq_ok_iff.mp success
      exact List.forall_mem_cons.mpr
        ⟨shaped_of_place firstPlaced, inductionHypothesis othersPlaced⟩

/-- An allocator that has handed out less places what another one places. -/
theorem exists_place_of_le
    {other : Layout.Allocator}
    {index : Nat}
    {tensor : Tensor}
    {placed : Placed}
    (power : Layout.isPowerOfTwo allocator.alignment = true)
    (same : other.alignment = allocator.alignment)
    (less : other.next ≤ allocator.next)
    (otherIndex : Nat)
    (success : place policy allocator index tensor = .ok (placed, next)) :
    ∃ otherPlaced otherNext, place policy other otherIndex tensor = .ok (otherPlaced, otherNext) ∧
      otherNext.next ≤ next.next ∧ otherNext.alignment = next.alignment := by
  obtain ⟨small, base, found, -⟩ := place_eq_ok_iff.mp success
  obtain ⟨otherBase, otherNext, otherFound, lessNext, sameNext⟩ :=
    Layout.Allocator.place?_of_le power same less found
  exact ⟨_, otherNext, place_eq_ok_iff.mpr ⟨small, otherBase, otherFound, rfl⟩, lessNext, sameNext⟩

/-- Placing depends on a policy only through the alignment of surfaces. -/
theorem placeAll_congr
    {otherPolicy : Layout.Policy}
    (same : otherPolicy.alignment = policy.alignment)
    (allocator : Layout.Allocator)
    (items : List (Nat × Tensor)) :
    placeAll otherPolicy allocator items = placeAll policy allocator items := by
  induction items generalizing allocator with
  | nil => rfl
  | cons item rest inductionHypothesis =>
      simp only [placeAll, place, Layout.Policy.extent_congr same, inductionHypothesis]

/-- Fewer surfaces are placed, and end no later, when an allocator has handed out less. -/
theorem exists_placeAll_of_sublist
    {other : Layout.Allocator}
    {items others : List (Nat × Tensor)}
    {placed : List Placed}
    (power : Layout.isPowerOfTwo allocator.alignment = true)
    (same : other.alignment = allocator.alignment)
    (less : other.next ≤ allocator.next)
    (sublist : (others.map Prod.snd).Sublist (items.map Prod.snd))
    (success : placeAll policy allocator items = .ok (placed, next)) :
    ∃ otherPlaced otherNext, placeAll policy other others = .ok (otherPlaced, otherNext) ∧
      otherNext.next ≤ next.next ∧ otherNext.alignment = next.alignment := by
  induction items generalizing allocator other others placed with
  | nil =>
      rw [List.map_nil, List.sublist_nil, List.map_eq_nil_iff] at sublist
      subst sublist
      cases success
      exact ⟨_, _, rfl, less, same⟩
  | cons item rest inductionHypothesis =>
      obtain ⟨index, tensor⟩ := item
      obtain ⟨first, middle, remaining, firstPlaced, othersPlaced, rfl⟩ :=
        placeAll_cons_eq_ok_iff.mp success
      obtain ⟨-, -, -, forward, alignment⟩ :=
        place_eq_ok (Layout.pos_of_isPowerOfTwo power) firstPlaced
      have power' : Layout.isPowerOfTwo middle.alignment = true := alignment ▸ power
      rcases List.sublist_cons_iff.mp sublist with skipped | ⟨tail, tailEq, fewer⟩
      · exact inductionHypothesis power' (same.trans alignment.symm) (by omega) skipped
          othersPlaced
      · obtain ⟨⟨otherIndex, otherTensor⟩, others, rfl, tensorEq, rfl⟩ :=
          List.map_eq_cons_iff.mp tailEq
        have tensorEq : otherTensor = tensor := tensorEq
        subst tensorEq
        obtain ⟨otherPlaced, otherNext, otherSuccess, lessNext, sameNext⟩ :=
          exists_place_of_le power same less otherIndex firstPlaced
        obtain ⟨remaining, final, remainingPlaced, lessFinal, sameFinal⟩ :=
          inductionHypothesis power' sameNext lessNext fewer othersPlaced
        refine ⟨otherPlaced :: remaining, final, ?_, lessFinal, sameFinal⟩
        exact placeAll_cons_eq_ok_iff.mpr
          ⟨otherPlaced, otherNext, remaining, otherSuccess, remainingPlaced, rfl⟩

end Geometry

section Networks

variable {policy : Layout.Policy} {network : Network} {stages : List Stage}
  {placement : Placement}

/-- The inputs and the results of a placement were placed one after another. -/
theorem placeNetwork_eq_ok_iff :
    placeNetwork policy network stages = .ok placement ↔
      ∃ next last, placeAll policy (Layout.Allocator.ofPolicy policy)
          (network.inputs.map fun tensor => (0, tensor)) = .ok (placement.inputs, next) ∧
        placeAll policy next
          (stages.mapIdx fun index stage => (index, resultTensor network stage)) =
            .ok (placement.results, last) := by
  unfold placeNetwork
  simp only [Outcome.seq_eq_ok, Outcome.pure_eq_ok]
  constructor
  · rintro ⟨⟨inputs, next⟩, inputsPlaced, ⟨results, last⟩, resultsPlaced, rfl⟩
    exact ⟨next, last, inputsPlaced, resultsPlaced⟩
  · rintro ⟨next, last, inputsPlaced, resultsPlaced⟩
    exact ⟨_, inputsPlaced, _, resultsPlaced, rfl⟩

/-- The tensors of results, with or without their indices. -/
theorem map_snd_results (network : Network) (stages : List Stage) :
    (stages.mapIdx fun index stage => (index, resultTensor network stage)).map Prod.snd =
      stages.map (resultTensor network) := by
  apply List.ext_getElem?
  intro index
  simp only [List.getElem?_map, List.getElem?_mapIdx, Option.map_map, Function.comp_def]

/-- The inputs are placed in the same way whatever the stages are. -/
theorem inputs_eq_of_placeNetwork
    {others : List Stage}
    {other : Placement}
    (success : placeNetwork policy network stages = .ok placement)
    (otherSuccess : placeNetwork policy network others = .ok other) :
    placement.inputs = other.inputs := by
  obtain ⟨next, last, placed, -⟩ := placeNetwork_eq_ok_iff.mp success
  obtain ⟨otherNext, otherLast, otherPlaced, -⟩ := placeNetwork_eq_ok_iff.mp otherSuccess
  rw [placed] at otherPlaced
  exact (Prod.mk.inj (Except.ok.inj otherPlaced)).1

/-- Stages with fewer results have a placement. -/
theorem exists_placeNetwork_of_sublist
    {others : List Stage}
    (accepted : policy.validate = .ok ())
    (sublist : (others.map (resultTensor network)).Sublist (stages.map (resultTensor network)))
    (success : placeNetwork policy network stages = .ok placement) :
    ∃ other, placeNetwork policy network others = .ok other := by
  obtain ⟨power, -, -⟩ := Layout.Policy.alignments_of_validate accepted
  obtain ⟨next, last, inputsPlaced, resultsPlaced⟩ := placeNetwork_eq_ok_iff.mp success
  obtain ⟨-, -, -, -, -, alignment⟩ :=
    placeAll_eq_ok (Layout.pos_of_isPowerOfTwo power) inputsPlaced
  have alignment : next.alignment = policy.alignment.toNat := alignment
  rw [← map_snd_results, ← map_snd_results] at sublist
  obtain ⟨results, final, othersPlaced, -, -⟩ := exists_placeAll_of_sublist (alignment ▸ power) rfl
    (Nat.le_refl _) sublist resultsPlaced
  exact ⟨⟨placement.inputs, results⟩,
    placeNetwork_eq_ok_iff.mpr ⟨next, final, inputsPlaced, othersPlaced⟩⟩

/-- The surfaces of a placement have the strides of their tensors. -/
theorem shaped_of_placeNetwork (success : placeNetwork policy network stages = .ok placement) :
    ∀ one ∈ placement.inputs ++ placement.results, Shaped policy one := by
  obtain ⟨next, last, inputsPlaced, resultsPlaced⟩ := placeNetwork_eq_ok_iff.mp success
  exact List.forall_mem_append.mpr
    ⟨shaped_of_placeAll inputsPlaced, shaped_of_placeAll resultsPlaced⟩

/-- No surface of a valid network is empty. -/
theorem nonempty_of_placeNetwork
    (accepted : policy.validate = .ok ())
    (valid : network.validate = .ok ())
    (grown : ∀ stage ∈ stages, Grown network stage)
    (success : placeNetwork policy network stages = .ok placement) :
    ∀ one ∈ placement.inputs ++ placement.results, one.tensor.shape.isEmpty = false := by
  obtain ⟨inputs, results, -, -⟩ := placeNetwork_eq_ok accepted success
  intro one member
  rcases List.mem_append.mp member with input | result
  · apply (facts_of_validate valid).2.1
    rw [← inputs]
    exact List.mem_map_of_mem input
  · have tensor := List.mem_map_of_mem (f := Placed.tensor) result
    rw [results] at tensor
    obtain ⟨stage, present, tensorEq⟩ := List.mem_map.mp tensor
    have inside := (grown stage present).lt_of_mem (output_mem_nodes stage)
    have found := List.getElem?_eq_getElem inside
    rw [← tensorEq, resultTensor, found]
    exact (accepted_of_validate valid found).2

/-- The surfaces of a valid network have strides that a record may hold. -/
theorem aligned_of_placeNetwork
    (accepted : policy.validate = .ok ())
    (valid : network.validate = .ok ())
    (grown : ∀ stage ∈ stages, Grown network stage)
    (success : placeNetwork policy network stages = .ok placement) :
    ∀ one ∈ placement.inputs ++ placement.results, one.surface.strides.Aligned := by
  intro one member
  have shaped := shaped_of_placeNetwork success one member
  rw [shaped.strides]
  exact Layout.Policy.aligned_strides accepted
    (nonempty_of_placeNetwork accepted valid grown success one member) shaped.fits

/-- The number of inputs and results of a placement. -/
theorem lengths_of_placeNetwork
    (accepted : policy.validate = .ok ())
    (success : placeNetwork policy network stages = .ok placement) :
    placement.inputs.length = network.inputs.length ∧
      placement.results.length = stages.length := by
  obtain ⟨inputs, results, -, -⟩ := placeNetwork_eq_ok accepted success
  have inputs := congrArg List.length inputs
  have results := congrArg List.length results
  rw [List.length_map] at inputs
  rw [List.length_map, List.length_map] at results
  exact ⟨inputs, results⟩

end Networks

namespace Placement

variable {placement : Placement}

/-- A placement has a place for a source. -/
def Has (placement : Placement) : Residency.Source → Prop
  | .input index => index < placement.inputs.length
  | .stage index => index < placement.results.length

/-- The position of a source among all inputs and results. -/
def position (placement : Placement) : Residency.Source → Nat
  | .input index => index
  | .stage index => placement.inputs.length + index

/-- The place of a source is at its position. -/
theorem getElem?_position {source : Residency.Source} (has : placement.Has source) :
    (placement.inputs ++ placement.results)[placement.position source]? =
      some (placement.lookup source) := by
  cases source with
  | input index =>
      have inside : index < placement.inputs.length := has
      rw [position, lookup, List.getElem?_append_left inside, List.getElem?_eq_getElem inside,
        Option.getD_some]
  | stage index =>
      have inside : index < placement.results.length := has
      rw [position, lookup, List.getElem?_append_right (Nat.le_add_right _ _),
        Nat.add_sub_cancel_left, List.getElem?_eq_getElem inside, Option.getD_some]

/-- The place of a source is one of the placement. -/
theorem lookup_mem {source : Residency.Source} (has : placement.Has source) :
    placement.lookup source ∈ placement.inputs ++ placement.results :=
  List.mem_of_getElem? (getElem?_position has)

/-- Sources have positions of their own. -/
theorem position_injective
    {first second : Residency.Source}
    (firstHas : placement.Has first)
    (secondHas : placement.Has second)
    (equal : placement.position first = placement.position second) :
    first = second := by
  cases first with
  | input firstIndex =>
      have firstInside : firstIndex < placement.inputs.length := firstHas
      cases second with
      | input secondIndex => exact congrArg _ equal
      | stage secondIndex =>
          have equal : firstIndex = placement.inputs.length + secondIndex := equal
          omega
  | stage firstIndex =>
      cases second with
      | input secondIndex =>
          have secondInside : secondIndex < placement.inputs.length := secondHas
          have equal : placement.inputs.length + firstIndex = secondIndex := equal
          omega
      | stage secondIndex =>
          exact congrArg _ (Nat.add_left_cancel equal)

end Placement

/-- No two sources of a valid network have the same address. -/
theorem base_injective
    {policy : Layout.Policy}
    {network : Network}
    {stages : List Stage}
    {placement : Placement}
    {first second : Residency.Source}
    (accepted : policy.validate = .ok ())
    (valid : network.validate = .ok ())
    (grown : ∀ stage ∈ stages, Grown network stage)
    (success : placeNetwork policy network stages = .ok placement)
    (firstHas : placement.Has first)
    (secondHas : placement.Has second)
    (equal : (placement.lookup first).surface.base = (placement.lookup second).surface.base) :
    first = second := by
  obtain ⟨-, -, sizes, ordered⟩ := placeNetwork_eq_ok accepted success
  have increasing : (placement.inputs ++ placement.results).Pairwise fun one other =>
      one.surface.base.toNat < other.surface.base.toNat := by
    refine ordered.imp_of_mem ?_
    intro one other member _ before
    have size := sizes one member
    have positive := Layout.Policy.size_pos accepted
      (nonempty_of_placeNetwork accepted valid grown success one member)
    unfold Before at before
    omega
  have position : ∀ {one other}, placement.Has one → placement.Has other →
      placement.position one < placement.position other →
      (placement.lookup one).surface.base ≠ (placement.lookup other).surface.base := by
    intro one other oneHas otherHas less same
    obtain ⟨oneInside, oneEq⟩ := List.getElem?_eq_some_iff.mp (Placement.getElem?_position oneHas)
    obtain ⟨otherInside, otherEq⟩ :=
      List.getElem?_eq_some_iff.mp (Placement.getElem?_position otherHas)
    have before := List.pairwise_iff_getElem.mp increasing _ _ oneInside otherInside less
    rw [oneEq, otherEq, same] at before
    exact absurd before (Nat.lt_irrefl _)
  rcases Nat.lt_trichotomy (placement.position first) (placement.position second) with
    less | same | more
  · exact absurd equal (position firstHas secondHas less)
  · exact Placement.position_injective firstHas secondHas same
  · exact absurd equal.symm (position secondHas firstHas more)

end Assembly
end TileProgram
