import Mathlib.Data.List.Pairwise
import TileProgram.Assembly
import TileProgram.Proofs.Layout.Allocator

/-!
# Where surfaces are placed

The inputs of a network and the results of its stages are placed one after
another, each with the size that the policy gives to its tensor.  So no two of
them have a byte in common.
-/

namespace TileProgram
namespace Assembly

open Network Stage

/-- A surface ends before another one begins. -/
def Before (first second : Placed) : Prop :=
  first.surface.base.toNat + first.size.toNat ≤ second.surface.base.toNat

variable {policy : Layout.Policy} {allocator next : Layout.Allocator}

/-- How a tensor is placed: its size fits, and there is room for it. -/
theorem place_eq_ok_iff
    {index : Nat}
    {tensor : Tensor}
    {placed : Placed} :
    place policy allocator index tensor = .ok (placed, next) ↔
      (policy.extent tensor).size < UInt32.size ∧
        ∃ base, allocator.place? (policy.extent tensor).size = some (base, next) ∧
          placed = ⟨tensor, ⟨base, (policy.extent tensor).strides, 1⟩,
            UInt32.ofNat (policy.extent tensor).size⟩ := by
  unfold place
  dsimp only
  constructor
  · intro success
    split at success
    · next small =>
      split at success
      · cases success
      · next base later found =>
        cases success
        exact ⟨small, base, found, rfl⟩
    · cases success
  · rintro ⟨small, base, found, rfl⟩
    rw [if_pos small, found]

/-- Tensors are placed one after another. -/
theorem placeAll_cons_eq_ok_iff
    {item : Nat × Tensor}
    {rest : List (Nat × Tensor)}
    {placed : List Placed} :
    placeAll policy allocator (item :: rest) = .ok (placed, next) ↔
      ∃ first middle others, place policy allocator item.1 item.2 = .ok (first, middle) ∧
        placeAll policy middle rest = .ok (others, next) ∧ placed = first :: others := by
  rw [placeAll]
  simp only [Outcome.seq_eq_ok, Outcome.pure_eq_ok]
  constructor
  · rintro ⟨⟨first, middle⟩, firstPlaced, ⟨others, last⟩, othersPlaced, equal⟩
    cases equal
    exact ⟨first, middle, others, firstPlaced, othersPlaced, rfl⟩
  · rintro ⟨first, middle, others, firstPlaced, othersPlaced, rfl⟩
    exact ⟨(first, middle), firstPlaced, (others, next), othersPlaced, rfl⟩

/-- A tensor is placed at the first free address with the size that the policy
gives to it. -/
theorem place_eq_ok
    {index : Nat}
    {tensor : Tensor}
    {placed : Placed}
    (positive : 0 < allocator.alignment)
    (success : place policy allocator index tensor = .ok (placed, next)) :
    placed.tensor = tensor ∧ placed.size.toNat = (policy.extent tensor).size ∧
      placed.surface.base.toNat = allocator.next ∧
      allocator.next + placed.size.toNat ≤ next.next ∧
      next.alignment = allocator.alignment := by
  obtain ⟨small, base, found, rfl⟩ := place_eq_ok_iff.mp success
  obtain ⟨baseEq, room, alignment⟩ := Layout.Allocator.place?_eq_some positive found
  have sizeEq : (UInt32.ofNat (policy.extent tensor).size).toNat = (policy.extent tensor).size :=
    UInt32.toNat_ofNat_of_lt' small
  exact ⟨rfl, sizeEq, baseEq, by rwa [sizeEq], alignment⟩

/-- Tensors that are placed one after another lie one behind the other. -/
theorem placeAll_eq_ok
    {items : List (Nat × Tensor)}
    {placed : List Placed}
    (positive : 0 < allocator.alignment)
    (success : placeAll policy allocator items = .ok (placed, next)) :
    placed.map Placed.tensor = items.map Prod.snd ∧
      (∀ one ∈ placed, one.size.toNat = (policy.extent one.tensor).size) ∧
      placed.Pairwise Before ∧
      (∀ one ∈ placed, allocator.next ≤ one.surface.base.toNat ∧
        one.surface.base.toNat + one.size.toNat ≤ next.next) ∧
      allocator.next ≤ next.next ∧ next.alignment = allocator.alignment := by
  induction items generalizing allocator placed with
  | nil =>
      cases success
      simp
  | cons item rest inductionHypothesis =>
      obtain ⟨first, middle, others, firstPlaced, othersPlaced, rfl⟩ :=
        placeAll_cons_eq_ok_iff.mp success
      obtain ⟨tensorEq, sizeEq, baseEq, room, alignment⟩ := place_eq_ok positive firstPlaced
      obtain ⟨tensors, sizes, ordered, inside, forward, kept⟩ :=
        inductionHypothesis (alignment ▸ positive) othersPlaced
      refine ⟨?_, ?_, ?_, ?_, by omega, kept.trans alignment⟩
      · rw [List.map_cons, List.map_cons, tensors, tensorEq]
      · exact List.forall_mem_cons.mpr ⟨by rw [sizeEq, tensorEq], sizes⟩
      · refine List.pairwise_cons.mpr ⟨?_, ordered⟩
        intro one present
        have := (inside one present).1
        unfold Before
        omega
      · refine List.forall_mem_cons.mpr ⟨by omega, ?_⟩
        intro one present
        have := inside one present
        omega

/-- Inputs and results keep their tensors, have the sizes of the policy and lie
one behind the other. -/
theorem placeNetwork_eq_ok
    {network : Network}
    {stages : List Stage}
    {placement : Placement}
    (accepted : policy.validate = .ok ())
    (success : placeNetwork policy network stages = .ok placement) :
    placement.inputs.map Placed.tensor = network.inputs ∧
      placement.results.map Placed.tensor = stages.map (resultTensor network) ∧
      (∀ one ∈ placement.inputs ++ placement.results,
        one.size.toNat = (policy.extent one.tensor).size) ∧
      (placement.inputs ++ placement.results).Pairwise Before := by
  unfold placeNetwork at success
  simp only [Outcome.seq_eq_ok, Outcome.pure_eq_ok] at success
  obtain ⟨⟨inputs, middle⟩, inputsPlaced, ⟨results, last⟩, resultsPlaced, equal⟩ := success
  dsimp only at inputsPlaced resultsPlaced equal
  cases equal
  have positive := (Layout.Policy.alignments_pos accepted).1
  obtain ⟨inputTensors, inputSizes, inputsOrdered, inputsInside, -, alignment⟩ :=
    placeAll_eq_ok (show 0 < (Layout.Allocator.ofPolicy policy).alignment from positive)
      inputsPlaced
  obtain ⟨resultTensors, resultSizes, resultsOrdered, resultsInside, -, -⟩ :=
    placeAll_eq_ok (alignment ▸ positive) resultsPlaced
  refine ⟨?_, ?_, ?_, ?_⟩
  · rw [inputTensors, List.map_map]
    exact List.map_id _
  · rw [resultTensors]
    apply List.ext_getElem?
    intro index
    simp only [List.getElem?_map, List.getElem?_mapIdx, Option.map_map, Function.comp_def]
  · intro one present
    rcases List.mem_append.mp present with input | result
    · exact inputSizes one input
    · exact resultSizes one result
  · refine List.pairwise_append.mpr ⟨inputsOrdered, resultsOrdered, ?_⟩
    intro input inputPresent result resultPresent
    have := (inputsInside input inputPresent).2
    have := (resultsInside result resultPresent).1
    unfold Before
    omega

end Assembly
end TileProgram
