import TileProgram.Proofs.Assembly.Addresses

/-!
# Surfaces lie side by side

The padded size of a tensor is a multiple of the alignment, and so is the base
address of a policy.  Each surface therefore begins right where the one before
it ends: its address is the base address and the padded sizes of the tensors
before it, first the inputs and then the results of the stages.
-/

namespace TileProgram

namespace Layout

namespace Policy

variable {policy : Policy}

/-- The padded sizes of tensors, all together. -/
def room (policy : Policy) : List Tensor → Nat
  | [] => 0
  | tensor :: rest => (policy.extent tensor).size + policy.room rest

@[simp] theorem room_nil (policy : Policy) : policy.room [] = 0 := rfl

@[simp] theorem room_cons (policy : Policy) (tensor : Tensor) (rest : List Tensor) :
    policy.room (tensor :: rest) = (policy.extent tensor).size + policy.room rest := rfl

/-- Of a policy only the alignment decides how much room tensors take. -/
theorem room_congr
    {other : Policy}
    (same : other.alignment = policy.alignment) :
    other.room = policy.room := by
  funext tensors
  induction tensors with
  | nil => rfl
  | cons tensor rest inductionHypothesis =>
      rw [room_cons, room_cons, extent_congr same, inductionHypothesis]

/-- A tensor has its room behind the tensors before it. -/
theorem room_take_add_le
    {tensors : List Tensor}
    {tensor : Tensor}
    {index : Nat}
    (policy : Policy)
    (present : tensors[index]? = some tensor) :
    policy.room (tensors.take index) + (policy.extent tensor).size ≤ policy.room tensors := by
  induction tensors generalizing index with
  | nil => cases present
  | cons first rest inductionHypothesis =>
      cases index with
      | zero =>
          cases present
          rw [List.take_zero, room_nil, room_cons]
          omega
      | succ index =>
          have later := inductionHypothesis present
          rw [List.take_succ_cons, room_cons, room_cons]
          omega

theorem dvd_room (accepted : policy.validate = .ok ()) (tensors : List Tensor) :
    policy.alignment.toNat ∣ policy.room tensors := by
  induction tensors with
  | nil => exact Nat.dvd_zero _
  | cons tensor rest inductionHypothesis =>
      rw [room_cons]
      exact Nat.dvd_add (dvd_size accepted tensor) inductionHypothesis

end Policy
end Layout

namespace Assembly

open Network Stage

/-- A tensor that is placed at an address. -/
def placedAt (policy : Layout.Policy) (address : Nat) (tensor : Tensor) : Placed :=
  ⟨tensor, ⟨UInt32.ofNat address, (policy.extent tensor).strides, 1⟩,
    UInt32.ofNat (policy.extent tensor).size⟩

/-- Tensors that are placed side by side from an address on. -/
def placedFrom (policy : Layout.Policy) (address : Nat) : List Tensor → List Placed
  | [] => []
  | tensor :: rest =>
      placedAt policy address tensor ::
        placedFrom policy (address + (policy.extent tensor).size) rest

variable {policy : Layout.Policy} {allocator next : Layout.Allocator}

/-- Each of them begins behind those before it. -/
theorem getElem?_placedFrom (address : Nat) (tensors : List Tensor) (index : Nat) :
    (placedFrom policy address tensors)[index]? = tensors[index]?.map fun tensor =>
      placedAt policy (address + policy.room (tensors.take index)) tensor := by
  induction tensors generalizing address index with
  | nil => rfl
  | cons tensor rest inductionHypothesis =>
      cases index with
      | zero => rfl
      | succ index =>
          rw [placedFrom, List.getElem?_cons_succ, inductionHypothesis, List.getElem?_cons_succ,
            List.take_succ_cons, Layout.Policy.room_cons, Nat.add_assoc]

/-- From an aligned address on a tensor is placed right there and takes its padded size. -/
theorem place_aligned
    {index : Nat}
    {tensor : Tensor}
    {placed : Placed}
    (accepted : policy.validate = .ok ())
    (nonempty : tensor.shape.isEmpty = false)
    (alignment : allocator.alignment = policy.alignment.toNat)
    (aligned : policy.alignment.toNat ∣ allocator.next)
    (success : place policy allocator index tensor = .ok (placed, next)) :
    placed = placedAt policy allocator.next tensor ∧
      next = { allocator with next := allocator.next + (policy.extent tensor).size } ∧
      next.next ≤ UInt32.size := by
  -- The padded size is positive and keeps the next address aligned, so nothing is raised.
  have positive := Layout.Policy.size_pos accepted nonempty
  have least : max (policy.extent tensor).size 1 = (policy.extent tensor).size :=
    Nat.max_eq_left positive
  have raised : Layout.alignUp (allocator.next + (policy.extent tensor).size)
      policy.alignment.toNat = allocator.next + (policy.extent tensor).size :=
    Layout.alignUp_of_dvd (Layout.Policy.alignments_of_validate accepted).1
      (Nat.dvd_add aligned (Layout.Policy.dvd_size accepted tensor))
  obtain ⟨-, base, found, rfl⟩ := place_eq_ok_iff.mp success
  unfold Layout.Allocator.place? at found
  dsimp only at found
  rw [least, alignment, raised] at found
  split at found
  next room =>
    cases found
    exact ⟨rfl, by rw [alignment], room.2⟩
  · cases found

/-- From an aligned address on tensors are placed side by side. -/
theorem placeAll_aligned
    {items : List (Nat × Tensor)}
    {placed : List Placed}
    (accepted : policy.validate = .ok ())
    (nonempty : ∀ item ∈ items, item.2.shape.isEmpty = false)
    (alignment : allocator.alignment = policy.alignment.toNat)
    (aligned : policy.alignment.toNat ∣ allocator.next)
    (inside : allocator.next ≤ UInt32.size)
    (success : placeAll policy allocator items = .ok (placed, next)) :
    placed = placedFrom policy allocator.next (items.map Prod.snd) ∧
      next = { allocator with next := allocator.next + policy.room (items.map Prod.snd) } ∧
      next.next ≤ UInt32.size := by
  induction items generalizing allocator placed with
  | nil =>
      cases success
      exact ⟨rfl, rfl, inside⟩
  | cons item rest inductionHypothesis =>
      obtain ⟨index, tensor⟩ := item
      obtain ⟨here, others⟩ := List.forall_mem_cons.mp nonempty
      obtain ⟨first, middle, later, firstPlaced, laterPlaced, rfl⟩ :=
        placeAll_cons_eq_ok_iff.mp success
      obtain ⟨rfl, rfl, fits⟩ := place_aligned accepted here alignment aligned firstPlaced
      have alignedNext := Nat.dvd_add aligned (Layout.Policy.dvd_size accepted tensor)
      obtain ⟨rfl, rfl, room⟩ :=
        @inductionHypothesis ⟨allocator.next + (policy.extent tensor).size, allocator.alignment⟩
          later others alignment alignedNext fits laterPlaced
      refine ⟨rfl, ?_, room⟩
      rw [List.map_cons, Layout.Policy.room_cons, Nat.add_assoc]

/-- The inputs of a network lie side by side from the base address on, and the
results of its stages behind them. -/
theorem placement_eq
    {network : Network}
    {stages : List Stage}
    {placement : Placement}
    (accepted : policy.validate = .ok ())
    (valid : network.validate = .ok ())
    (grown : ∀ stage ∈ stages, Grown network stage)
    (placed : placeNetwork policy network stages = .ok placement) :
    placement.inputs = placedFrom policy policy.baseAddress.toNat network.inputs ∧
      placement.results = placedFrom policy
        (policy.baseAddress.toNat + policy.room network.inputs)
        (stages.map (resultTensor network)) ∧
      policy.baseAddress.toNat + policy.room network.inputs +
        policy.room (stages.map (resultTensor network)) ≤ UInt32.size := by
  obtain ⟨next, last, inputsPlaced, resultsPlaced⟩ := placeNetwork_eq_ok_iff.mp placed
  have nonempty := nonempty_of_placeNetwork accepted valid grown placed
  obtain ⟨inputTensors, resultTensors, -, -⟩ := placeNetwork_eq_ok accepted placed
  have below : policy.baseAddress.toNat ≤ UInt32.size := Nat.le_of_lt policy.baseAddress.toNat_lt
  have inputTensorsEq : (network.inputs.map fun tensor => (0, tensor)).map Prod.snd =
      network.inputs := by
    rw [List.map_map]
    exact List.map_id _
  obtain ⟨inputs, rfl, room⟩ := placeAll_aligned accepted
    (fun item member => (facts_of_validate valid).2.1 item.2
      (inputTensorsEq ▸ List.mem_map_of_mem member))
    rfl (Layout.Policy.dvd_baseAddress accepted) below inputsPlaced
  rw [inputTensorsEq] at inputs room resultsPlaced
  have aligned : policy.alignment.toNat ∣ policy.baseAddress.toNat + policy.room network.inputs :=
    Nat.dvd_add (Layout.Policy.dvd_baseAddress accepted) (Layout.Policy.dvd_room accepted _)
  have resultNonempty : ∀ item ∈ stages.mapIdx fun index stage => (index, resultTensor network stage),
      item.2.shape.isEmpty = false := by
    intro item member
    have tensor := List.mem_map_of_mem (f := Prod.snd) member
    rw [map_snd_results, ← resultTensors] at tensor
    obtain ⟨one, oneMember, same⟩ := List.mem_map.mp tensor
    rw [← same]
    exact nonempty one (List.mem_append_right _ oneMember)
  obtain ⟨results, rfl, whole⟩ :=
    placeAll_aligned accepted resultNonempty rfl aligned room resultsPlaced
  rw [map_snd_results] at results whole
  exact ⟨inputs, results, whole⟩

end Assembly
end TileProgram
