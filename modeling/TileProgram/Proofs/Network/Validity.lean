import TileProgram.Network.Validity

/-!
# References of valid networks

In a network that is accepted every operand of a node is an input or the
result of an earlier node, and no tensor is empty.
-/

namespace TileProgram
namespace Network

variable {network : Network}

/-- A node without a defect refers to inputs and earlier nodes only. -/
theorem refersBack_of_nodeDefect?
    {index : Nat}
    {node : Node}
    (sound : network.nodeDefect? index node = none) :
    ∀ operand ∈ node.operands, network.refersBack index operand = true := by
  unfold nodeDefect? at sound
  split at sound
  · cases sound
  · next found =>
      intro operand present
      simpa using List.find?_eq_none.mp found operand present

/-- No node of a list without a defect has one. -/
theorem nodeDefect?_of_firstDefect?
    {start index : Nat}
    {nodes : List Node}
    {node : Node}
    (sound : network.firstDefect? start nodes = none)
    (present : nodes[index]? = some node) :
    network.nodeDefect? (start + index) node = none := by
  induction nodes generalizing start index with
  | nil => cases present
  | cons first rest inductionHypothesis =>
      rw [firstDefect?] at sound
      split at sound
      · cases sound
      · next here =>
          cases index with
          | zero =>
              cases present
              exact here
          | succ index =>
              rw [List.getElem?_cons_succ] at present
              have later := inductionHypothesis sound present
              rwa [Nat.add_assoc, Nat.add_comm 1] at later

/-- A valid network has nodes, no empty input and no node with a defect. -/
theorem facts_of_validate (valid : network.validate = .ok ()) :
    network.nodes ≠ [] ∧ (∀ tensor ∈ network.inputs, tensor.shape.isEmpty = false) ∧
      ∀ (index : Nat) (node : Node), network.nodes[index]? = some node →
        network.nodeDefect? index node = none := by
  unfold validate at valid
  split at valid
  · cases valid
  next nonempty =>
    split at valid
    · cases valid
    next full =>
      split at valid
      · cases valid
      next sound =>
        refine ⟨by simpa using nonempty, ?_, ?_⟩
        · intro tensor present
          have full := List.findIdx?_eq_none_iff.mp full tensor present
          exact full
        · intro index node present
          have free := nodeDefect?_of_firstDefect? sound present
          rwa [Nat.zero_add] at free

/-- The operands of a node of a valid network are inputs and results of earlier nodes. -/
theorem refersBack_of_validate
    {index : Nat}
    {node : Node}
    (valid : network.validate = .ok ())
    (present : network.nodes[index]? = some node) :
    ∀ operand ∈ node.operands, network.refersBack index operand = true :=
  refersBack_of_nodeDefect? ((facts_of_validate valid).2.2 index node present)

/-- A node of a valid network has as many operands as its operation accepts, and
a result that is not empty. -/
theorem accepted_of_validate
    {index : Nat}
    {node : Node}
    (valid : network.validate = .ok ())
    (present : network.nodes[index]? = some node) :
    node.operation.acceptsOperands node.operands.length node.weights.isSome = true ∧
      node.output.shape.isEmpty = false := by
  have sound := (facts_of_validate valid).2.2 index node present
  unfold nodeDefect? at sound
  split at sound
  · cases sound
  · split at sound
    · cases sound
    next accepted =>
      split at sound
      · cases sound
      next full => exact ⟨by simpa using accepted, by simpa using full⟩

/-- Every operand of a node of a valid network has a tensor. -/
theorem exists_tensorOf?
    {index : Nat}
    {node : Node}
    (valid : network.validate = .ok ())
    (present : network.nodes[index]? = some node) :
    ∀ operand ∈ node.operands, ∃ tensor, network.tensorOf? operand = some tensor := by
  intro operand member
  have back := refersBack_of_validate valid present operand member
  cases operand with
  | input number =>
      have inside : number < network.inputs.length := by simpa [refersBack] using back
      exact ⟨_, List.getElem?_eq_getElem inside⟩
  | node other =>
      have before : other < index := by simpa [refersBack] using back
      have inside := (List.getElem?_eq_some_iff.mp present).1
      have found := List.getElem?_eq_getElem (Nat.lt_trans before inside)
      exact ⟨_, by rw [tensorOf?, found]; rfl⟩

/-- Every operation has operands. -/
theorem Operation.acceptsOperands_zero (operation : Operation) (hasWeights : Bool) :
    operation.acceptsOperands 0 hasWeights = false := by
  cases operation <;> rfl

/-- Every node of a valid network has a first operand. -/
theorem exists_firstOperand
    {index : Nat}
    {node : Node}
    (valid : network.validate = .ok ())
    (present : network.nodes[index]? = some node) :
    ∃ operand tensor, node.operands.head? = some operand ∧
      network.tensorOf? operand = some tensor := by
  have nonempty : node.operands ≠ [] := by
    intro empty
    have accepted := (accepted_of_validate valid present).1
    rw [empty, List.length_nil, Operation.acceptsOperands_zero] at accepted
    cases accepted
  obtain ⟨operand, first⟩ := Option.isSome_iff_exists.mp (List.isSome_head?.mpr nonempty)
  obtain ⟨tensor, found⟩ :=
    exists_tensorOf? valid present operand (List.mem_of_head? first)
  exact ⟨operand, tensor, first, found⟩

end Network
end TileProgram
