import Mathlib.Data.List.Flatten
import TileProgram.Proofs.Stage.Encodable
import TileProgram.Proofs.Stage.Grouping

/-!
# When nodes are folded

A stage grows by one node at a time.  Each node that is folded was foldable
into the part of the stage before it, so all inner results of a stage are read
once, by the next node of the stage, and only the last node of a stage has an
activation.  Grouping fails only when shapes differ, which they do not where
the nodes can be encoded one by one.
-/

namespace TileProgram
namespace Stage

open Network

variable {network : Network} {stage : Stage}

/-- What has to hold, shapes apart, for a node to be folded into a stage. -/
structure Foldable (network : Network) (stage : Stage) (node : Node) : Prop where
  primary : (network.nodes[stage.primary]?).any (fun primary => primary.operation.isPrimary) =
    true
  secondary : node.operation.isSecondary = true
  room : stage.folded.length < greatestFolded
  readOnce : network.readerCount stage.output = 1
  plain : ∀ member ∈ stage.nodesOf network, member.activation.isNone = true
  once : node.operands.count (.node stage.output) = 1
  free : stage.slotInUse network node.operation = false

theorem wantsToFold_iff {node : Node} :
    wantsToFold network stage node = true ↔ Foldable network stage node := by
  simp only [wantsToFold, Bool.and_eq_true, decide_eq_true_eq, beq_iff_eq, List.all_eq_true,
    Bool.not_eq_true']
  constructor
  · rintro ⟨⟨⟨⟨⟨⟨primary, secondary⟩, room⟩, readOnce⟩, plain⟩, once⟩, free⟩
    exact ⟨primary, secondary, room, readOnce, plain, once, free⟩
  · rintro ⟨primary, secondary, room, readOnce, plain, once, free⟩
    exact ⟨⟨⟨⟨⟨⟨primary, secondary⟩, room⟩, readOnce⟩, plain⟩, once⟩, free⟩

/-- A node that is folded is foldable and has the shape of the result it reads. -/
theorem folds_eq_ok_true
    {index : Nat}
    {node : Node}
    (folded : folds network stage index node = .ok true) :
    Foldable network stage node ∧ ∃ tail, network.nodes[stage.output]? = some tail ∧
      node.output.shape = tail.output.shape := by
  unfold folds at folded
  split at folded
  · next wants =>
      split at folded
      · cases folded
      next expected found =>
        split at folded
        · cases folded
        next agree =>
          obtain ⟨tail, present, rfl⟩ := Option.map_eq_some_iff.mp found
          refine ⟨wantsToFold_iff.mp wants, tail, present, ?_⟩
          have same := List.find?_eq_none.mp agree node.output.shape (by simp)
          simpa using same
  · cases folded

/-- A stage as grouping makes it: a single node, or a smaller stage into which
the node behind it was folded. -/
inductive Grown (network : Network) : Stage → Prop
  | single {index : Nat} (inside : index < network.nodes.length) : Grown network ⟨index, []⟩
  | fold {stage : Stage} {index : Nat} {node : Node}
      (grown : Grown network stage)
      (present : network.nodes[index]? = some node)
      (behind : index = stage.primary + stage.folded.length + 1)
      (folded : folds network stage index node = .ok true) :
      Grown network (stage.fold index)

/-- Grouping the rest of the nodes makes grown stages. -/
theorem grown_of_groupFrom
    {fusion : Bool}
    {current : Stage}
    {index : Nat}
    {rest : List Node}
    {stages : List Stage}
    (grown : Grown network current)
    (behind : index = current.primary + current.folded.length + 1)
    (restEq : network.nodes.drop index = rest)
    (success : groupFrom fusion network current index rest = .ok stages) :
    ∀ stage ∈ stages, Grown network stage := by
  induction rest generalizing current index stages with
  | nil =>
      cases success
      simpa using grown
  | cons node rest inductionHypothesis =>
      obtain ⟨present, restEq⟩ := drop_eq_cons restEq
      rcases groupFrom_step success with ⟨folded, success⟩ | ⟨others, grouped, rfl⟩
      · have longer : index + 1 =
            (current.fold index).primary + (current.fold index).folded.length + 1 := by
          rw [fold_primary, length_fold, behind]
          omega
        exact inductionHypothesis (grown.fold present behind folded) longer restEq success
      · have inside := (List.getElem?_eq_some_iff.mp present).1
        have others := inductionHypothesis (.single inside) rfl restEq grouped
        exact List.forall_mem_cons.mpr ⟨grown, others⟩

/-- The stages of a network are grown. -/
theorem grown_of_plan
    {fusion : Bool}
    {stages : List Stage}
    (planned : plan fusion network = .ok stages) :
    ∀ stage ∈ stages, Grown network stage := by
  unfold plan at planned
  split at planned
  · cases planned
    simp
  · next first rest nodesEq =>
      refine grown_of_groupFrom (.single ?_) rfl (by rw [nodesEq]; rfl) planned
      rw [nodesEq, List.length_cons]
      omega

namespace Grown

/-- Each folded node was folded into the part of the stage before it. -/
theorem folded_at
    {before after : List Nat}
    {index : Nat}
    (grown : Grown network stage)
    (split : stage.folded = before ++ index :: after) :
    ∃ node, network.nodes[index]? = some node ∧
      folds network ⟨stage.primary, before⟩ index node = .ok true := by
  induction grown generalizing after with
  | single inside => simp at split
  | @fold stage last node grown present behind folded inductionHypothesis =>
      rcases List.eq_nil_or_concat after with rfl | ⟨after, final, rfl⟩
      · obtain ⟨beforeEq, lastEq⟩ := List.append_inj' split rfl
        cases lastEq
        refine ⟨node, present, ?_⟩
        rw [fold_primary, ← beforeEq]
        exact folded
      · have longer : stage.folded ++ [last] = (before ++ index :: after) ++ [final] := by
          have split : stage.folded ++ [last] = before ++ index :: (after.concat final) := split
          rw [split, List.concat_eq_append, List.append_assoc, List.cons_append]
        exact inductionHypothesis (List.append_inj' longer rfl).1

/-- A grown stage is consecutive. -/
theorem consecutive (grown : Grown network stage) : Consecutive network stage := by
  induction grown with
  | single inside => exact consecutive_singleton _
  | fold grown present behind folded inductionHypothesis =>
      refine inductionHypothesis.fold behind ?_
      rw [operandsAt, present]
      exact count_of_folds folded

/-- The part of a grown stage before a folded node ends with the node before that one. -/
theorem output_before
    {before after : List Nat}
    {index : Nat}
    (grown : Grown network stage)
    (split : stage.folded = before ++ index :: after) :
    Stage.output ⟨stage.primary, before⟩ = index - 1 ∧
      index = stage.primary + before.length + 1 := by
  have folded := grown.consecutive.folded_eq
  rw [split, List.length_append, List.length_cons] at folded
  have at_ : ∀ place : Nat, (before ++ index :: after)[place]? =
      (List.range' (stage.primary + 1) (before.length + (after.length + 1)))[place]? :=
    fun place => congrArg (fun list => list[place]?) folded
  have indexEq : index = stage.primary + before.length + 1 := by
    have here := at_ before.length
    rw [List.getElem?_append_right (Nat.le_refl _), Nat.sub_self, List.getElem?_cons_zero,
      List.getElem?_range' (by omega), Option.some.injEq] at here
    omega
  refine ⟨?_, indexEq⟩
  rcases List.eq_nil_or_concat before with rfl | ⟨earlier, last, rfl⟩
  · rw [indexEq]
    rfl
  · have here := at_ earlier.length
    rw [List.concat_eq_append, List.append_assoc, List.getElem?_append_right (Nat.le_refl _),
      Nat.sub_self, List.singleton_append, List.getElem?_cons_zero,
      List.getElem?_range' (by simp; omega), Option.some.injEq] at here
    rw [List.concat_eq_append, List.length_append, List.length_singleton] at indexEq
    rw [output, List.concat_eq_append, List.getLast?_concat, Option.getD_some]
    omega

/-- A folded node was foldable when the stage ended with the node before it. -/
theorem foldable
    {index : Nat}
    (grown : Grown network stage)
    (member : index ∈ stage.folded) :
    ∃ before node, before <+: stage.folded ∧
      Stage.output ⟨stage.primary, before⟩ = index - 1 ∧
      network.nodes[index]? = some node ∧ Foldable network ⟨stage.primary, before⟩ node := by
  obtain ⟨before, after, split⟩ := List.append_of_mem member
  obtain ⟨node, present, folded⟩ := grown.folded_at split
  exact ⟨before, node, ⟨_, split.symm⟩, (grown.output_before split).1, present,
    (folds_eq_ok_true folded).1⟩

/-- The nodes of a grown stage are nodes of the network. -/
theorem lt_of_mem
    {index : Nat}
    (grown : Grown network stage)
    (member : index ∈ stage.nodes) :
    index < network.nodes.length := by
  induction grown with
  | single inside =>
      rw [nodes, List.mem_singleton] at member
      rwa [member]
  | @fold stage last node grown present behind folded inductionHypothesis =>
      have member : index ∈ stage.nodes ++ [last] := member
      rcases List.mem_append.mp member with earlier | here
      · exact inductionHypothesis earlier
      · rw [List.mem_singleton.mp here]
        exact (List.getElem?_eq_some_iff.mp present).1

/-- A stage has at most as many folded nodes as a record can fold. -/
theorem length_folded_le (grown : Grown network stage) :
    stage.folded.length ≤ greatestFolded := by
  cases grown with
  | single inside => exact Nat.zero_le _
  | fold grown present behind folded =>
      have room := (folds_eq_ok_true folded).1.room
      rw [length_fold]
      omega

/-- Only a primary operation has others folded into it. -/
theorem isPrimary
    (grown : Grown network stage)
    (nonempty : stage.folded ≠ []) :
    (network.nodes[stage.primary]?).any (fun primary => primary.operation.isPrimary) = true := by
  cases grown with
  | single inside => exact absurd rfl nonempty
  | fold grown present behind folded => exact (folds_eq_ok_true folded).1.primary

/-- Folded nodes are secondary operations. -/
theorem isSecondary
    {index : Nat}
    {node : Node}
    (grown : Grown network stage)
    (member : index ∈ stage.folded)
    (present : network.nodes[index]? = some node) :
    node.operation.isSecondary = true := by
  obtain ⟨before, other, -, -, otherPresent, foldable⟩ := grown.foldable member
  rw [present] at otherPresent
  cases otherPresent
  exact foldable.secondary

/-- The result that a folded node reads is read once. -/
theorem readOnce
    {index : Nat}
    (grown : Grown network stage)
    (member : index ∈ stage.folded) :
    network.readerCount (index - 1) = 1 := by
  obtain ⟨before, node, -, output, -, foldable⟩ := grown.foldable member
  rw [← output]
  exact foldable.readOnce

end Grown

/-- Indices that are not too large are those of nodes. -/
theorem exists_nodesAt
    {indices : List Nat}
    (inside : ∀ index ∈ indices, index < network.nodes.length) :
    ∃ nodes, indices.map (fun index => network.nodes[index]?) = nodes.map some ∧
      (indices.filterMap fun index => network.nodes[index]?) = nodes := by
  induction indices with
  | nil => exact ⟨[], rfl, rfl⟩
  | cons index rest inductionHypothesis =>
      obtain ⟨here, others⟩ := List.forall_mem_cons.mp inside
      obtain ⟨nodes, mapped, chosen⟩ := inductionHypothesis others
      refine ⟨network.nodes[index] :: nodes, ?_, ?_⟩
      · rw [List.map_cons, List.map_cons, mapped, List.getElem?_eq_getElem here]
      · rw [List.filterMap_cons, List.getElem?_eq_getElem here, chosen]

/-- The nodes of a grown stage: the primary one and those that are folded. -/
theorem nodesOf_grown (grown : Grown network stage) :
    ∃ primary folded, network.nodes[stage.primary]? = some primary ∧
      stage.folded.map (fun index => network.nodes[index]?) = folded.map some ∧
      stage.nodesOf network = primary :: folded := by
  have inside := grown.lt_of_mem (show stage.primary ∈ stage.nodes from List.mem_cons_self)
  obtain ⟨folded, mapped, chosen⟩ :=
    exists_nodesAt fun index member => grown.lt_of_mem (List.mem_cons_of_mem _ member)
  refine ⟨network.nodes[stage.primary], folded, List.getElem?_eq_getElem inside, mapped, ?_⟩
  rw [nodesOf, Stage.nodes, List.filterMap_cons, List.getElem?_eq_getElem inside, chosen]

section Unfused

/-- Without folding every node is a stage. -/
theorem groupFrom_unfused (current : Stage) (index : Nat) (rest : List Node) :
    groupFrom false network current index rest =
      .ok (current :: (List.range' index rest.length).map fun index => ⟨index, []⟩) := by
  induction rest generalizing current index with
  | nil => rfl
  | cons node rest inductionHypothesis =>
      rw [groupFrom, if_neg (by decide), List.length_cons, List.range'_succ, List.map_cons]
      show (groupFrom false network ⟨index, []⟩ (index + 1) rest >>= _) = _
      rw [inductionHypothesis]
      rfl

/-- The stages of one node each. -/
def singles (network : Network) : List Stage :=
  (List.range network.nodes.length).map fun index => ⟨index, []⟩

@[simp] theorem length_singles (network : Network) :
    (singles network).length = network.nodes.length := by
  simp [singles]

theorem mem_singles
    {network : Network}
    {index : Nat}
    {node : Node}
    (present : network.nodes[index]? = some node) :
    ⟨index, []⟩ ∈ singles network :=
  List.mem_map.mpr ⟨index, List.mem_range.mpr (List.getElem?_eq_some_iff.mp present).1, rfl⟩

theorem plan_unfused (network : Network) : plan false network = .ok (singles network) := by
  unfold plan singles
  split
  · next empty =>
      rw [empty]
      rfl
  · next first rest nodesEq =>
      rw [groupFrom_unfused, nodesEq, List.length_cons, List.range_eq_range', List.range'_succ,
        List.map_cons]

end Unfused

section Shapes

/-- The tensors of operands. -/
def tensorsOf (network : Network) (operands : List Operand) : List Tensor :=
  operands.filterMap network.tensorOf?

/-- The first tensor is that of the first operand. -/
theorem head?_tensorsOf
    {operands : List Operand}
    {operand : Operand}
    {tensor : Tensor}
    (others : List Operand)
    (first : operands.head? = some operand)
    (found : network.tensorOf? operand = some tensor) :
    (tensorsOf network (operands ++ others)).head? = some tensor := by
  cases operands with
  | nil => cases first
  | cons head rest =>
      cases first
      rw [List.cons_append, tensorsOf, List.filterMap_cons, found]
      rfl

/-- Secondary operations have operands of the shape of their result. -/
theorem shape_of_shapesAgree
    {node : Node}
    {tensors : List Tensor}
    (secondary : node.operation.isSecondary = true)
    (agree : shapesAgree node tensors = true) :
    ∀ tensor ∈ tensors, tensor.shape = node.output.shape := by
  unfold shapesAgree at agree
  cases operation : node.operation with
  | scaleBias scale bias => simpa [operation] using agree
  | activation => simpa [operation] using agree
  | pointwise operator => simpa [operation] using agree
  | _ => simp [operation, Operation.isSecondary] at secondary

/-- A node whose shapes agree is folded or not, and never refused. -/
theorem folds_of_shapesAgree
    {index : Nat}
    {node : Node}
    (agree : shapesAgree node (tensorsOf network node.operands) = true) :
    ∃ folded, folds network stage index node = .ok folded := by
  unfold folds
  split
  · next wants =>
      have foldable := wantsToFold_iff.mp wants
      have shapes := shape_of_shapesAgree foldable.secondary agree
      have tensor : ∀ operand ∈ node.operands, ∀ tensor, network.tensorOf? operand = some tensor →
          tensor.shape = node.output.shape :=
        fun operand member tensor found =>
          shapes tensor (List.mem_filterMap.mpr ⟨operand, member, found⟩)
      split
      · exact ⟨false, rfl⟩
      next expected found =>
        obtain ⟨tail, present, rfl⟩ := Option.map_eq_some_iff.mp found
        have reads : Operand.node stage.output ∈ node.operands :=
          List.count_pos_iff.mp (by rw [foldable.once]; decide)
        have tailShape : tail.output.shape = node.output.shape :=
          tensor _ reads tail.output (by rw [Network.tensorOf?, present]; rfl)
        have otherShape : ∀ shape, otherShape? network stage node = some shape →
            shape = node.output.shape := by
          intro shape other
          unfold otherShape? at other
          split at other
          · obtain ⟨operand, chosen, rfl⟩ := Option.map_eq_some_iff.mp other
            obtain ⟨operand, first, second⟩ := Option.bind_eq_some_iff.mp chosen
            exact tensor operand (List.mem_of_find?_eq_some first) _ second
          · cases other
        have agree : differingShape? network stage node tail.output.shape = none := by
          rw [differingShape?, List.find?_eq_none]
          intro shape member
          rcases List.mem_append.mp member with other | own
          · rw [otherShape shape (Option.mem_toList.mp other), tailShape]
            simp
          · rw [List.mem_singleton.mp own, tailShape]
            simp
        rw [agree]
        exact ⟨true, rfl⟩
  · exact ⟨false, rfl⟩

/-- Grouping succeeds when the shapes of all nodes agree. -/
theorem exists_groupFrom
    {rest : List Node}
    (agree : ∀ node ∈ rest, shapesAgree node (tensorsOf network node.operands) = true)
    (current : Stage)
    (index : Nat) :
    ∃ stages, groupFrom true network current index rest = .ok stages := by
  induction rest generalizing current index with
  | nil => exact ⟨_, rfl⟩
  | cons node rest inductionHypothesis =>
      obtain ⟨here, others⟩ := List.forall_mem_cons.mp agree
      obtain ⟨folded, decided⟩ := @folds_of_shapesAgree network current index node here
      rw [groupFrom, if_pos rfl, decided]
      cases folded with
      | true => exact inductionHypothesis others (current.fold index) (index + 1)
      | false =>
          obtain ⟨stages, grouped⟩ := inductionHypothesis others ⟨index, []⟩ (index + 1)
          refine ⟨current :: stages, ?_⟩
          show (groupFrom true network ⟨index, []⟩ (index + 1) rest >>= _) = _
          rw [grouped]
          rfl

/-- A network whose shapes agree node by node is grouped with folding. -/
theorem exists_plan
    (agree : ∀ node ∈ network.nodes,
      shapesAgree node (tensorsOf network node.operands) = true) :
    ∃ stages, plan true network = .ok stages := by
  unfold plan
  split
  · exact ⟨_, rfl⟩
  · next first rest nodesEq =>
      rw [nodesEq] at agree
      exact exists_groupFrom (List.forall_mem_cons.mp agree).2 _ _

end Shapes
end Stage
end TileProgram
