import Mathlib.Data.List.Basic
import Mathlib.Data.List.Pairwise
import TileProgram.Proofs.Outcome
import TileProgram.Stage.Plan

/-!
# How nodes are grouped

The stages of a network divide its nodes into runs of consecutive ones.  Every
folded node reads the result of the node before it exactly once; its other
operands come from outside the stage.
-/

namespace TileProgram
namespace Stage

open Network

variable {network : Network} {stage : Stage}

@[simp] theorem fold_primary (stage : Stage) (index : Nat) :
    (stage.fold index).primary = stage.primary := rfl

@[simp] theorem length_fold (stage : Stage) (index : Nat) :
    (stage.fold index).folded.length = stage.folded.length + 1 := by
  rw [fold, List.length_append, List.length_singleton]

/-- The result of a stage is that of one of its nodes. -/
theorem output_mem_nodes (stage : Stage) : stage.output ∈ stage.nodes := by
  rw [output, nodes]
  cases last : stage.folded.getLast? with
  | none => exact List.mem_cons_self
  | some index => exact List.mem_cons_of_mem _ (List.mem_of_getLast? last)

/-- What a list begins with from a given place on is there. -/
theorem drop_eq_cons
    {α : Type}
    {items rest : List α}
    {item : α}
    {start : Nat}
    (equal : items.drop start = item :: rest) :
    items[start]? = some item ∧ items.drop (start + 1) = rest := by
  have first := congrArg (fun list => list[0]?) equal
  refine ⟨by simpa using first, ?_⟩
  rw [← List.tail_drop, equal, List.tail_cons]

/-- The operands of the node with a given index. -/
def operandsAt (network : Network) (index : Nat) : List Operand :=
  ((network.nodes[index]?).map Node.operands).getD []

theorem operandsAt_eq
    {index : Nat}
    {node : Node}
    (present : network.nodes[index]? = some node) :
    operandsAt network index = node.operands := by
  rw [operandsAt, present]
  rfl

/-- The operands of folded nodes, each without the one that is the result of the
node before it. -/
def foldedOperands (network : Network) : Nat → List Nat → List Operand
  | _, [] => []
  | previous, index :: rest =>
      (operandsAt network index).erase (.node previous) ++ foldedOperands network index rest

/-- What a stage reads from outside it, in order. -/
def outsideOperands (network : Network) (stage : Stage) : List Operand :=
  operandsAt network stage.primary ++ foldedOperands network stage.primary stage.folded

/-- A stage of consecutive nodes of which each folded one reads the one before
it exactly once. -/
structure Consecutive (network : Network) (stage : Stage) : Prop where
  folded_eq : stage.folded = List.range' (stage.primary + 1) stage.folded.length
  readsOnce : ∀ index ∈ stage.folded,
    (operandsAt network index).count (.node (index - 1)) = 1

/-- A stage of one node is consecutive. -/
theorem consecutive_singleton (index : Nat) : Consecutive network ⟨index, []⟩ where
  folded_eq := rfl
  readsOnce := by simp

namespace Consecutive

/-- The result of a stage is that of its last node. -/
theorem output_eq (consecutive : Consecutive network stage) :
    stage.output = stage.primary + stage.folded.length := by
  rw [output, consecutive.folded_eq, List.getLast?_range', List.length_range']
  split
  · next none => simp [none]
  · rw [Option.getD_some]
    omega

/-- The nodes of a stage. -/
theorem nodes_eq (consecutive : Consecutive network stage) :
    stage.nodes = List.range' stage.primary (stage.folded.length + 1) := by
  rw [nodes, consecutive.folded_eq, List.length_range', List.range'_succ]

/-- Folding the node behind a stage that reads its result once keeps it consecutive. -/
theorem fold
    {index : Nat}
    (consecutive : Consecutive network stage)
    (behind : index = stage.primary + stage.folded.length + 1)
    (once : (operandsAt network index).count (.node stage.output) = 1) :
    Consecutive network (stage.fold index) := by
  constructor
  · have last : stage.primary + 1 + 1 * stage.folded.length = index := by omega
    rw [length_fold, fold_primary, List.range'_concat, ← consecutive.folded_eq, last, Stage.fold]
  · intro other present
    rcases List.mem_append.mp present with folded | here
    · exact consecutive.readsOnce other folded
    · rw [List.mem_singleton.mp here]
      rw [consecutive.output_eq] at once
      rwa [behind, Nat.add_sub_cancel, ← behind]

end Consecutive

/-- What occurs once is left out either way. -/
theorem erase_eq_filter
    {operands : List Operand}
    {operand : Operand}
    (once : operands.count operand = 1) :
    operands.erase operand = operands.filter fun other => other != operand := by
  induction operands with
  | nil => rfl
  | cons first rest inductionHypothesis =>
      by_cases same : first = operand
      · subst same
        rw [List.count_cons_self] at once
        have absent : first ∉ rest := List.count_eq_zero.mp (by omega)
        rw [List.erase_cons_head, List.filter_cons_of_neg (by simp),
          List.filter_bne_eq_self_of_not_mem absent]
      · have different : (first != operand) = true := bne_iff_ne.mpr same
        rw [List.count_cons_of_ne same] at once
        rw [List.erase_cons_tail (by simpa using same), inductionHypothesis once,
          List.filter_cons, if_pos different]

/-- Folded nodes read from outside all but the result of the node before them. -/
theorem foldedOperands_eq
    {previous count : Nat}
    (readsOnce : ∀ index ∈ List.range' (previous + 1) count,
      (operandsAt network index).count (.node (index - 1)) = 1) :
    foldedOperands network previous (List.range' (previous + 1) count) =
      (List.range' (previous + 1) count).flatMap fun index =>
        (operandsAt network index).filter fun operand => operand != .node (index - 1) := by
  induction count generalizing previous with
  | zero => rfl
  | succ count inductionHypothesis =>
      rw [List.range'_succ] at readsOnce ⊢
      obtain ⟨here, rest⟩ := List.forall_mem_cons.mp readsOnce
      rw [foldedOperands, List.flatMap_cons, inductionHypothesis rest]
      rw [Nat.add_sub_cancel] at here ⊢
      rw [erase_eq_filter here]

/-- What a stage reads from outside, node by node. -/
theorem Consecutive.outsideOperands_eq (consecutive : Consecutive network stage) :
    outsideOperands network stage =
      stage.nodes.flatMap fun index =>
        if index == stage.primary then operandsAt network index
        else (operandsAt network index).filter fun operand => operand != .node (index - 1) := by
  have folded : foldedOperands network stage.primary stage.folded =
      stage.folded.flatMap fun index =>
        (operandsAt network index).filter fun operand => operand != .node (index - 1) := by
    have readsOnce := consecutive.readsOnce
    rw [consecutive.folded_eq] at readsOnce ⊢
    exact foldedOperands_eq readsOnce
  rw [outsideOperands, folded, nodes, List.flatMap_cons, if_pos (by simp)]
  congr 1
  apply List.flatMap_congr
  intro index present
  rw [consecutive.folded_eq, List.mem_range'_1] at present
  rw [if_neg (by rw [beq_iff_eq]; omega)]

/-- A node that is folded reads the result of the stage exactly once. -/
theorem count_of_folds
    {index : Nat}
    {node : Node}
    (folded : folds network stage index node = .ok true) :
    node.operands.count (.node stage.output) = 1 := by
  unfold folds at folded
  split at folded
  · next wants =>
      simp only [wantsToFold, Bool.and_eq_true, beq_iff_eq] at wants
      exact wants.1.2
  · cases folded

/-- One step of putting nodes into stages: the node is folded or begins a stage. -/
theorem groupFrom_step
    {fusion : Bool}
    {current : Stage}
    {index : Nat}
    {node : Node}
    {rest : List Node}
    {stages : List Stage}
    (success : groupFrom fusion network current index (node :: rest) = .ok stages) :
    folds network current index node = .ok true ∧
        groupFrom fusion network (current.fold index) (index + 1) rest = .ok stages ∨
      ∃ others, groupFrom fusion network ⟨index, []⟩ (index + 1) rest = .ok others ∧
        current :: others = stages := by
  cases fusion with
  | true =>
      rw [groupFrom, if_pos rfl, Outcome.seq_eq_ok] at success
      obtain ⟨folded, decided, success⟩ := success
      cases folded with
      | true => exact Or.inl ⟨decided, success⟩
      | false =>
          obtain ⟨others, grouped, equal⟩ := Outcome.seq_eq_ok.mp success
          exact Or.inr ⟨others, grouped, Outcome.pure_eq_ok.mp equal⟩
  | false =>
      rw [groupFrom, if_neg (by decide), Outcome.seq_eq_ok] at success
      obtain ⟨folded, decided, success⟩ := success
      cases decided
      obtain ⟨others, grouped, equal⟩ := Outcome.seq_eq_ok.mp success
      exact Or.inr ⟨others, grouped, Outcome.pure_eq_ok.mp equal⟩

/-- Putting the rest of the nodes into stages keeps every stage consecutive and
divides the nodes in order. -/
theorem groupFrom_eq_ok
    {fusion : Bool}
    {current : Stage}
    {index : Nat}
    {rest : List Node}
    {stages : List Stage}
    (consecutive : Consecutive network current)
    (behind : index = current.primary + current.folded.length + 1)
    (inside : index ≤ network.nodes.length)
    (restEq : network.nodes.drop index = rest)
    (success : groupFrom fusion network current index rest = .ok stages) :
    (∀ stage ∈ stages, Consecutive network stage) ∧
      stages.flatMap nodes =
        List.range' current.primary (network.nodes.length - current.primary) := by
  induction rest generalizing current index stages with
  | nil =>
      cases success
      have ends : network.nodes.length ≤ index := List.drop_eq_nil_iff.mp restEq
      refine ⟨by simpa using consecutive, ?_⟩
      rw [List.flatMap_singleton, consecutive.nodes_eq]
      congr 1
      omega
  | cons node rest inductionHypothesis =>
      have present : network.nodes[index]? = some node := by
        have first := congrArg (fun nodes => nodes[0]?) restEq
        simpa only [List.getElem?_drop, Nat.add_zero, List.getElem?_cons_zero] using first
      have room := (List.getElem?_eq_some_iff.mp present).1
      have restEq : network.nodes.drop (index + 1) = rest := by
        rw [← List.tail_drop, restEq, List.tail_cons]
      rcases groupFrom_step success with ⟨folded, success⟩ | ⟨others, grouped, rfl⟩
      · have once : (operandsAt network index).count (.node current.output) = 1 := by
          rw [operandsAt, present]
          exact count_of_folds folded
        have longer : index + 1 =
            (current.fold index).primary + (current.fold index).folded.length + 1 := by
          rw [fold_primary, length_fold, behind]
          omega
        have grouped :=
          inductionHypothesis (consecutive.fold behind once) longer room restEq success
        exact grouped
      · obtain ⟨all, nodesEq⟩ := inductionHypothesis (consecutive_singleton index) rfl
          room restEq grouped
        refine ⟨List.forall_mem_cons.mpr ⟨consecutive, all⟩, ?_⟩
        rw [List.flatMap_cons, consecutive.nodes_eq, nodesEq]
        dsimp only
        have split : network.nodes.length - current.primary =
            current.folded.length + 1 + (network.nodes.length - index) := by
          omega
        have next : index = current.primary + (current.folded.length + 1) := by omega
        rw [split, next, List.range'_append_1]

/-- The stages of a network are consecutive and divide its nodes in order. -/
theorem plan_eq_ok
    {fusion : Bool}
    {stages : List Stage}
    (success : plan fusion network = .ok stages) :
    (∀ stage ∈ stages, Consecutive network stage) ∧
      stages.flatMap nodes = List.range network.nodes.length := by
  unfold plan at success
  split at success
  · next empty =>
      cases success
      simp [empty]
  · next first rest nodesEq =>
      have nonempty : 1 ≤ network.nodes.length := by
        rw [nodesEq, List.length_cons]
        omega
      have grouped := groupFrom_eq_ok (consecutive_singleton 0) rfl nonempty
        (by rw [nodesEq]; rfl) success
      rwa [List.range_eq_range']

/-- The nodes of a stage are nodes of the network. -/
theorem lt_of_mem_nodes
    {stages : List Stage}
    {index : Nat}
    (divided : stages.flatMap nodes = List.range network.nodes.length)
    (present : stage ∈ stages)
    (member : index ∈ stage.nodes) :
    index < network.nodes.length := by
  rw [← List.mem_range, ← divided]
  exact List.mem_flatMap.mpr ⟨stage, present, member⟩

/-- The nodes of a stage come before those of later stages. -/
theorem nodes_ordered
    {stages : List Stage}
    (divided : stages.flatMap nodes = List.range network.nodes.length) :
    stages.Pairwise fun first second =>
      ∀ earlier ∈ first.nodes, ∀ later ∈ second.nodes, earlier < later := by
  have increasing : (stages.flatMap nodes).Pairwise (· < ·) := by
    rw [divided]
    exact List.pairwise_lt_range
  exact (List.pairwise_flatMap.mp increasing).2

/-- A node belongs to one stage only. -/
theorem eq_of_mem_nodes
    {stages : List Stage}
    {first second : Stage}
    {index : Nat}
    (divided : stages.flatMap nodes = List.range network.nodes.length)
    (firstPresent : first ∈ stages)
    (secondPresent : second ∈ stages)
    (firstMember : index ∈ first.nodes)
    (secondMember : index ∈ second.nodes) :
    first = second := by
  obtain ⟨one, oneInside, rfl⟩ := List.getElem_of_mem firstPresent
  obtain ⟨other, otherInside, rfl⟩ := List.getElem_of_mem secondPresent
  have ordered := List.pairwise_iff_getElem.mp (nodes_ordered divided)
  rcases Nat.lt_trichotomy one other with before | same | after
  · have := ordered one other oneInside otherInside before index firstMember index secondMember
    omega
  · subst same
    rfl
  · have := ordered other one otherInside oneInside after index secondMember index firstMember
    omega

/-- Stages that divide consecutive nodes are determined by how many nodes each of them folds. -/
theorem eq_of_lengths
    {other : Network}
    {stages others : List Stage}
    {start count otherCount : Nat}
    (consecutive : ∀ stage ∈ stages, Consecutive network stage)
    (otherConsecutive : ∀ stage ∈ others, Consecutive other stage)
    (divided : stages.flatMap nodes = List.range' start count)
    (otherDivided : others.flatMap nodes = List.range' start otherCount)
    (lengths : stages.map (fun stage => stage.folded.length) =
      others.map fun stage => stage.folded.length) :
    stages = others := by
  have primary_eq : ∀ {stage : Stage} {rest : List Nat} {start count : Nat},
      stage.nodes ++ rest = List.range' start count → stage.primary = start ∧
        rest = List.range' (start + (stage.folded.length + 1))
          (count - (stage.folded.length + 1)) := by
    intro stage rest start count equal
    cases count with
    | zero => cases equal
    | succ count =>
        rw [nodes, List.cons_append, List.range'_succ, List.cons.injEq] at equal
        obtain ⟨primary, equal⟩ := equal
        have dropped := congrArg (fun list => list.drop stage.folded.length) equal
        rw [List.drop_left, List.drop_range', Nat.mul_one] at dropped
        refine ⟨primary, ?_⟩
        rw [dropped, Nat.add_sub_add_right]
        congr 1
        omega
  induction stages generalizing others start count otherCount with
  | nil =>
      rw [List.map_nil] at lengths
      exact (List.map_eq_nil_iff.mp lengths.symm).symm
  | cons stage rest inductionHypothesis =>
      obtain ⟨otherStage, otherRest, rfl, sameLength, lengths⟩ :=
        List.map_eq_cons_iff.mp lengths.symm
      obtain ⟨here, later⟩ := List.forall_mem_cons.mp consecutive
      obtain ⟨otherHere, otherLater⟩ := List.forall_mem_cons.mp otherConsecutive
      rw [List.flatMap_cons] at divided otherDivided
      obtain ⟨primary, divided⟩ := primary_eq divided
      obtain ⟨otherPrimary, otherDivided⟩ := primary_eq otherDivided
      rw [sameLength] at otherDivided
      have equal : stage = otherStage := by
        have folded : stage.folded = otherStage.folded := by
          rw [here.folded_eq, otherHere.folded_eq, primary, otherPrimary, sameLength]
        cases stage
        cases otherStage
        dsimp only at primary otherPrimary folded
        rw [primary, otherPrimary, folded]
      rw [equal, inductionHypothesis later otherLater divided otherDivided lengths.symm]

end Stage
end TileProgram
