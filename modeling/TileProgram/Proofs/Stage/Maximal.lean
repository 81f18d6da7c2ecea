import TileProgram.Proofs.Network.Validity
import TileProgram.Proofs.Stage.Folding

/-!
# Stages are as long as they can be

Whether a node joins the stage of the node before it depends on the network and
on where that stage begins, and on nothing else.  Grouping with folding follows
this rule: every stage goes on for as long as nodes join it, and grouping fails
at the first node that is to join a stage but has other shapes.  Grouping
without folding never fails and makes each node a stage.
-/

namespace TileProgram
namespace Stage

open Network

/-- What has to hold, shapes apart, for the node behind `last` to join the stage
that is made of the nodes from `first` to `last`. -/
structure Joins (network : Network) (first last : Nat) (node : Node) : Prop where
  present : network.nodes[last + 1]? = some node
  primary : ∃ head, network.nodes[first]? = some head ∧ head.operation.isPrimary = true
  secondary : node.operation.isSecondary = true
  room : last < first + greatestFolded
  reads : .node last ∈ node.operands
  readOnce : network.operands.count (.node last) = 1
  plain : ∀ (index : Nat) (member : Node), first ≤ index → index ≤ last →
    network.nodes[index]? = some member → member.activation.isNone = true
  free : node.operation.isSingleSlot = true → ∀ (index : Nat) (member : Node),
    first < index → index ≤ last → network.nodes[index]? = some member →
      member.operation.classCode ≠ node.operation.classCode

/-- With which node the stage of a node begins, shapes apart. -/
inductive Begins (network : Network) : Nat → Nat → Prop
  | start : Begins network 0 0
  | joined {first last : Nat} {node : Node}
      (begins : Begins network first last)
      (joins : Joins network first last node) :
      Begins network first (last + 1)
  | apart {first last : Nat}
      (begins : Begins network first last)
      (apart : ∀ node, ¬ Joins network first last node) :
      Begins network (last + 1) (last + 1)

/-- The shapes of what a node reads and of its result, in this order. -/
def shapesAround (network : Network) (node : Node) : List Tensor.Shape :=
  (tensorsOf network node.operands ++ [node.output]).map Tensor.shape

/-- The node behind `last` is to join the stage of `last`, but a shape differs
from that of the result it reads. -/
structure Clash (network : Network) (last : Nat) (expected found : Tensor.Shape) : Prop where
  tail : ∃ tail, network.nodes[last]? = some tail ∧ tail.output.shape = expected
  differs : ∃ first node, Begins network first last ∧ Joins network first last node ∧
    (shapesAround network node).find? (fun shape => shape != expected) = some found

/-- The first place at which a node is to join a stage but has another shape. -/
structure FirstClash (network : Network) (last : Nat) (expected found : Tensor.Shape) :
    Prop where
  here : Clash network last expected found
  first : ∀ earlier < last, ∀ expected found, ¬ Clash network earlier expected found

/-- Stages that divide the nodes in order, that go on for exactly as long as
nodes join them, and inside which all shapes agree. -/
structure Maximal (network : Network) (stages : List Stage) : Prop where
  divided : stages.flatMap nodes = List.range network.nodes.length
  joined : ∀ stage ∈ stages, ∀ index ∈ stage.nodes,
    (index + 1 ∈ stage.nodes ↔ ∃ node, Joins network stage.primary index node)
  shapes : ∀ stage ∈ stages, ∃ shape, ∀ (index : Nat) (node : Node), index ∈ stage.nodes →
    network.nodes[index]? = some node → node.output.shape = shape ∧
      (index ∈ stage.folded → ∀ operand ∈ node.operands, ∀ tensor,
        network.tensorOf? operand = some tensor → tensor.shape = shape)

variable {network : Network} {stage : Stage}

/-- A stage of a node begins at one place only. -/
theorem Begins.unique
    {first other last : Nat}
    (begins : Begins network first last)
    (otherBegins : Begins network other last) :
    first = other := by
  induction begins generalizing other with
  | start => cases otherBegins; rfl
  | joined begins joins inductionHypothesis =>
      cases otherBegins with
      | joined others otherJoins => exact inductionHypothesis others
      | apart others apart =>
          rw [← inductionHypothesis others] at apart
          exact absurd joins (apart _)
  | apart begins apart inductionHypothesis =>
      cases otherBegins with
      | joined others joins =>
          rw [inductionHypothesis others] at apart
          exact absurd joins (apart _)
      | apart others otherApart => rfl

/-- A result is read no more often by one node than by all. -/
theorem count_operands_le
    {index : Nat}
    {node : Node}
    (present : network.nodes[index]? = some node)
    (operand : Operand) :
    node.operands.count operand ≤ network.operands.count operand := by
  obtain ⟨before, after, nodesEq⟩ := List.append_of_mem (List.mem_of_getElem? present)
  rw [Network.operands, nodesEq, List.flatMap_append, List.flatMap_cons, List.count_append,
    List.count_append]
  omega

/-- The nodes of a stage are those up to its last one. -/
theorem Consecutive.mem_nodes_iff
    {index last : Nat}
    (consecutive : Consecutive network stage)
    (lastEq : last = stage.primary + stage.folded.length) :
    index ∈ stage.nodes ↔ stage.primary ≤ index ∧ index ≤ last := by
  rw [consecutive.nodes_eq, List.mem_range'_1]
  omega

theorem Consecutive.mem_folded_iff
    {index last : Nat}
    (consecutive : Consecutive network stage)
    (lastEq : last = stage.primary + stage.folded.length) :
    index ∈ stage.folded ↔ stage.primary < index ∧ index ≤ last := by
  rw [consecutive.folded_eq, List.mem_range'_1]
  omega

/-- A slot is free when no folded node is of the class that needs it. -/
theorem slotInUse_eq_false_iff {operation : Operation} :
    stage.slotInUse network operation = false ↔ (operation.isSingleSlot = true →
      ∀ index ∈ stage.folded, ∀ member, network.nodes[index]? = some member →
        member.operation.classCode ≠ operation.classCode) := by
  simp only [slotInUse, Bool.and_eq_false_imp, List.any_eq_false, Option.any_eq_true, beq_iff_eq,
    not_exists, not_and]

/-- What decides whether a node is folded into a stage is what decides whether it
joins the nodes of the stage. -/
theorem foldable_iff_joins
    {last : Nat}
    {node : Node}
    (consecutive : Consecutive network stage)
    (lastEq : last = stage.primary + stage.folded.length)
    (present : network.nodes[last + 1]? = some node) :
    Foldable network stage node ↔ Joins network stage.primary last node := by
  have outputEq : stage.output = last := consecutive.output_eq.trans lastEq.symm
  constructor
  · intro foldable
    refine ⟨present, (Option.any_eq_true _ _).mp foldable.primary, foldable.secondary, ?_, ?_, ?_, ?_,
      ?_⟩
    · have room := foldable.room
      omega
    · rw [← outputEq, ← List.count_pos_iff, foldable.once]
      decide
    · rw [← outputEq]
      exact foldable.readOnce
    · intro index member above below memberPresent
      apply foldable.plain
      exact List.mem_filterMap.mpr
        ⟨index, (consecutive.mem_nodes_iff lastEq).mpr ⟨above, below⟩, memberPresent⟩
    · intro single index member above below memberPresent
      exact slotInUse_eq_false_iff.mp foldable.free single index
        ((consecutive.mem_folded_iff lastEq).mpr ⟨above, below⟩) member memberPresent
  · intro joins
    refine ⟨(Option.any_eq_true _ _).mpr joins.primary, joins.secondary, ?_, ?_, ?_, ?_, ?_⟩
    · have room := joins.room
      omega
    · rw [outputEq]
      exact joins.readOnce
    · intro member memberPresent
      obtain ⟨index, inside, memberPresent⟩ := List.mem_filterMap.mp memberPresent
      obtain ⟨above, below⟩ := (consecutive.mem_nodes_iff lastEq).mp inside
      exact joins.plain index member above below memberPresent
    · -- Only one operand of the network reads the result, and it is one of this node.
      have some := List.count_pos_iff.mpr joins.reads
      have few := count_operands_le present (.node last)
      rw [joins.readOnce] at few
      rw [outputEq]
      omega
    · rw [slotInUse_eq_false_iff]
      intro single index inside member memberPresent
      obtain ⟨above, below⟩ := (consecutive.mem_folded_iff lastEq).mp inside
      exact joins.free single index member above below memberPresent

/-- The only operand of a node that is to be folded is the result of the stage. -/
theorem Foldable.operands_eq_singleton
    {node : Node}
    (foldable : Foldable network stage node)
    (single : node.operands.length = 1) :
    node.operands = [.node stage.output] := by
  obtain ⟨operand, operands⟩ := List.length_eq_one_iff.mp single
  have once := foldable.once
  rw [operands] at once ⊢
  have member := List.count_pos_iff.mp (Nat.lt_of_lt_of_eq Nat.zero_lt_one once.symm)
  rw [List.mem_singleton.mp member]

/-- A binary node that is to be folded reads the result of the stage and something else. -/
theorem Foldable.operands_eq_pair
    {node : Node}
    (foldable : Foldable network stage node)
    (pair : node.operands.length = 2) :
    ∃ other, other ≠ .node stage.output ∧
      (node.operands = [.node stage.output, other] ∨ node.operands = [other, .node stage.output]) := by
  obtain ⟨left, right, operands⟩ := List.length_eq_two.mp pair
  have once := foldable.once
  rw [operands] at once ⊢
  by_cases same : left = .node stage.output
  · subst same
    refine ⟨right, ?_, Or.inl rfl⟩
    rintro rfl
    simp at once
  · refine ⟨left, same, Or.inr ?_⟩
    rw [List.count_cons_of_ne same] at once
    have member := List.count_pos_iff.mp (Nat.lt_of_lt_of_eq Nat.zero_lt_one once.symm)
    rw [List.mem_singleton.mp member]

/-- The shape that a node to be folded is refused for is the first one around it
that differs from the result it reads. -/
theorem differingShape?_eq
    {tail node : Node}
    (accepted : node.operation.acceptsOperands node.operands.length node.weights.isSome = true)
    (foldable : Foldable network stage node)
    (present : network.nodes[stage.output]? = some tail) :
    differingShape? network stage node tail.output.shape =
      (shapesAround network node).find? fun shape => shape != tail.output.shape := by
  have tensor : network.tensorOf? (.node stage.output) = some tail.output := by
    rw [tensorOf?, present]
    rfl
  have secondary := foldable.secondary
  unfold differingShape? otherShape? shapesAround tensorsOf
  cases operation : node.operation with
  | pointwise operator =>
      rw [operation] at accepted
      obtain ⟨other, different, operands⟩ := foldable.operands_eq_pair (eq_of_beq accepted)
      rcases operands with operands | operands <;>
        cases found : network.tensorOf? other <;>
          simp [operands, tensor, different, found, List.find?_cons]
  | scaleBias scale bias =>
      rw [operation] at accepted
      simp [foldable.operands_eq_singleton (eq_of_beq accepted), tensor]
  | activation =>
      rw [operation] at accepted
      simp [foldable.operands_eq_singleton (eq_of_beq accepted), tensor]
  | _ =>
      rw [operation] at secondary
      cases secondary

/-- A node that does not join the stage before it begins one of its own. -/
theorem folds_eq_false
    {index : Nat}
    {node : Node}
    (apart : ¬ Foldable network stage node) :
    folds network stage index node = .ok false := by
  rw [folds, if_neg (mt wantsToFold_iff.mp apart)]

/-- A node that joins the stage before it is folded unless a shape differs. -/
theorem folds_of_foldable
    {index : Nat}
    {tail node : Node}
    (accepted : node.operation.acceptsOperands node.operands.length node.weights.isSome = true)
    (foldable : Foldable network stage node)
    (present : network.nodes[stage.output]? = some tail) :
    folds network stage index node =
      match (shapesAround network node).find? fun shape => shape != tail.output.shape with
      | some found => .error (.fusionShapeMismatch index tail.output.shape found)
      | none => .ok true := by
  rw [folds, if_pos (wantsToFold_iff.mpr foldable), ← differingShape?_eq accepted foldable present]
  cases found : network.nodes[stage.output]? with
  | none =>
      rw [found] at present
      cases present
  | some other =>
      rw [found] at present
      cases present
      rfl

/-- One step of grouping with folding. -/
theorem groupFrom_cons (current : Stage) (index : Nat) (node : Node) (rest : List Node) :
    groupFrom true network current index (node :: rest) =
      match folds network current index node with
      | .error error => .error error
      | .ok true => groupFrom true network (current.fold index) (index + 1) rest
      | .ok false => (groupFrom true network ⟨index, []⟩ (index + 1) rest).map (current :: ·) := by
  rw [groupFrom, if_pos rfl]
  cases folds network current index node with
  | error error => rfl
  | ok folded =>
      cases folded with
      | true => rfl
      | false =>
          cases groupFrom true network ⟨index, []⟩ (index + 1) rest <;> rfl

/-- Where grouping is: the stage that may still grow ends with the node before
those that are left, and begins where the stage of that node does. -/
structure Growing (network : Network) (current : Stage) (last : Nat) (rest : List Node) :
    Prop where
  consecutive : Consecutive network current
  lastEq : last = current.primary + current.folded.length
  begins : Begins network current.primary last
  restEq : network.nodes.drop (last + 1) = rest

namespace Growing

variable {current : Stage} {last : Nat} {node : Node} {rest : List Node}

theorem present (growing : Growing network current last (node :: rest)) :
    network.nodes[last + 1]? = some node :=
  (drop_eq_cons growing.restEq).1

theorem foldable_iff (growing : Growing network current last (node :: rest)) :
    Foldable network current node ↔ Joins network current.primary last node :=
  foldable_iff_joins growing.consecutive growing.lastEq growing.present

/-- The stage goes on with a node that joins it. -/
theorem fold
    (growing : Growing network current last (node :: rest))
    (joins : Joins network current.primary last node) :
    Growing network (current.fold (last + 1)) (last + 1) rest where
  consecutive := by
    apply growing.consecutive.fold
    · rw [growing.lastEq]
    · rw [operandsAt_eq growing.present]
      exact (growing.foldable_iff.mpr joins).once
  lastEq := by
    rw [fold_primary, length_fold, growing.lastEq, Nat.add_assoc]
  begins := .joined growing.begins joins
  restEq := (drop_eq_cons growing.restEq).2

/-- A node that does not join the stage begins the next one. -/
theorem next
    (growing : Growing network current last (node :: rest))
    (apart : ¬ Joins network current.primary last node) :
    Growing network ⟨last + 1, []⟩ (last + 1) rest where
  consecutive := consecutive_singleton _
  lastEq := rfl
  begins := by
    apply Begins.apart growing.begins
    intro other joins
    have same := joins.present
    rw [growing.present] at same
    cases same
    exact apart joins
  restEq := (drop_eq_cons growing.restEq).2

/-- Only the next node, and only a shape around it, can clash with the stage. -/
theorem clash_iff
    {tail : Node}
    {expected found : Tensor.Shape}
    (growing : Growing network current last (node :: rest))
    (present : network.nodes[last]? = some tail) :
    Clash network last expected found ↔ tail.output.shape = expected ∧
      Joins network current.primary last node ∧
        (shapesAround network node).find? (fun shape => shape != expected) = some found := by
  constructor
  · rintro ⟨⟨other, otherPresent, rfl⟩, first, next, begins, joins, differs⟩
    have same := joins.present
    rw [growing.present] at same
    rw [present] at otherPresent
    cases same
    cases otherPresent
    rw [begins.unique growing.begins] at joins
    exact ⟨rfl, joins, differs⟩
  · rintro ⟨rfl, joins, differs⟩
    exact ⟨⟨tail, present, rfl⟩, _, node, growing.begins, joins, differs⟩

/-- What becomes of the next node: it clashes with the stage, joins it or begins one. -/
theorem folds_cases
    (valid : network.validate = .ok ())
    (growing : Growing network current last (node :: rest)) :
    (∃ expected found, Clash network last expected found ∧
        folds network current (last + 1) node =
          .error (.fusionShapeMismatch (last + 1) expected found)) ∨
      (∀ expected found, ¬ Clash network last expected found) ∧
        (Joins network current.primary last node ∧
            folds network current (last + 1) node = .ok true ∨
          ¬ Joins network current.primary last node ∧
            folds network current (last + 1) node = .ok false) := by
  have inside := (List.getElem?_eq_some_iff.mp growing.present).1
  have present : network.nodes[last]? = some network.nodes[last] :=
    List.getElem?_eq_getElem (Nat.lt_of_succ_lt inside)
  by_cases joins : Joins network current.primary last node
  · have outputPresent : network.nodes[current.output]? = some network.nodes[last] := by
      rw [growing.consecutive.output_eq, ← growing.lastEq, present]
    have decided := @folds_of_foldable _ _ (last + 1) _ _
      (accepted_of_validate valid growing.present).1 (growing.foldable_iff.mpr joins) outputPresent
    cases differs : (shapesAround network node).find? fun shape =>
        shape != network.nodes[last].output.shape with
    | some found =>
        rw [differs] at decided
        exact Or.inl ⟨_, found, (growing.clash_iff present).mpr ⟨rfl, joins, differs⟩, decided⟩
    | none =>
        rw [differs] at decided
        refine Or.inr ⟨?_, Or.inl ⟨joins, decided⟩⟩
        intro expected found clash
        obtain ⟨rfl, -, other⟩ := (growing.clash_iff present).mp clash
        rw [differs] at other
        cases other
  · refine Or.inr ⟨?_, Or.inr ⟨joins, folds_eq_false (mt growing.foldable_iff.mp joins)⟩⟩
    exact fun expected found clash => joins ((growing.clash_iff present).mp clash).2.1

end Growing

/-- An error reports the first clash from a place on. -/
def Reports (network : Network) (start : Nat) (error : ProgramError) : Prop :=
  ∃ place expected found, error = .fusionShapeMismatch (place + 1) expected found ∧
    Clash network place expected found ∧
    ∀ earlier, start ≤ earlier → earlier < place → ∀ expected found,
      ¬ Clash network earlier expected found

/-- Where nothing clashes the first clash is the first one behind. -/
theorem Reports.from_next
    {start : Nat}
    {error : ProgramError}
    (here : ∀ expected found, ¬ Clash network start expected found)
    (reports : Reports network (start + 1) error) :
    Reports network start error := by
  obtain ⟨place, expected, found, equal, clash, none⟩ := reports
  refine ⟨place, expected, found, equal, clash, ?_⟩
  intro earlier notBefore before
  rcases Nat.eq_or_lt_of_le notBefore with same | behind
  · rwa [← same]
  · exact none earlier behind before

/-- Grouping that fails does so at the first node that is to join a stage but has
another shape. -/
theorem reports_of_groupFrom
    {current : Stage}
    {last : Nat}
    {rest : List Node}
    {error : ProgramError}
    (valid : network.validate = .ok ())
    (growing : Growing network current last rest)
    (failed : groupFrom true network current (last + 1) rest = .error error) :
    Reports network last error := by
  induction rest generalizing current last with
  | nil => cases failed
  | cons node rest inductionHypothesis =>
      rw [groupFrom_cons] at failed
      rcases growing.folds_cases valid with
        ⟨expected, found, clash, decided⟩ | ⟨none, ⟨joins, decided⟩ | ⟨apart, decided⟩⟩
      · rw [decided] at failed
        refine ⟨last, expected, found, (Except.error.inj failed).symm, clash, ?_⟩
        intro earlier notBefore before
        omega
      · rw [decided] at failed
        exact (inductionHypothesis (growing.fold joins) failed).from_next none
      · rw [decided] at failed
        refine (inductionHypothesis (growing.next apart) ?_).from_next none
        cases grouped : groupFrom true network ⟨last + 1, []⟩ (last + 1 + 1) rest with
        | error other =>
            rw [grouped] at failed
            exact failed
        | ok stages =>
            rw [grouped] at failed
            cases failed

/-- Grouping that succeeds ends each stage where no node joins it. -/
theorem closed_of_groupFrom
    {current : Stage}
    {last : Nat}
    {rest : List Node}
    {stages : List Stage}
    (valid : network.validate = .ok ())
    (growing : Growing network current last rest)
    (success : groupFrom true network current (last + 1) rest = .ok stages) :
    ∀ stage ∈ stages, ∀ node, ¬ Joins network stage.primary stage.output node := by
  have outputEq : current.output = last := growing.consecutive.output_eq.trans growing.lastEq.symm
  induction rest generalizing current last stages with
  | nil =>
      cases success
      have ends : network.nodes[last + 1]? = none :=
        List.getElem?_eq_none (List.drop_eq_nil_iff.mp growing.restEq)
      intro stage member node joins
      rw [List.mem_singleton.mp member] at joins
      have present := joins.present
      rw [outputEq, ends] at present
      cases present
  | cons node rest inductionHypothesis =>
      rw [groupFrom_cons] at success
      rcases growing.folds_cases valid with
        ⟨expected, found, -, decided⟩ | ⟨-, ⟨joins, decided⟩ | ⟨apart, decided⟩⟩
      · rw [decided] at success
        cases success
      · rw [decided] at success
        have longer := growing.fold joins
        exact inductionHypothesis longer success
          (longer.consecutive.output_eq.trans longer.lastEq.symm)
      · rw [decided] at success
        obtain ⟨others, grouped, rfl⟩ := Outcome.map_eq_ok.mp success
        have closed := inductionHypothesis (growing.next apart) grouped rfl
        refine List.forall_mem_cons.mpr ⟨?_, closed⟩
        intro other joins
        rw [outputEq] at joins
        have same := joins.present
        rw [growing.present] at same
        cases same
        exact apart joins

/-- Grouping begins at the first node. -/
theorem growing_start
    {first : Node}
    {rest : List Node}
    (nodesEq : network.nodes = first :: rest) :
    Growing network ⟨0, []⟩ 0 rest where
  consecutive := consecutive_singleton 0
  lastEq := rfl
  begins := .start
  restEq := by rw [nodesEq]; rfl

namespace Grown

/-- The nodes of a stage that a node was folded into. -/
theorem mem_nodes_fold {index other : Nat} :
    other ∈ (stage.fold index).nodes ↔ other ∈ stage.nodes ∨ other = index := by
  show other ∈ stage.nodes ++ [index] ↔ _
  rw [List.mem_append, List.mem_singleton]

/-- Nodes of a grown stage that follow each other were joined. -/
theorem joins
    {index : Nat}
    (grown : Grown network stage)
    (here : index ∈ stage.nodes)
    (next : index + 1 ∈ stage.nodes) :
    ∃ node, Joins network stage.primary index node := by
  induction grown with
  | single inside =>
      have first := List.mem_singleton.mp here
      have second := List.mem_singleton.mp next
      omega
  | @fold stage last node grown present behind folded inductionHypothesis =>
      have consecutive := grown.consecutive
      have bounds := fun index => @consecutive.mem_nodes_iff _ _ index _ rfl
      rw [mem_nodes_fold, bounds] at here next
      by_cases inside : index + 1 ≤ stage.primary + stage.folded.length
      · exact inductionHypothesis ((bounds index).mpr (by omega)) ((bounds _).mpr (by omega))
      · have ends : index = stage.primary + stage.folded.length := by omega
        have lastEq : last = index + 1 := by omega
        rw [lastEq] at present
        exact ⟨node, (foldable_iff_joins consecutive ends present).mp (folds_eq_ok_true folded).1⟩

/-- All shapes inside a grown stage agree. -/
theorem shapes
    (valid : network.validate = .ok ())
    (grown : Grown network stage) :
    ∃ shape, ∀ (index : Nat) (node : Node), index ∈ stage.nodes →
      network.nodes[index]? = some node → node.output.shape = shape ∧
        (index ∈ stage.folded → ∀ operand ∈ node.operands, ∀ tensor,
          network.tensorOf? operand = some tensor → tensor.shape = shape) := by
  induction grown with
  | @single first inside =>
      refine ⟨network.nodes[first].output.shape, ?_⟩
      intro index node member present
      rw [List.mem_singleton.mp member, List.getElem?_eq_getElem inside] at present
      cases present
      exact ⟨rfl, by simp⟩
  | @fold stage last node grown present behind folded inductionHypothesis =>
      obtain ⟨shape, agree⟩ := inductionHypothesis
      obtain ⟨foldable, tail, tailPresent, -⟩ := folds_eq_ok_true folded
      have tailShape := (agree _ tail (output_mem_nodes stage) tailPresent).1
      rw [folds_of_foldable (accepted_of_validate valid present).1 foldable tailPresent] at folded
      have around : ∀ other ∈ shapesAround network node, other = shape := by
        split at folded
        · cases folded
        next none =>
          intro other member
          have same := List.find?_eq_none.mp none other member
          rw [← tailShape]
          simpa using same
      refine ⟨shape, ?_⟩
      intro index other member otherPresent
      rcases mem_nodes_fold.mp member with earlier | rfl
      · obtain ⟨output, operands⟩ := agree index other earlier otherPresent
        refine ⟨output, ?_⟩
        intro inside
        apply operands
        rcases List.mem_append.mp inside with before | here
        · exact before
        · have bound := (grown.consecutive.mem_nodes_iff rfl).mp earlier
          rw [List.mem_singleton] at here
          omega
      · rw [present] at otherPresent
        cases otherPresent
        refine ⟨around _ (by simp [shapesAround]), ?_⟩
        intro _ operand read tensor found
        apply around
        have tensors : tensor ∈ tensorsOf network node.operands :=
          List.mem_filterMap.mpr ⟨operand, read, found⟩
        exact List.mem_map_of_mem (List.mem_append_left _ tensors)

end Grown

/-- Planning with folding puts the nodes behind the first one into stages. -/
theorem plan_cons
    {first : Node}
    {rest : List Node}
    (fusion : Bool)
    (nodesEq : network.nodes = first :: rest) :
    plan fusion network = groupFrom fusion network ⟨0, []⟩ 1 rest := by
  rw [plan, nodesEq]

/-- Planning with folding that succeeds makes the stages as long as they can be. -/
theorem maximal_of_plan
    {stages : List Stage}
    (valid : network.validate = .ok ())
    (planned : plan true network = .ok stages) :
    Maximal network stages := by
  have grown := grown_of_plan planned
  refine ⟨(plan_eq_ok planned).2, ?_, fun stage member => (grown stage member).shapes valid⟩
  intro stage member index inside
  constructor
  · exact (grown stage member).joins inside
  · rintro ⟨node, joins⟩
    obtain ⟨first, rest, nodesEq⟩ := List.exists_cons_of_ne_nil (facts_of_validate valid).1
    rw [plan_cons true nodesEq] at planned
    have closed := closed_of_groupFrom valid (growing_start nodesEq) planned stage member
    have bounds := fun index =>
      @(grown stage member).consecutive.mem_nodes_iff _ _ index _ rfl
    have outputEq := (grown stage member).consecutive.output_eq
    have different : index ≠ stage.output := by
      rintro rfl
      exact closed node joins
    rw [bounds] at inside ⊢
    omega

/-- The stages of a plan begin where the rule says. -/
theorem exists_stage_of_begins
    {stages : List Stage}
    {first last : Nat}
    (valid : network.validate = .ok ())
    (planned : plan true network = .ok stages)
    (begins : Begins network first last)
    (inside : last < network.nodes.length) :
    ∃ stage ∈ stages, stage.primary = first ∧ last ∈ stage.nodes := by
  have maximal := maximal_of_plan valid planned
  have bounds : ∀ stage ∈ stages, ∀ index, index ∈ stage.nodes ↔
      stage.primary ≤ index ∧ index ≤ stage.primary + stage.folded.length :=
    fun stage member index => (grown_of_plan planned stage member).consecutive.mem_nodes_iff rfl
  have placed : ∀ index < network.nodes.length, ∃ stage ∈ stages, index ∈ stage.nodes := by
    intro index small
    rw [← List.mem_range, ← maximal.divided] at small
    exact List.mem_flatMap.mp small
  induction begins with
  | start =>
      obtain ⟨stage, member, here⟩ := placed 0 inside
      exact ⟨stage, member, Nat.le_zero.mp ((bounds stage member 0).mp here).1, here⟩
  | joined begins joins inductionHypothesis =>
      obtain ⟨stage, member, primary, here⟩ := inductionHypothesis (Nat.lt_of_succ_lt inside)
      rw [← primary] at joins
      exact ⟨stage, member, primary, (maximal.joined stage member _ here).mpr ⟨_, joins⟩⟩
  | @apart first last begins apart inductionHypothesis =>
      obtain ⟨before, beforeMember, primary, here⟩ := inductionHypothesis (Nat.lt_of_succ_lt inside)
      obtain ⟨stage, member, next⟩ := placed (last + 1) inside
      refine ⟨stage, member, ?_, next⟩
      -- A stage that begins earlier holds `last` too, so that its node would have been joined.
      by_contra different
      have nextBounds := (bounds stage member _).mp next
      have shared : last ∈ stage.nodes := (bounds stage member last).mpr (by omega)
      have same := eq_of_mem_nodes maximal.divided member beforeMember shared here
      rw [same] at next
      obtain ⟨node, joins⟩ := (maximal.joined before beforeMember last here).mp next
      rw [primary] at joins
      exact apart node joins

/-- Where planning succeeds nothing clashes. -/
theorem not_clash_of_plan
    {stages : List Stage}
    {last : Nat}
    {expected found : Tensor.Shape}
    (valid : network.validate = .ok ())
    (planned : plan true network = .ok stages) :
    ¬ Clash network last expected found := by
  rintro ⟨⟨tail, tailPresent, rfl⟩, first, node, begins, joins, differs⟩
  have maximal := maximal_of_plan valid planned
  have inside := (List.getElem?_eq_some_iff.mp tailPresent).1
  obtain ⟨stage, member, rfl, here⟩ := exists_stage_of_begins valid planned begins inside
  have next := (maximal.joined stage member last here).mpr ⟨node, joins⟩
  obtain ⟨shape, agree⟩ := maximal.shapes stage member
  have consecutive := (grown_of_plan planned stage member).consecutive
  have folded : last + 1 ∈ stage.folded := by
    rw [consecutive.mem_nodes_iff rfl] at here next
    rw [consecutive.mem_folded_iff rfl]
    omega
  obtain ⟨output, operands⟩ := agree (last + 1) node next joins.present
  have tailShape := (agree last tail here tailPresent).1
  have other : found ≠ shape := by
    rw [← tailShape]
    simpa using List.find?_some differs
  obtain ⟨tensor, around, rfl⟩ := List.mem_map.mp (List.mem_of_find?_eq_some differs)
  rcases List.mem_append.mp around with read | own
  · obtain ⟨operand, read, tensorFound⟩ := List.mem_filterMap.mp read
    exact other (operands folded operand read tensor tensorFound)
  · rw [List.mem_singleton.mp own] at other
    exact other output

/-- Shapes clash in one way only at a place. -/
theorem Clash.unique
    {last : Nat}
    {expected found otherExpected otherFound : Tensor.Shape}
    (clash : Clash network last expected found)
    (other : Clash network last otherExpected otherFound) :
    expected = otherExpected ∧ found = otherFound := by
  obtain ⟨⟨tail, tailPresent, rfl⟩, _, node, _, joins, differs⟩ := clash
  obtain ⟨⟨otherTail, otherPresent, rfl⟩, _, otherNode, _, otherJoins, otherDiffers⟩ := other
  have sameTail := tailPresent.symm.trans otherPresent
  have sameNode := joins.present.symm.trans otherJoins.present
  cases sameTail
  cases sameNode
  exact ⟨rfl, Option.some.inj (differs.symm.trans otherDiffers)⟩

/-- Planning with folding that fails does so at the first clash. -/
theorem firstClash_of_plan
    {error : ProgramError}
    (valid : network.validate = .ok ())
    (failed : plan true network = .error error) :
    ∃ last expected found, error = .fusionShapeMismatch (last + 1) expected found ∧
      FirstClash network last expected found := by
  obtain ⟨first, rest, nodesEq⟩ := List.exists_cons_of_ne_nil (facts_of_validate valid).1
  rw [plan_cons true nodesEq] at failed
  obtain ⟨last, expected, found, equal, clash, none⟩ :=
    reports_of_groupFrom valid (growing_start nodesEq) failed
  exact ⟨last, expected, found, equal, clash, fun earlier before =>
    none earlier (Nat.zero_le _) before⟩

/-- Without folding each node is a stage.  With folding the stages go on for exactly
as long as nodes join them, and planning fails exactly at the first clash. -/
theorem plan_maximal (valid : network.validate = .ok ()) :
    (∃ stages, plan false network = .ok stages ∧
      stages.flatMap nodes = List.range network.nodes.length ∧
      ∀ stage ∈ stages, stage.folded = []) ∧
    (∀ stages, plan true network = .ok stages → Maximal network stages) ∧
    ∀ error, plan true network = .error error ↔
      ∃ last expected found, error = .fusionShapeMismatch (last + 1) expected found ∧
        FirstClash network last expected found := by
  refine ⟨?_, fun stages planned => maximal_of_plan valid planned, ?_⟩
  · refine ⟨singles network, plan_unfused network, (plan_eq_ok (plan_unfused network)).2, ?_⟩
    intro stage member
    obtain ⟨index, -, rfl⟩ := List.mem_map.mp member
    rfl
  · intro error
    constructor
    · exact firstClash_of_plan valid
    · rintro ⟨last, expected, found, rfl, here, first⟩
      cases planned : plan true network with
      | ok stages => exact absurd here (not_clash_of_plan valid planned)
      | error other =>
          obtain ⟨place, otherExpected, otherFound, rfl, otherHere, otherFirst⟩ :=
            firstClash_of_plan valid planned
          have same : last = place := by
            rcases Nat.lt_trichotomy last place with before | same | after
            · exact absurd here (otherFirst last before _ _)
            · exact same
            · exact absurd otherHere (first place after _ _)
          subst same
          obtain ⟨rfl, rfl⟩ := here.unique otherHere
          rfl

/-- A pooling whose result is scaled twice, the first time to rows of a given length. -/
def rescaled (column : UInt32) : Network :=
  { inputs := [⟨⟨1, 1, 1, 2, 4⟩, .half⟩]
    nodes :=
      [ ⟨.pooling .max (1, 1) (1, 1), [.input 0], ⟨⟨1, 1, 1, 2, 4⟩, .half⟩,
          ⟨.identity, ⟨0⟩, ⟨0⟩⟩, none, none⟩,
        ⟨.scaleBias ⟨0⟩ ⟨0⟩, [.node 0], ⟨⟨1, 1, 1, 2, column⟩, .half⟩,
          ⟨.identity, ⟨0⟩, ⟨0⟩⟩, none, none⟩,
        ⟨.scaleBias ⟨0⟩ ⟨0⟩, [.node 1], ⟨⟨1, 1, 1, 2, column⟩, .half⟩,
          ⟨.identity, ⟨0⟩, ⟨0⟩⟩, none, none⟩ ] }

/-- The first scaling joins the pooling and the second does not; if the first one
has other rows, planning fails there. -/
theorem rescaled_planned :
    (rescaled 4).validate = .ok () ∧ (rescaled 5).validate = .ok () ∧
      Maximal (rescaled 4) [⟨0, [1]⟩, ⟨2, []⟩] ∧
      FirstClash (rescaled 5) 0 ⟨1, 1, 1, 2, 4⟩ ⟨1, 1, 1, 2, 5⟩ := by
  have valid : (rescaled 4).validate = .ok () := by decide
  have otherValid : (rescaled 5).validate = .ok () := by decide
  refine ⟨valid, otherValid, (plan_maximal valid).2.1 _ (by decide), ?_⟩
  obtain ⟨last, expected, found, equal, clash⟩ :=
    ((plan_maximal otherValid).2.2 (.fusionShapeMismatch 1 ⟨1, 1, 1, 2, 4⟩ ⟨1, 1, 1, 2, 5⟩)).mp
      (by decide)
  cases equal
  exact clash

end Stage
end TileProgram
