import TileProgram.Proofs.Assembly.Success
import TileProgram.Proofs.Stage.Refusals

/-!
# How assemblies fail

An assembly that fails does so in one of its passes.  Stages are refused before
they are numbered and numbered before they are checked, each time the first one
first; so the error says what has succeeded before.
-/

namespace TileProgram

/-- Whether a defect is one of a policy or a network, and not of the stages they are made into. -/
def OperandDefect.concernsInput : OperandDefect → Bool
  | .emptyStage => false
  | .foldedOperand _ => false
  | _ => true

/-- The errors of policies and networks that are not accepted. -/
inductive Unaccepted : ProgramError → Prop
  | operand (index : Nat) {defect : OperandDefect} (concerns : defect.concernsInput = true) :
      Unaccepted (.invalidOperand index defect)

theorem Layout.Policy.validate_failsWith (policy : Layout.Policy) :
    Outcome.FailsWith Unaccepted policy.validate := by
  unfold validate defect?
  dsimp only
  split
  next defect found =>
    refine Outcome.failsWith_error.mpr (.operand 0 ?_)
    split at found
    · cases found
      rfl
    split at found
    · cases found
      rfl
    split at found
    · cases found
      rfl
    · cases found
  · exact Outcome.failsWith_ok _

namespace Network

variable {network : Network}

theorem concernsInput_of_firstDefect?
    {start index : Nat}
    {nodes : List Node}
    {defect : OperandDefect}
    (found : network.firstDefect? start nodes = some (index, defect)) :
    defect.concernsInput = true := by
  induction nodes generalizing start with
  | nil => cases found
  | cons node rest inductionHypothesis =>
      rw [firstDefect?] at found
      split at found
      next defect here =>
        cases found
        unfold nodeDefect? at here
        split at here
        · cases here
          rfl
        split at here
        · cases here
          rfl
        split at here
        · cases here
          rfl
        · cases here
      · exact inductionHypothesis found

theorem validate_failsWith (network : Network) :
    Outcome.FailsWith Unaccepted network.validate := by
  unfold validate
  split
  · exact Outcome.failsWith_error.mpr (.operand 0 rfl)
  split
  · exact Outcome.failsWith_error.mpr (.operand 0 rfl)
  split
  next found =>
    exact Outcome.failsWith_error.mpr (.operand _ (concernsInput_of_firstDefect? found))
  · exact Outcome.failsWith_ok _

end Network

namespace Stage

open Network

variable {network : Network}

/-- The errors of nodes that cannot be put into stages. -/
inductive Ungrouped : ProgramError → Prop
  | shapes (index : Nat) (expected found : Tensor.Shape) :
      Ungrouped (.fusionShapeMismatch index expected found)

theorem folds_failsWith (stage : Stage) (index : Nat) (node : Node) :
    Outcome.FailsWith Ungrouped (folds network stage index node) := by
  unfold folds
  split
  · split
    · exact Outcome.failsWith_ok _
    · split
      · exact Outcome.failsWith_error.mpr (.shapes ..)
      · exact Outcome.failsWith_ok _
  · exact Outcome.failsWith_ok _

theorem groupFrom_failsWith (fusion : Bool) (current : Stage) (index : Nat) (rest : List Node) :
    Outcome.FailsWith Ungrouped (groupFrom fusion network current index rest) := by
  induction rest generalizing current index with
  | nil => exact Outcome.failsWith_ok _
  | cons node rest inductionHypothesis =>
      have continues : ∀ folded : Bool, Outcome.FailsWith Ungrouped
          (if folded then groupFrom fusion network (current.fold index) (index + 1) rest
            else do
              return current :: (← groupFrom fusion network ⟨index, []⟩ (index + 1) rest)) := by
        intro folded
        cases folded with
        | true => exact inductionHypothesis _ _
        | false =>
            exact (inductionHypothesis _ _).bind fun others _ => Outcome.failsWith_pure _
      rw [groupFrom]
      cases fusion with
      | false => exact continues false
      | true => exact (folds_failsWith current index node).bind fun folded _ => continues folded

/-- Nodes are put into stages unless the shapes of a node to be folded differ. -/
theorem plan_failsWith (fusion : Bool) (network : Network) :
    Outcome.FailsWith Ungrouped (plan fusion network) := by
  unfold plan
  split
  · exact Outcome.failsWith_ok _
  · exact groupFrom_failsWith fusion _ _ _

end Stage

namespace Assembly

open Network Stage Container Register

section Passes

variable {policy : Layout.Policy} {network : Network} {stages : List Stage}

/-- The errors of surfaces that have no room in device memory. -/
inductive Unplaced : ProgramError → Prop
  | overflow (index : Nat) (name : Name) (value : Int) (width : Nat) :
      Unplaced (.invalidRecord index (.fieldOverflow name value width))

/-- Surfaces are refused when they have no room. -/
theorem placeAll_failsWith (allocator : Layout.Allocator) (items : List (Nat × Tensor)) :
    Outcome.FailsWith Unplaced (placeAll policy allocator items) := by
  induction items generalizing allocator with
  | nil => exact Outcome.failsWith_ok _
  | cons item rest inductionHypothesis =>
      obtain ⟨index, tensor⟩ := item
      have here : Outcome.FailsWith Unplaced (place policy allocator index tensor) := by
        unfold place
        dsimp only
        split
        · split
          · exact Outcome.failsWith_error.mpr (.overflow ..)
          · exact Outcome.failsWith_ok _
        · exact Outcome.failsWith_error.mpr (.overflow ..)
      rw [placeAll]
      refine here.bind ?_
      rintro ⟨placed, next⟩ _
      refine (inductionHypothesis next).bind ?_
      intro others _
      exact Outcome.failsWith_pure _

theorem placeNetwork_failsWith :
    Outcome.FailsWith Unplaced (placeNetwork policy network stages) := by
  refine (placeAll_failsWith _ _).bind ?_
  rintro ⟨placedInputs, next⟩ _
  refine (placeAll_failsWith _ _).bind ?_
  intro placedResults _
  exact Outcome.failsWith_pure _

variable {alignment index : Nat} {draft : Draft}

/-- A blob is refused, on behalf of its record, when there is no room for it. -/
theorem addOptional_failsWith
    {kind : RelocationKind}
    {word : String}
    (blob : Option Bytes) :
    Outcome.FailsWith (Refusal index) (draft.addOptional alignment index kind word blob) := by
  cases blob with
  | none => exact Outcome.failsWith_ok _
  | some blob =>
      refine Outcome.FailsWith.map (Outcome.FailsWith.bind ?_ fun _ _ => Outcome.failsWith_pure _)
      unfold Draft.pushBlob
      dsimp only
      split
      · exact Outcome.failsWith_error.mpr (.overflow ..)
      · split
        · exact Outcome.failsWith_error.mpr (.overflow ..)
        · exact Outcome.failsWith_ok _

/-- A stage is refused for itself or for its blobs. -/
theorem addStage_failsWith
    {primary : Node}
    {folded : List Node}
    {inputs : List Placed}
    {output : Placed}
    {hints : Residency.StageHints} :
    Outcome.FailsWith (Refusal index)
      (draft.addStage alignment index (primary :: folded) inputs output hints) := by
  rw [Draft.addStage, Draft.addWeights_eq]
  refine (addOptional_failsWith _).bind ?_
  rintro ⟨weights, withWeights⟩ _
  refine encode_failsWith.bind ?_
  intro record _
  rw [Draft.addTable_eq]
  refine (addOptional_failsWith _).map.bind ?_
  intro withTable _
  exact Outcome.failsWith_pure _

/-- If a stage is refused, then those before it were encoded. -/
theorem encodeFrom_eq_error
    {placement : Placement}
    {reads : Residency.Reads}
    {hints : List Residency.StageHints}
    {start : Nat}
    {error : ProgramError}
    (positive : 0 < alignment)
    (grown : ∀ stage ∈ stages, Grown network stage)
    (failed : encodeFrom alignment network placement reads hints draft start stages =
      .error error) :
    ∃ position, Refusal (start + position) error ∧
      ∀ earlier < position, ∃ stage weights record, stages[earlier]? = some stage ∧
        Stage.encode (start + earlier) (stage.nodesOf network)
          ⟨inputsOf placement reads (start + earlier),
            placement.lookup (.stage (start + earlier)), weights,
            (hints[start + earlier]?).getD default⟩ = .ok record := by
  induction stages generalizing draft start with
  | nil => cases failed
  | cons stage rest inductionHypothesis =>
      obtain ⟨here, others⟩ := List.forall_mem_cons.mp grown
      rw [encodeFrom, Outcome.seq_eq_error] at failed
      rcases failed with refused | ⟨next, added, failed⟩
      · obtain ⟨primary, folded, -, -, nodesEq⟩ := nodesOf_grown here
        rw [nodesEq] at refused
        exact ⟨0, addStage_failsWith error refused, by simp⟩
      · obtain ⟨position, refused, before⟩ := inductionHypothesis others failed
        have shift : ∀ offset, start + 1 + offset = start + (offset + 1) := by
          intro offset
          omega
        refine ⟨position + 1, shift position ▸ refused, ?_⟩
        intro earlier less
        cases earlier with
        | zero =>
            obtain ⟨weights, table, record, step⟩ := Draft.addStage_eq_ok positive added
            exact ⟨stage, weights, record, rfl, step.encoded⟩
        | succ earlier =>
            obtain ⟨other, weights, record, present, encoded⟩ := before earlier (by omega)
            rw [shift] at encoded
            exact ⟨other, weights, record, present, encoded⟩

/-- The error of a record that has no task number. -/
def unnumbered : ProgramError :=
  .invalidRecord 65536 (.fieldOverflow Registers.taskId 65536 16)

/-- Records of the built-in table can be numbered up to the last task number. -/
theorem chainFrom_eq_error
    {count start : Nat}
    {records : List Descriptor}
    {error : ProgramError}
    (builtIn : ∀ record ∈ records, record.table = .standard)
    (low : start ≤ 65536)
    (failed : chainFrom count start records = .error error) :
    error = unnumbered ∧ 65536 < start + records.length := by
  induction records generalizing start with
  | nil => cases failed
  | cons record rest inductionHypothesis =>
      obtain ⟨here, others⟩ := List.forall_mem_cons.mp builtIn
      rw [List.length_cons]
      rcases Nat.lt_or_eq_of_le low with small | rfl
      · obtain ⟨changed, assigned⟩ :=
          (Descriptor.exists_assigned_iff record (chainAssignments count start)).mpr
            (here ▸ takes_chain small)
        rw [chainFrom, assigned] at failed
        rcases Outcome.seq_eq_error.mp failed with impossible | ⟨_, -, failed⟩
        · cases impossible
        rcases Outcome.seq_eq_error.mp failed with failed | ⟨_, -, impossible⟩
        · obtain ⟨equal, many⟩ := inductionHypothesis others small failed
          exact ⟨equal, by omega⟩
        · cases impossible
      · -- The task number has sixteen bits.
        have refused : record.assigned (chainAssignments count 65536) =
            .error (.fieldOverflow Registers.taskId 65536 16) := by
          have written : record.assign (.unsigned Registers.taskId 65536) =
              .error (.fieldOverflow Registers.taskId 65536 16) := by
            rw [Descriptor.assign, here]
            rfl
          rw [chainAssignments, Descriptor.taskIdAssignments, List.singleton_append,
            Descriptor.assigned_cons, written]
          rfl
        rw [chainFrom, refused] at failed
        cases failed
        exact ⟨rfl, by omega⟩

/-- If a record fails its check, then those before it passed. -/
theorem validateFrom_eq_error
    {start : Nat}
    {records : List Descriptor}
    {error : ProgramError}
    (failed : validateFrom start records = .error error) :
    ∃ position record cause, records[position]? = some record ∧
      record.validate = .error cause ∧ error = .invalidRecord (start + position) cause ∧
      ∀ earlier < position, ∃ other, records[earlier]? = some other ∧
        other.validate = .ok () := by
  induction records generalizing start with
  | nil => cases failed
  | cons record rest inductionHypothesis =>
      rw [validateFrom] at failed
      cases checked : record.validate with
      | error cause =>
          rw [checked] at failed
          cases failed
          exact ⟨0, record, cause, rfl, checked, rfl, by simp⟩
      | ok _ =>
          rw [checked] at failed
          obtain ⟨position, found, cause, present, invalid, rfl, before⟩ :=
            inductionHypothesis failed
          refine ⟨position + 1, found, cause, present, invalid, ?_, ?_⟩
          · rw [Nat.add_assoc, Nat.add_comm 1]
          · intro earlier less
            cases earlier with
            | zero => exact ⟨record, rfl, checked⟩
            | succ earlier => exact before earlier (by omega)

end Passes

section Assemblies

variable {policy : Layout.Policy} {network : Network}

/-- A record is that of a stage, encoded by itself with some weights and the planned hints. -/
def Prepared.Encodes (prepared : Prepared policy network) (index : Nat) (record : Descriptor) :
    Prop :=
  ∃ stage weights, prepared.stages[index]? = some stage ∧
    Stage.encode index (stage.nodesOf network) (prepared.binding index weights
      (((Residency.Reads.plan prepared.reads)[index]?).getD default)) = .ok record

/-- A chained record is as valid as it was before it was numbered. -/
theorem Chained.encodes
    (steps : Chained policy network)
    {index : Nat}
    {changed : Descriptor}
    (present : steps.linked[index]? = some changed) :
    ∃ record, steps.prepared.Encodes index record ∧ record.validate = changed.validate := by
  obtain ⟨stage, stagePresent⟩ := steps.exists_stage present
  obtain ⟨weights, record, other, -, otherPresent, encoded, assigned, -, -⟩ :=
    steps.record stagePresent
  rw [present] at otherPresent
  cases otherPresent
  exact ⟨record, ⟨stage, weights, stagePresent, encoded⟩,
    (steps.prepared.validate_linked stagePresent encoded assigned).symm⟩

/-- How an assembly fails: the pass that failed, and what had succeeded before. -/
inductive Failure (policy : Layout.Policy) (network : Network) : ProgramError → Prop
  | accepting {error : ProgramError} (refused : Unaccepted error) : Failure policy network error
  | grouping {error : ProgramError} (refused : Ungrouped error) : Failure policy network error
  | placing {stages : List Stage} {error : ProgramError}
      (planned : Stage.plan policy.fusion network = .ok stages)
      (refused : placeNetwork policy network stages = .error error) :
      Failure policy network error
  | encoding {position : Nat} {error : ProgramError} (prepared : Prepared policy network)
      (refused : Refusal position error)
      (before : ∀ earlier < position, ∃ record, prepared.Encodes earlier record) :
      Failure policy network error
  | numbering (prepared : Prepared policy network)
      (before : ∀ earlier < 65536, ∃ record, prepared.Encodes earlier record) :
      Failure policy network unnumbered
  | validating {position : Nat} {record : Descriptor} (prepared : Prepared policy network)
      (encoded : prepared.Encodes position record)
      (missing : record.validate = .error .missingTable)
      (before : ∀ earlier < position, ∃ record, prepared.Encodes earlier record ∧
        record.validate = .ok ()) :
      Failure policy network (.invalidRecord position .missingTable)
  | relocating (count : Nat) :
      Failure policy network (.invalidContainer (.tooManyRelocations count greatestRelocations))

/-- A check of chained records that fails is that of a lookup table. -/
theorem Chained.failure_of_validateFrom
    (steps : Chained policy network)
    {error : ProgramError}
    (failed : validateFrom 0 steps.linked = .error error) :
    Failure policy network error := by
  obtain ⟨position, changed, cause, present, invalid, rfl, before⟩ :=
    validateFrom_eq_error failed
  obtain ⟨stage, stagePresent⟩ := steps.exists_stage present
  have missing : cause = .missingTable := by
    rw [steps.validate_eq stagePresent present] at invalid
    split at invalid
    · cases invalid
      rfl
    · cases invalid
  obtain ⟨record, encoded, validEq⟩ := steps.encodes present
  rw [missing] at invalid ⊢
  rw [Nat.zero_add]
  refine .validating steps.prepared encoded (validEq.trans invalid) ?_
  intro earlier less
  obtain ⟨other, otherPresent, valid⟩ := before earlier less
  obtain ⟨record, encoded, validEq⟩ := steps.encodes otherPresent
  exact ⟨record, encoded, validEq.trans valid⟩

/-- Chained records make up a container unless there are too many relocations. -/
theorem Chained.failure_of_ofRecords
    (steps : Chained policy network)
    {error : ProgramError}
    (failed : ofRecords steps.linked steps.relocations steps.draft.data = .error error) :
    Failure policy network error := by
  by_cases few : steps.relocations.length ≤ greatestRelocations
  · obtain ⟨container, made⟩ := steps.exists_ofRecords few
    cases made.symm.trans failed
  · have full : ¬ steps.linked.isEmpty = true := by simpa using steps.linked_ne_nil
    rw [ofRecords, if_neg full, if_pos (Nat.lt_of_not_le few)] at failed
    cases failed
    exact .relocating _

/-- An assembly that fails does so in one of these ways. -/
theorem failure_of_assemble
    {error : ProgramError}
    (failed : assemble policy network = .error error) :
    Failure policy network error := by
  unfold assemble at failed
  rcases Outcome.seq_eq_error.mp failed with refused | ⟨⟨⟩, accepted, failed⟩
  · exact .accepting (policy.validate_failsWith _ refused)
  rcases Outcome.seq_eq_error.mp failed with refused | ⟨⟨⟩, valid, failed⟩
  · exact .accepting (network.validate_failsWith _ refused)
  rcases Outcome.seq_eq_error.mp failed with refused | ⟨stages, planned, failed⟩
  · exact .grouping (plan_failsWith _ network _ refused)
  rcases Outcome.seq_eq_error.mp failed with refused | ⟨reads, read, failed⟩
  · obtain ⟨reads, read⟩ := exists_stageReads planned valid
    cases read.symm.trans refused
  rcases Outcome.seq_eq_error.mp failed with refused | ⟨placement, placed, failed⟩
  · exact .placing planned refused
  let prepared : Prepared policy network :=
    ⟨stages, reads, placement, accepted, valid, planned, read, placed⟩
  have positive := (Layout.Policy.alignments_pos accepted).2
  rcases Outcome.seq_eq_error.mp failed with refused | ⟨draft, encoded, failed⟩
  · obtain ⟨position, refusal, before⟩ :=
      encodeFrom_eq_error positive prepared.grown refused
    rw [Nat.zero_add] at refusal
    refine .encoding prepared refusal ?_
    intro earlier less
    obtain ⟨stage, weights, record, present, encoded⟩ := before earlier less
    rw [Nat.zero_add] at encoded
    exact ⟨record, stage, weights, present, encoded⟩
  rcases Outcome.seq_eq_error.mp failed with refused | ⟨linked, chained, failed⟩
  · obtain ⟨rfl, many⟩ :=
      chainFrom_eq_error (builtIn_of_encodeFrom positive encoded) (Nat.zero_le _) refused
    refine .numbering prepared ?_
    intro earlier less
    have lengthEq := (encodeFrom_extends positive encoded).2
    rw [List.length_nil, Nat.zero_add] at lengthEq
    have inside : earlier < stages.length := by omega
    have present := List.getElem?_eq_getElem inside
    obtain ⟨weights, record, -, recorded, -⟩ := encodeFrom_encodes positive encoded present
    rw [Nat.zero_add] at recorded
    exact ⟨record, _, weights, present, recorded⟩
  let steps : Chained policy network :=
    ⟨stages, reads, placement, draft, linked, accepted, valid, planned, read, placed, encoded,
      chained⟩
  rcases Outcome.seq_eq_error.mp failed with refused | ⟨⟨⟩, -, failed⟩
  · exact steps.failure_of_validateFrom refused
  rcases Outcome.seq_eq_error.mp failed with refused | ⟨⟨⟩, -, failed⟩
  · cases steps.verify_eq.symm.trans refused
  · exact steps.failure_of_ofRecords failed

end Assemblies
end Assembly
end TileProgram
