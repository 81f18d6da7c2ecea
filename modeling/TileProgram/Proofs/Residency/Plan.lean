import Mathlib.Data.Finset.Max
import TileProgram.Proofs.Residency.Replay

/-!
# What residency is planned

The plan is made in one pass that keeps what is resident.  It depends on the
readers of each result alone: a result is kept when the next stage reads it,
until its last reader drops it.  The pass and this rule agree because of what is
resident before a stage (`stage_mem_residentBefore_iff`).
-/

namespace TileProgram
namespace Residency

/-- In a list of decreasing numbers, the first one that passes a test is the greatest. -/
theorem find?_eq_some_iff_of_decreasing
    {numbers : List Nat}
    {test : Nat → Bool}
    {found : Nat}
    (decreasing : numbers.Pairwise (· > ·)) :
    numbers.find? test = some found ↔
      (found ∈ numbers ∧ test found = true) ∧
        ∀ other ∈ numbers, test other = true → other ≤ found := by
  induction numbers with
  | nil => simp
  | cons number rest inductionHypothesis =>
      obtain ⟨greater, decreasing⟩ := List.pairwise_cons.mp decreasing
      cases passed : test number with
      | true =>
          rw [List.find?_cons_of_pos passed, Option.some.injEq]
          constructor
          · rintro rfl
            refine ⟨⟨List.mem_cons_self, passed⟩, ?_⟩
            intro other member _
            rcases List.mem_cons.mp member with rfl | member
            · exact Nat.le_refl _
            · exact Nat.le_of_lt (greater other member)
          · rintro ⟨⟨member, -⟩, greatest⟩
            have least := greatest number List.mem_cons_self passed
            rcases List.mem_cons.mp member with equal | member
            · exact equal.symm
            · exact absurd (greater found member) (Nat.not_lt_of_ge least)
      | false =>
          have skipped : ∀ other, test other = true → other ≠ number := by
            rintro other holds rfl
            rw [passed] at holds
            cases holds
          rw [List.find?_cons_of_neg (by simp [passed]), inductionHypothesis decreasing]
          simp only [List.mem_cons]
          constructor
          · rintro ⟨⟨member, holds⟩, greatest⟩
            refine ⟨⟨Or.inr member, holds⟩, ?_⟩
            intro other member holds
            exact greatest other (member.resolve_left (skipped other holds)) holds
          · rintro ⟨⟨member, holds⟩, greatest⟩
            refine ⟨⟨member.resolve_left (skipped found holds), holds⟩, ?_⟩
            intro other member holds
            exact greatest other (Or.inr member) holds

namespace Reads

variable {reads : Reads}

/-- The stages that read the result of a stage through a lane. -/
def readers (reads : Reads) (producer : Nat) : Finset Nat :=
  (Finset.range reads.length).filter fun stage => reads.readsAt stage (.stage producer)

/-- A stage that reads something is one of the stages. -/
theorem lt_length_of_readsAt
    {stage : Nat}
    {source : Source}
    (read : reads.readsAt stage source = true) :
    stage < reads.length := by
  by_contra outside
  rw [readsAt, lanes, List.getElem?_eq_none (Nat.le_of_not_lt outside)] at read
  cases read

@[simp] theorem mem_readers {stage producer : Nat} :
    stage ∈ reads.readers producer ↔ reads.readsAt stage (.stage producer) = true := by
  rw [readers, Finset.mem_filter, Finset.mem_range]
  constructor
  · rintro ⟨-, read⟩
    exact read
  · intro read
    exact ⟨lt_length_of_readsAt read, read⟩

/-- What a stage reads through a lane, it reads. -/
theorem readsAt_of_laneSource?
    {stage : Nat}
    {lane : SourceLane}
    {source : Source}
    (read : reads.laneSource? stage lane = some source) :
    reads.readsAt stage source = true := by
  rw [readsAt, List.contains_iff_mem]
  exact List.mem_of_getElem? read

/-- The last reader of a source is the greatest of its readers. -/
theorem lastReader?_eq_some_iff {source : Source} {stage : Nat} :
    reads.lastReader? source = some stage ↔
      reads.readsAt stage source = true ∧
        ∀ other, reads.readsAt other source = true → other ≤ stage := by
  rw [lastReader?, find?_eq_some_iff_of_decreasing (by
    rw [List.pairwise_reverse]
    exact List.pairwise_lt_range)]
  simp only [List.mem_reverse, List.mem_range]
  constructor
  · rintro ⟨⟨-, read⟩, greatest⟩
    exact ⟨read, fun other other_read => greatest other (lt_length_of_readsAt other_read) other_read⟩
  · rintro ⟨read, greatest⟩
    exact ⟨⟨lt_length_of_readsAt read, read⟩, fun other _ other_read => greatest other other_read⟩

/-- What is resident before a stage, as the plan is made. -/
def residentBefore (reads : Reads) : Nat → List Source
  | 0 => []
  | stage + 1 => reads.residentAfter (reads.residentBefore stage) stage

/-- The hints are those of each stage with what is resident before it. -/
theorem planFrom_residentBefore (reads : Reads) (stage count : Nat) :
    reads.planFrom (reads.residentBefore stage) stage count =
      (List.range' stage count).map fun other =>
        reads.stageHints (reads.residentBefore other) other := by
  induction count generalizing stage with
  | zero => rfl
  | succ count inductionHypothesis =>
      rw [planFrom, List.range'_succ, List.map_cons]
      exact congrArg _ (inductionHypothesis (stage + 1))

theorem plan_eq_stageHints (reads : Reads) :
    reads.plan = (List.range reads.length).map fun stage =>
      reads.stageHints (reads.residentBefore stage) stage := by
  rw [List.range_eq_range']
  exact planFrom_residentBefore reads 0 reads.length

/-- What is resident is dropped by the last stage that reads it. -/
theorem sourceHint_eq_drop_iff
    {resident : List Source}
    {stage : Nat}
    {source : Source}
    (present : source ∈ resident) :
    reads.sourceHint resident stage source = .drop ↔ reads.lastReader? source = some stage := by
  unfold sourceHint
  rw [if_neg (by simpa using present)]
  by_cases last : reads.lastReader? source = some stage
  · rw [if_pos (by simpa using last)]
    simp [last]
  · rw [if_neg (by simpa using last)]
    split
    · simp [last]
    · simp [last]

/-- A stage drops what it is the last to read. -/
theorem dropped_iff
    {resident : List Source}
    {stage : Nat}
    {source : Source}
    (present : source ∈ resident) :
    (reads.readsAt stage source && reads.sourceHint resident stage source == .drop) = true ↔
      reads.lastReader? source = some stage := by
  rw [Bool.and_eq_true, beq_iff_eq, sourceHint_eq_drop_iff present]
  constructor
  · rintro ⟨-, last⟩
    exact last
  · intro last
    exact ⟨(lastReader?_eq_some_iff.mp last).1, last⟩

/-- A stage makes its result resident if the next stage reads it, and drops what it is the last to
read. -/
theorem mem_residentAfter_iff
    {resident : List Source}
    {stage : Nat}
    {source : Source} :
    source ∈ reads.residentAfter resident stage ↔
      (source = .stage stage ∧ reads.readsAt (stage + 1) source = true) ∨
        (source ∈ resident ∧ reads.lastReader? source ≠ some stage) := by
  have kept : source ∈ (resident.filter fun source =>
      !(reads.readsAt stage source && reads.sourceHint resident stage source == .drop)) ↔
        source ∈ resident ∧ reads.lastReader? source ≠ some stage := by
    rw [List.mem_filter]
    refine and_congr_right ?_
    intro present
    rw [Bool.not_eq_true', ← Bool.not_eq_true, dropped_iff present]
  unfold residentAfter
  dsimp only
  by_cases next : reads.readsAt (stage + 1) (.stage stage) = true
  · rw [if_pos next, List.mem_cons, kept]
    refine or_congr_left ?_
    constructor
    · rintro rfl
      exact ⟨rfl, next⟩
    · rintro ⟨equal, -⟩
      exact equal
  · rw [if_neg next, kept]
    constructor
    · exact Or.inr
    · rintro (⟨rfl, read⟩ | held)
      · exact absurd read next
      · exact held

/-- Before a stage, the results of earlier stages are resident that the stage behind their own
reads and that have a reader left.  By induction on the stage. -/
theorem stage_mem_residentBefore_iff {stage producer : Nat} :
    .stage producer ∈ reads.residentBefore stage ↔
      producer < stage ∧ producer + 1 ∈ reads.readers producer ∧
        ∃ reader ∈ reads.readers producer, stage ≤ reader := by
  induction stage with
  | zero => simp [residentBefore]
  | succ stage inductionHypothesis =>
      rw [residentBefore, mem_residentAfter_iff, inductionHypothesis, ne_eq,
        lastReader?_eq_some_iff]
      simp only [mem_readers, Source.stage.injEq]
      constructor
      · rintro (⟨rfl, next⟩ | ⟨⟨before, next, reader, read, left⟩, notLast⟩)
        · exact ⟨Nat.lt_succ_self _, next, _, next, Nat.le_refl _⟩
        · refine ⟨by omega, next, ?_⟩
          by_contra none
          have bound : ∀ other, reads.readsAt other (.stage producer) = true → other ≤ stage := by
            intro other other_read
            by_contra behind
            exact none ⟨other, other_read, by omega⟩
          have here : reader = stage := Nat.le_antisymm (bound reader read) left
          exact notLast ⟨here ▸ read, bound⟩
      · rintro ⟨before, next, reader, read, left⟩
        rcases Nat.lt_succ_iff_lt_or_eq.mp before with before | rfl
        · refine Or.inr ⟨⟨before, next, reader, read, by omega⟩, ?_⟩
          rintro ⟨-, bound⟩
          have := bound reader read
          omega
        · exact Or.inl ⟨rfl, next⟩

/-- Inputs are never resident. -/
theorem input_not_mem_residentBefore (stage index : Nat) :
    .input index ∉ reads.residentBefore stage := by
  induction stage with
  | zero => simp [residentBefore]
  | succ stage inductionHypothesis =>
      rw [residentBefore, mem_residentAfter_iff]
      rintro (⟨equal, -⟩ | ⟨present, -⟩)
      · cases equal
      · exact inductionHypothesis present

/-- Nothing is resident behind the last stage. -/
theorem residentBefore_length (reads : Reads) : reads.residentBefore reads.length = [] := by
  rw [List.eq_nil_iff_forall_not_mem]
  intro source present
  cases source with
  | input index => exact input_not_mem_residentBefore _ _ present
  | stage producer =>
      obtain ⟨-, -, reader, read, behind⟩ := stage_mem_residentBefore_iff.mp present
      have inside := lt_length_of_readsAt (mem_readers.mp read)
      omega

/-- The hint for what a stage reads through a lane, by the readers of that result alone. -/
def readerHint (reads : Reads) (stage : Nat) : Option Source → Hint
  | none => .noAllocate
  | some (.input _) => .noAllocate
  | some (.stage producer) =>
      if producer + 1 ∉ reads.readers producer then .noAllocate
      else if ∀ reader ∈ reads.readers producer, reader ≤ stage then .drop
      else if stage + 1 ∈ reads.readers producer then .allocate
      else .deprioritize

/-- The hints of a stage, by the readers of results alone. -/
def readerHints (reads : Reads) (stage : Nat) : StageHints :=
  { first := reads.readerHint stage (reads.laneSource? stage .first)
    second := reads.readerHint stage (reads.laneSource? stage .second)
    result := if stage + 1 ∈ reads.readers stage then .allocate else .noAllocate }

/-- Every stage reads results of earlier stages only, as far as its lanes go. -/
def Backward (reads : Reads) : Prop :=
  ∀ stage producer, reads.readsAt stage (.stage producer) = true → producer < stage

/-- What is resident before a stage gives the hint that the readers give. -/
theorem sourceHint_eq_readerHint
    (backward : reads.Backward)
    {stage : Nat}
    {source : Source}
    (read : reads.readsAt stage source = true) :
    reads.sourceHint (reads.residentBefore stage) stage source =
      reads.readerHint stage (some source) := by
  unfold sourceHint
  cases source with
  | input index =>
      rw [if_pos (by simpa using input_not_mem_residentBefore stage index)]
      rfl
  | stage producer =>
      have before := backward stage producer read
      have resident : .stage producer ∈ reads.residentBefore stage ↔
          producer + 1 ∈ reads.readers producer := by
        rw [stage_mem_residentBefore_iff]
        constructor
        · rintro ⟨-, next, -⟩
          exact next
        · intro next
          exact ⟨before, next, stage, mem_readers.mpr read, Nat.le_refl _⟩
      have last : reads.lastReader? (.stage producer) = some stage ↔
          ∀ reader ∈ reads.readers producer, reader ≤ stage := by
        rw [lastReader?_eq_some_iff]
        simp only [mem_readers, read, true_and]
      rw [readerHint]
      by_cases next : producer + 1 ∈ reads.readers producer
      · rw [if_neg (by simpa using resident.mpr next), if_neg (not_not_intro next)]
        by_cases bound : ∀ reader ∈ reads.readers producer, reader ≤ stage
        · rw [if_pos (by simpa using last.mpr bound), if_pos bound]
        · rw [if_neg (by simpa using mt last.mp bound), if_neg bound]
          simp only [mem_readers]
      · rw [if_pos (by simpa using mt resident.mp next), if_pos next]

/-- So do the hints of a lane, which may be unused. -/
theorem at_stageHints_eq
    (backward : reads.Backward)
    (stage : Nat)
    (lane : SourceLane) :
    (reads.stageHints (reads.residentBefore stage) stage).at (.ofSource lane) =
      reads.readerHint stage (reads.laneSource? stage lane) := by
  cases read : reads.laneSource? stage lane with
  | none =>
      cases lane with
      | first =>
          show laneHint reads _ stage 0 = _
          rw [laneHint, show (reads.lanes stage)[0]? = none from read]
          rfl
      | second =>
          show laneHint reads _ stage 1 = _
          rw [laneHint, show (reads.lanes stage)[1]? = none from read]
          rfl
  | some source =>
      rw [at_stageHints read]
      exact sourceHint_eq_readerHint backward (readsAt_of_laneSource? read)

theorem stageHints_eq_readerHints (backward : reads.Backward) (stage : Nat) :
    reads.stageHints (reads.residentBefore stage) stage = reads.readerHints stage := by
  have first := at_stageHints_eq backward stage .first
  have second := at_stageHints_eq backward stage .second
  have result : (reads.stageHints (reads.residentBefore stage) stage).result =
      if stage + 1 ∈ reads.readers stage then .allocate else .noAllocate := by
    simp only [stageHints, mem_readers]
  rw [stageHints, readerHints, StageHints.mk.injEq]
  exact ⟨first, second, result⟩

/-- A surface that is made resident has a last reader, and the hint for it is to drop it there and
nowhere else. -/
theorem readerHint_eq_drop_iff
    {stage producer last : Nat}
    (next : producer + 1 ∈ reads.readers producer)
    (read : stage ∈ reads.readers producer)
    (lastRead : last ∈ reads.readers producer)
    (greatest : ∀ reader ∈ reads.readers producer, reader ≤ last) :
    reads.readerHint stage (some (.stage producer)) = .drop ↔ stage = last := by
  rw [readerHint, if_neg (not_not_intro next)]
  constructor
  · intro drop
    split at drop
    · next bound => exact Nat.le_antisymm (greatest stage read) (bound last lastRead)
    · split at drop
      · cases drop
      · cases drop
  · rintro rfl
    rw [if_pos greatest]

/-- If stages read earlier results only, the plan gives the hints that follow from the readers of
each result.  A result that is made resident is dropped by its last reader and by no other
one, and nothing is resident behind the last stage. -/
theorem plan_eq_readerHints (backward : reads.Backward) :
    reads.plan = (List.range reads.length).map reads.readerHints ∧
      (∀ producer hints, reads.plan[producer]? = some hints → hints.result = .allocate →
        ∃ last ∈ reads.readers producer, (∀ reader ∈ reads.readers producer, reader ≤ last) ∧
          ∀ stage lane others, reads.plan[stage]? = some others →
            reads.laneSource? stage lane = some (.stage producer) →
              (others.at (.ofSource lane) = .drop ↔ stage = last)) ∧
      reads.residentBefore reads.length = [] := by
  have planEq : reads.plan = (List.range reads.length).map reads.readerHints := by
    rw [plan_eq_stageHints]
    exact List.map_congr_left fun stage _ => stageHints_eq_readerHints backward stage
  have hintsEq : ∀ stage hints, reads.plan[stage]? = some hints →
      hints = reads.readerHints stage := by
    intro stage hints present
    rw [planEq, List.getElem?_map, Option.map_eq_some_iff] at present
    obtain ⟨other, present, rfl⟩ := present
    obtain ⟨inside, rfl⟩ := List.getElem?_eq_some_iff.mp present
    rw [List.getElem_range]
  refine ⟨planEq, ?_, residentBefore_length reads⟩
  intro producer hints present made
  have next : producer + 1 ∈ reads.readers producer := by
    rw [hintsEq producer hints present, readerHints] at made
    by_contra unread
    rw [if_neg unread] at made
    cases made
  refine ⟨_, Finset.max'_mem _ ⟨_, next⟩, Finset.le_max' _, ?_⟩
  intro stage lane others present read
  have isReader := mem_readers.mpr (readsAt_of_laneSource? read)
  have hint : others.at (.ofSource lane) = reads.readerHint stage (some (.stage producer)) := by
    rw [hintsEq stage others present, ← read]
    cases lane with
    | first => rfl
    | second => rfl
  rw [hint]
  exact readerHint_eq_drop_iff next isReader (Finset.max'_mem _ _) (Finset.le_max' _)

/-- Four stages; the first result is read by all others. -/
def reuse : Reads :=
  [[.input 0], [.stage 0], [.stage 0, .stage 1], [.stage 2, .stage 0]]

theorem reuse_backward : reuse.Backward := by
  intro stage producer read
  have inside : stage < 4 := lt_length_of_readsAt read
  rw [readsAt, List.contains_iff_mem] at read
  obtain rfl | rfl | rfl | rfl : stage = 0 ∨ stage = 1 ∨ stage = 2 ∨ stage = 3 := by omega
  · simp [lanes, reuse] at read
  · simp [lanes, reuse] at read
    omega
  · simp [lanes, reuse] at read
    omega
  · simp [lanes, reuse] at read
    omega

/-- The first result is dropped by its last reader. -/
theorem reuse_planned :
    reuse.Backward ∧ reuse.plan[0]? = some ⟨.noAllocate, .noAllocate, .allocate⟩ ∧
      reuse.plan = (List.range reuse.length).map reuse.readerHints ∧
      (∃ last ∈ reuse.readers 0, (∀ reader ∈ reuse.readers 0, reader ≤ last) ∧
        ∀ stage lane others, reuse.plan[stage]? = some others →
          reuse.laneSource? stage lane = some (.stage 0) →
            (others.at (.ofSource lane) = .drop ↔ stage = last)) ∧
      reuse.residentBefore 4 = [] := by
  have first : reuse.plan[0]? = some ⟨.noAllocate, .noAllocate, .allocate⟩ := by decide
  obtain ⟨planned, dropped, none⟩ := plan_eq_readerHints reuse_backward
  exact ⟨reuse_backward, first, planned, dropped 0 _ first rfl, none⟩

end Reads
end Residency
end TileProgram
