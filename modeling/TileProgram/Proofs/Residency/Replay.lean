import TileProgram.Proofs.Outcome
import TileProgram.Proofs.Stage.Regions
import TileProgram.Residency.Check
import TileProgram.Residency.Planner

/-!
# Planned hints are replayed

Residency is planned for sources and checked by base address.  When no two
sources have the same base, whatever the plan takes to be resident is resident
when the records are replayed, so no hint is violated.
-/

namespace TileProgram
namespace Residency

open Stage

namespace Reads

/-- What a stage reads through a lane. -/
def laneSource? (reads : Reads) (stage : Nat) (lane : SourceLane) : Option Source :=
  (lanes reads stage)[operandOf lane]?

/-- The hint of a source lane is planned from what the stage reads through it. -/
theorem at_stageHints
    {reads : Reads}
    {planned : List Source}
    {stage : Nat}
    {lane : SourceLane}
    {source : Source}
    (read : laneSource? reads stage lane = some source) :
    (stageHints reads planned stage).at (.ofSource lane) =
      sourceHint reads planned stage source := by
  cases lane with
  | first =>
      show laneHint reads planned stage 0 = _
      rw [laneHint, show (lanes reads stage)[0]? = some source from read]
  | second =>
      show laneHint reads planned stage 1 = _
      rw [laneHint, show (lanes reads stage)[1]? = some source from read]

/-- A source whose hint assumes it to be resident is planned to be. -/
theorem mem_of_assumesResident
    {reads : Reads}
    {planned : List Source}
    {stage : Nat}
    {source : Source}
    (assumes : (sourceHint reads planned stage source).assumesResident = true) :
    source ∈ planned := by
  unfold sourceHint at assumes
  split at assumes
  · cases assumes
  · next present => simpa using present

end Reads

/-- A record that reads and writes what a stage does, with given hints. -/
structure Follows (reads : Reads) (base : Source → UInt32) (hints : StageHints) (stage : Nat)
    (descriptor : Descriptor) : Prop where
  source : ∀ lane, ∃ surface, descriptor.source lane = .ok surface ∧
    surface.map StridedSurface.base = (reads.laneSource? stage lane).map base
  hint : ∀ lane, descriptor.residency lane = .ok (hints.at lane)
  destination : ∃ surface, descriptor.destination = .ok (some surface) ∧
    surface.base = base (.stage stage)

section Step

variable {reads : Reads} {base : Source → UInt32} {planned : List Source}
  {resident : List UInt32} {stage index : Nat} {descriptor : Descriptor}

/-- The address that a lane drops. -/
def dropped (reads : Reads) (base : Source → UInt32) (planned : List Source) (stage : Nat)
    (lane : SourceLane) : Option UInt32 :=
  (reads.laneSource? stage lane).bind fun source =>
    if reads.sourceHint planned stage source == .drop then some (base source) else none

/-- A planned source passes its check. -/
theorem checkSource_eq
    (follows : Follows reads base (reads.stageHints planned stage) stage descriptor)
    (held : ∀ source ∈ planned, base source ∈ resident)
    (lane : SourceLane) :
    checkSource resident index descriptor lane = .ok (dropped reads base planned stage lane) := by
  obtain ⟨surface, found, baseEq⟩ := follows.source lane
  have hint := follows.hint (.ofSource lane)
  unfold checkSource dropped
  rw [found]
  cases read : reads.laneSource? stage lane with
  | none =>
      rw [read, Option.map_none, Option.map_eq_none_iff] at baseEq
      subst baseEq
      rfl
  | some source =>
      rw [read, Option.map_some] at baseEq
      obtain ⟨surface, rfl, sameBase⟩ := Option.map_eq_some_iff.mp baseEq
      rw [Reads.at_stageHints read] at hint
      simp only [hint, Except.mapError, bind, Except.bind, Option.bind_some, sameBase]
      rw [if_neg]
      · rfl
      · simp only [Bool.and_eq_true, Bool.not_eq_true', List.contains_eq_mem,
          decide_eq_false_iff_not, not_and, Decidable.not_not]
        intro assumes
        exact held source (Reads.mem_of_assumesResident assumes)

/-- What stays resident is not dropped by a lane. -/
theorem ne_dropped
    {source : Source}
    {lane : SourceLane}
    (distinct : ∀ other, reads.laneSource? stage lane = some other → base source = base other →
      source = other)
    (kept : ¬ (reads.readsAt stage source = true ∧
      reads.sourceHint planned stage source = .drop)) :
    some (base source) ≠ dropped reads base planned stage lane := by
  intro equal
  obtain ⟨other, read, chosen⟩ := Option.bind_eq_some_iff.mp equal.symm
  split at chosen
  · next drop =>
      have same := distinct other read (Option.some.inj chosen).symm
      subst same
      refine kept ⟨?_, by simpa using drop⟩
      rw [Reads.readsAt, List.contains_iff_mem]
      exact List.mem_of_getElem? read
  · cases chosen

/-- What is resident and planned to stay is neither dropped nor overwritten. -/
theorem mem_kept
    {source : Source}
    (distinct : ∀ lane other, reads.laneSource? stage lane = some other →
      base source = base other → source = other)
    (fresh : base source ≠ base (.stage stage))
    (held : base source ∈ resident)
    (kept : (!(reads.readsAt stage source &&
      reads.sourceHint planned stage source == .drop)) = true) :
    base source ∈ (resident.filter fun address =>
      some address != dropped reads base planned stage .first &&
        some address != dropped reads base planned stage .second).filter
      (· != base (.stage stage)) := by
  have kept : ¬ (reads.readsAt stage source = true ∧
      reads.sourceHint planned stage source = .drop) := by
    rintro ⟨read, drop⟩
    rw [read, drop] at kept
    cases kept
  simp only [List.mem_filter, Bool.and_eq_true, bne_iff_ne]
  exact ⟨⟨held, ne_dropped (distinct .first) kept, ne_dropped (distinct .second) kept⟩, fresh⟩

/-- A record that follows the plan is replayed, and what the plan takes to be
resident after it is. -/
theorem replay_eq_ok
    (follows : Follows reads base (reads.stageHints planned stage) stage descriptor)
    (distinct : ∀ source ∈ planned, ∀ lane other, reads.laneSource? stage lane = some other →
      base source = base other → source = other)
    (fresh : ∀ source ∈ planned, base source ≠ base (.stage stage))
    (held : ∀ source ∈ planned, base source ∈ resident) :
    ∃ after, replay resident index descriptor = .ok after ∧
      ∀ source ∈ reads.residentAfter planned stage, base source ∈ after := by
  obtain ⟨surface, written, baseEq⟩ := follows.destination
  have hint := follows.hint .result
  unfold replay
  rw [checkSource_eq follows held .first, checkSource_eq follows held .second]
  simp only [bind, Except.bind, writeDestination, written, hint, Except.mapError, baseEq, pure,
    Except.pure]
  refine ⟨_, rfl, ?_⟩
  have keeps : ((reads.stageHints planned stage).at .result).keepsResult =
      reads.readsAt (stage + 1) (.stage stage) := by
    show (if reads.readsAt (stage + 1) (.stage stage) then Hint.allocate
      else Hint.noAllocate).keepsResult = _
    cases reads.readsAt (stage + 1) (.stage stage) <;> rfl
  have others := fun source present => @mem_kept reads base planned resident stage source
    (distinct source present) (fresh source present) (held source present)
  intro source member
  rw [keeps]
  unfold Reads.residentAfter at member
  cases read : reads.readsAt (stage + 1) (.stage stage) with
  | true =>
      rw [read, if_pos rfl] at member
      rw [if_pos rfl]
      rcases List.mem_cons.mp member with rfl | kept
      · exact List.mem_cons_self
      · obtain ⟨present, kept⟩ := List.mem_filter.mp kept
        exact List.mem_cons_of_mem _ (others source present kept)
  | false =>
      rw [read, if_neg (by decide)] at member
      rw [if_neg (by decide)]
      obtain ⟨present, kept⟩ := List.mem_filter.mp member
      exact others source present kept

end Step

/-- What a plan takes to be resident are results of earlier stages. -/
theorem mem_residentAfter
    {reads : Reads}
    {planned : List Source}
    {stage : Nat}
    (earlier : ∀ source ∈ planned, ∃ number < stage, source = .stage number) :
    ∀ source ∈ reads.residentAfter planned stage, ∃ number < stage + 1, source = .stage number := by
  have kept : ∀ source ∈ planned, ∃ number < stage + 1, source = .stage number := by
    intro source present
    obtain ⟨number, before, rfl⟩ := earlier source present
    exact ⟨number, by omega, rfl⟩
  intro source member
  unfold Reads.residentAfter at member
  dsimp only at member
  split at member
  · rcases List.mem_cons.mp member with rfl | member
    · exact ⟨stage, by omega, rfl⟩
    · exact kept source (List.mem_of_mem_filter member)
  · exact kept source (List.mem_of_mem_filter member)

/-- A plan has hints for each stage. -/
theorem length_plan (reads : Reads) : reads.plan.length = reads.length := by
  have each : ∀ (count : Nat) (resident : List Source) (stage : Nat),
      (reads.planFrom resident stage count).length = count := by
    intro count
    induction count with
    | zero => exact fun _ _ => rfl
    | succ count inductionHypothesis =>
        intro resident stage
        rw [Reads.planFrom, List.length_cons, inductionHypothesis]
  exact each _ _ _

/-- Records that follow a plan are replayed without a violation, if different
sources have different bases. -/
theorem replayFrom_eq_ok
    {reads : Reads}
    {base : Source → UInt32}
    {planned : List Source}
    {resident : List UInt32}
    {stage count : Nat}
    {records : List Descriptor}
    (distinct : ∀ number < count, ∀ source,
      (∃ stage lane, reads.laneSource? stage lane = some source) ∨
        (∃ other < count, source = .stage other) →
      base (.stage number) = base source → .stage number = source)
    (fits : stage + records.length ≤ count)
    (follows : ∀ (index : Nat) (descriptor : Descriptor), records[index]? = some descriptor →
      Follows reads base (((reads.planFrom planned stage records.length)[index]?).getD default)
        (stage + index) descriptor)
    (earlier : ∀ source ∈ planned, ∃ number < stage, source = .stage number)
    (held : ∀ source ∈ planned, base source ∈ resident) :
    replayFrom resident stage records = .ok () := by
  induction records generalizing planned resident stage with
  | nil => rfl
  | cons descriptor rest inductionHypothesis =>
      rw [List.length_cons] at fits follows
      have here : Follows reads base (reads.stageHints planned stage) stage descriptor :=
        follows 0 descriptor rfl
      obtain ⟨after, replayed, kept⟩ := @replay_eq_ok reads base planned resident stage stage
        descriptor here
        (by
          intro source present lane other read equal
          obtain ⟨number, before, rfl⟩ := earlier source present
          exact distinct number (by omega) other (Or.inl ⟨stage, lane, read⟩) equal)
        (by
          intro source present equal
          obtain ⟨number, before, rfl⟩ := earlier source present
          have same := distinct number (by omega) (.stage stage)
            (Or.inr ⟨stage, by omega, rfl⟩) equal
          cases same
          omega)
        held
      rw [replayFrom, replayed]
      refine inductionHypothesis (by omega) ?_ (mem_residentAfter earlier) kept
      intro index other present
      have later := follows (index + 1) other present
      rwa [show stage + (index + 1) = stage + 1 + index by omega] at later

end Residency
end TileProgram
