import TileProgram.Proofs.Descriptor.Access
import TileProgram.Residency.Check

/-!
# What the check of residency says

Each record does something to the cache: a source that it drops is cleared, and
its result is set or cleared as the hint says.  A sequence of records passes the
check exactly when every source that is read from the cache has been touched
before and set by the last event that touched it.  The check keeps the set of
resident addresses only; it agrees with the history because one event after
another changes that set as it changes the last event of each address.
-/

namespace TileProgram
namespace Residency

/-! ## Histories of the cache -/

/-- What happens to an address in the cache. -/
inductive Event where
  | set (base : UInt32)
  | clear (base : UInt32)
  deriving DecidableEq

namespace Event

/-- The address that an event touches. -/
def base : Event → UInt32
  | set base => base
  | clear base => base

/-- What a written result does to its address. -/
def ofResult (base : UInt32) : Hint → Event
  | .allocate => set base
  | .deprioritize => set base
  | .noAllocate => clear base
  | .drop => clear base

end Event

/-- The last event of a history that touches an address. -/
def latest? (history : List Event) (base : UInt32) : Option Event :=
  (history.filter fun event => event.base == base).getLast?

/-- An address is resident after a history whose last event on it has set it. -/
def ResidentAfter (history : List Event) (base : UInt32) : Prop :=
  latest? history base = some (.set base)

variable {history : List Event} {base : UInt32} {resident : List UInt32}

/-- A further event is the last one on the address that it touches. -/
theorem latest?_append (event : Event) :
    latest? (history ++ [event]) base =
      if event.base = base then some event else latest? history base := by
  unfold latest?
  rw [List.filter_append]
  by_cases touches : event.base = base
  · rw [if_pos touches, List.filter_cons_of_pos (by simpa using touches), List.filter_nil,
      List.getLast?_append, List.getLast?_singleton, Option.some_or]
  · rw [if_neg touches, List.filter_cons_of_neg (by simpa using touches), List.filter_nil,
      List.append_nil]

/-- An address is resident after a further event if this event sets it, or if the event touches
another address and this one was resident before. -/
theorem residentAfter_append (event : Event) :
    ResidentAfter (history ++ [event]) base ↔
      event = .set base ∨ event.base ≠ base ∧ ResidentAfter history base := by
  unfold ResidentAfter
  rw [latest?_append]
  by_cases touches : event.base = base
  · simp [touches]
  · have other : event ≠ .set base := by
      rintro rfl
      exact touches rfl
    simp [touches, other]

/-- A set of addresses tracks a history when its members are those that are resident after it. -/
def Tracks (resident : List UInt32) (history : List Event) : Prop :=
  ∀ base, base ∈ resident ↔ ResidentAfter history base

theorem tracks_nil : Tracks [] [] := by
  intro base
  simp [ResidentAfter, latest?]

theorem Tracks.clear (tracks : Tracks resident history) (base : UInt32) :
    Tracks (resident.filter (· != base)) (history ++ [.clear base]) := by
  intro other
  rw [List.mem_filter, residentAfter_append, tracks other, bne_iff_ne, and_comm, ne_comm]
  exact (or_iff_right nofun).symm

theorem Tracks.set (tracks : Tracks resident history) (base : UInt32) :
    Tracks (base :: resident.filter (· != base)) (history ++ [.set base]) := by
  intro other
  rw [List.mem_cons, List.mem_filter, residentAfter_append, tracks other, bne_iff_ne, and_comm,
    Event.set.injEq, eq_comm, ne_comm]
  rfl

/-- The addresses left after a drop track the history with the drop in it. -/
theorem Tracks.drop (tracks : Tracks resident history) (dropped : Option UInt32) :
    Tracks (resident.filter fun base => some base != dropped)
      (history ++ (dropped.map Event.clear).toList) := by
  cases dropped with
  | none =>
      rw [Option.map_none, Option.toList_none, List.append_nil, List.filter_eq_self.mpr]
      · exact tracks
      · simp
  | some address => simpa [bne, Option.some_beq_some] using tracks.clear address

/-! ## The events of a record -/

/-- A source that is enabled with a hint that takes its surface to be in the cache. -/
def Assumes (descriptor : Descriptor) (lane : SourceLane) (surface : StridedSurface)
    (hint : Hint) : Prop :=
  descriptor.source lane = .ok (some surface) ∧
    descriptor.residency (.ofSource lane) = .ok hint ∧ hint ≠ .noAllocate

/-- A source that is hinted to be dropped is cleared. -/
def sourceEvents (descriptor : Descriptor) (lane : SourceLane) : List Event :=
  match descriptor.source lane, descriptor.residency (.ofSource lane) with
  | .ok (some surface), .ok .drop => [.clear surface.base]
  | _, _ => []

/-- A result is set or cleared. -/
def resultEvents (descriptor : Descriptor) : List Event :=
  match descriptor.destination, descriptor.residency .result with
  | .ok (some surface), .ok hint => [.ofResult surface.base hint]
  | _, _ => []

/-- The events of a record in their order. -/
def events (descriptor : Descriptor) : List Event :=
  sourceEvents descriptor .first ++ sourceEvents descriptor .second ++ resultEvents descriptor

/-! ## One record -/

/-- Whatever a record takes to be in the cache through a lane is resident after a history. -/
def Backed (history : List Event) (descriptor : Descriptor) (lane : SourceLane) : Prop :=
  ∀ surface hint, Assumes descriptor lane surface hint → ResidentAfter history surface.base

variable {descriptor : Descriptor} {lane : SourceLane}

/-- A backed source passes, and its event is the drop that it asks for. -/
theorem checkSource_eq_ok
    (builtIn : descriptor.table = .standard)
    (tracks : Tracks resident history)
    (backed : Backed history descriptor lane)
    (index : Nat) :
    ∃ dropped, checkSource resident index descriptor lane = .ok dropped ∧
      sourceEvents descriptor lane = (dropped.map Event.clear).toList := by
  obtain ⟨surface, source⟩ := Descriptor.exists_source builtIn lane
  obtain ⟨hint, hinted⟩ := Descriptor.exists_residency builtIn (.ofSource lane)
  unfold checkSource sourceEvents
  rw [source, hinted]
  cases surface with
  | none => exact ⟨none, rfl, rfl⟩
  | some surface =>
      have passes : ¬ (hint.assumesResident && !resident.contains surface.base) = true := by
        simp only [Hint.assumesResident, Bool.and_eq_true, bne_iff_ne, Bool.not_eq_true',
          List.contains_eq_mem, decide_eq_false_iff_not, not_and, Decidable.not_not]
        intro assumes
        exact (tracks _).mpr (backed surface hint ⟨source, hinted, assumes⟩)
      refine ⟨if hint == .drop then some surface.base else none, if_neg passes, ?_⟩
      cases hint <;> rfl

/-- A source that is not backed is refused with its hint and its address. -/
theorem checkSource_eq_error
    (tracks : Tracks resident history)
    (unbacked : ¬ Backed history descriptor lane)
    (index : Nat) :
    ∃ surface hint, Assumes descriptor lane surface hint ∧
      ¬ ResidentAfter history surface.base ∧
        checkSource resident index descriptor lane =
          .error (.residencyViolation index lane hint surface.base.toNat) := by
  unfold Backed at unbacked
  push Not at unbacked
  obtain ⟨surface, hint, assumes, absent⟩ := unbacked
  refine ⟨surface, hint, assumes, absent, ?_⟩
  obtain ⟨source, hinted, needed⟩ := assumes
  unfold checkSource
  rw [source, hinted]
  refine if_pos ?_
  simp [Hint.assumesResident, needed, mt (tracks _).mp absent]

/-- Writing the result keeps track of its event. -/
theorem writeDestination_tracks
    (builtIn : descriptor.table = .standard)
    (tracks : Tracks resident history)
    (index : Nat) :
    ∃ after, writeDestination resident index descriptor = .ok after ∧
      Tracks after (history ++ resultEvents descriptor) := by
  obtain ⟨surface, destination⟩ := Descriptor.exists_destination builtIn
  obtain ⟨hint, hinted⟩ := Descriptor.exists_residency builtIn .result
  unfold writeDestination resultEvents
  rw [destination, hinted]
  cases surface with
  | none => exact ⟨resident, rfl, by simpa using tracks⟩
  | some surface =>
      refine ⟨_, rfl, ?_⟩
      cases hint with
      | allocate => exact tracks.set surface.base
      | noAllocate => exact tracks.clear surface.base
      | drop => exact tracks.clear surface.base
      | deprioritize => exact tracks.set surface.base

/-- A record whose sources are backed is replayed, and its events are tracked. -/
theorem replay_tracks
    (builtIn : descriptor.table = .standard)
    (tracks : Tracks resident history)
    (backed : ∀ lane, Backed history descriptor lane)
    (index : Nat) :
    ∃ after, replay resident index descriptor = .ok after ∧
      Tracks after (history ++ events descriptor) := by
  obtain ⟨first, firstEq, firstEvents⟩ := checkSource_eq_ok builtIn tracks (backed .first) index
  obtain ⟨second, secondEq, secondEvents⟩ :=
    checkSource_eq_ok builtIn tracks (backed .second) index
  -- Both drops are applied at once, after both lanes have been checked.
  have kept := (tracks.drop first).drop second
  rw [List.filter_filter] at kept
  obtain ⟨after, written, tracked⟩ := writeDestination_tracks builtIn kept index
  refine ⟨after, ?_, ?_⟩
  · rw [replay, firstEq, Outcome.ok_bind, secondEq, Outcome.ok_bind, ← written]
    simp only [Bool.and_comm]
  · rwa [events, firstEvents, secondEvents, ← List.append_assoc, ← List.append_assoc]

/-- A record is refused for its first lane that is not backed. -/
theorem replay_eq_error
    (builtIn : descriptor.table = .standard)
    (tracks : Tracks resident history)
    (unbacked : ¬ Backed history descriptor lane)
    (former : lane = .second → Backed history descriptor .first)
    (index : Nat) :
    ∃ surface hint, Assumes descriptor lane surface hint ∧
      ¬ ResidentAfter history surface.base ∧
        replay resident index descriptor =
          .error (.residencyViolation index lane hint surface.base.toNat) := by
  obtain ⟨surface, hint, assumes, absent, refused⟩ := checkSource_eq_error tracks unbacked index
  refine ⟨surface, hint, assumes, absent, ?_⟩
  cases lane with
  | first =>
      rw [replay, refused]
      rfl
  | second =>
      obtain ⟨first, firstEq, -⟩ := checkSource_eq_ok builtIn tracks (former rfl) index
      rw [replay, firstEq, Outcome.ok_bind, refused]
      rfl

/-- Either both lanes pass a test, or there is a first one that does not. -/
theorem forall_lane_or_first (holds : SourceLane → Prop) :
    (∀ lane, holds lane) ∨ ∃ lane, ¬ holds lane ∧ (lane = .second → holds .first) := by
  by_cases first : holds .first
  · by_cases second : holds .second
    · refine Or.inl ?_
      intro lane
      cases lane with
      | first => exact first
      | second => exact second
    · exact Or.inr ⟨.second, second, fun _ => first⟩
  · refine Or.inr ⟨.first, first, ?_⟩
    intro equal
    cases equal

/-! ## A sequence of records -/

/-- What has happened before a record. -/
def historyBefore (descriptors : List Descriptor) (index : Nat) : List Event :=
  (descriptors.take index).flatMap events

/-- A record of a sequence is backed through a lane by the records before it. -/
def BackedAt (descriptors : List Descriptor) (index : Nat) (lane : SourceLane) : Prop :=
  ∀ descriptor, descriptors[index]? = some descriptor →
    Backed (historyBefore descriptors index) descriptor lane

/-- The first record with a source that is not backed, and the first such source of it. -/
structure FirstUnbacked (descriptors : List Descriptor) (index : Nat) (lane : SourceLane)
    (hint : Hint) (base : UInt32) : Prop where
  violated : ∃ descriptor surface, descriptors[index]? = some descriptor ∧
    Assumes descriptor lane surface hint ∧ surface.base = base ∧
      ¬ ResidentAfter (historyBefore descriptors index) base
  former : lane = .second → BackedAt descriptors index .first
  earlier : ∀ other < index, ∀ lane, BackedAt descriptors other lane

theorem FirstUnbacked.not_backedAt
    {descriptors : List Descriptor}
    {index : Nat}
    {hint : Hint}
    (first : FirstUnbacked descriptors index lane hint base) :
    ¬ BackedAt descriptors index lane := by
  intro backed
  obtain ⟨descriptor, surface, present, assumes, rfl, absent⟩ := first.violated
  exact absent (backed descriptor present surface hint assumes)

/-- A sequence is accepted when all of it is backed, and else refused for the first source that is
not. -/
inductive Judged (descriptors : List Descriptor) (outcome : Except ProgramError Unit) : Prop where
  | accepted (equal : outcome = .ok ()) (backed : ∀ index lane, BackedAt descriptors index lane)
  | refused (index : Nat) (lane : SourceLane) (hint : Hint) (base : UInt32)
      (equal : outcome = .error (.residencyViolation index lane hint base.toNat))
      (first : FirstUnbacked descriptors index lane hint base)

/-- The record behind the first ones of a sequence is backed by their events. -/
theorem backedAt_length {before rest : List Descriptor} :
    BackedAt (before ++ descriptor :: rest) before.length lane ↔
      Backed (before.flatMap events) descriptor lane := by
  unfold BackedAt
  rw [historyBefore, List.take_left, List.getElem?_append_right (Nat.le_refl _), Nat.sub_self,
    List.getElem?_cons_zero]
  simp only [Option.some.injEq, forall_eq']

/-- Records are replayed from a set that tracks the records before them, as long as every source
is backed.  By induction on the records that are left. -/
theorem replayFrom_judged
    {before rest : List Descriptor}
    (builtIn : ∀ descriptor ∈ rest, descriptor.table = .standard)
    (tracks : Tracks resident (before.flatMap events))
    (earlier : ∀ index < before.length, ∀ lane, BackedAt (before ++ rest) index lane) :
    Judged (before ++ rest) (replayFrom resident before.length rest) := by
  induction rest generalizing before resident with
  | nil =>
      refine .accepted rfl ?_
      intro index lane
      by_cases inside : index < before.length
      · exact earlier index inside lane
      · intro descriptor present
        rw [List.append_nil, List.getElem?_eq_none (Nat.le_of_not_lt inside)] at present
        cases present
  | cons descriptor rest inductionHypothesis =>
      obtain ⟨here, others⟩ := List.forall_mem_cons.mp builtIn
      rcases forall_lane_or_first (Backed (before.flatMap events) descriptor) with
        backed | ⟨lane, unbacked, former⟩
      · obtain ⟨after, replayed, tracked⟩ := replay_tracks here tracks backed before.length
        have longer : ∀ index < (before ++ [descriptor]).length, ∀ lane,
            BackedAt (before ++ descriptor :: rest) index lane := by
          intro index inside lane
          rw [List.length_append, List.length_singleton] at inside
          rcases Nat.lt_succ_iff_lt_or_eq.mp inside with inside | rfl
          · exact earlier index inside lane
          · exact backedAt_length.mpr (backed lane)
        rw [List.append_cons before descriptor rest] at longer ⊢
        have flat : Tracks after ((before ++ [descriptor]).flatMap events) := by
          rwa [List.flatMap_append, List.flatMap_singleton]
        have judged := inductionHypothesis others flat longer
        rw [List.length_append, List.length_singleton] at judged
        rw [replayFrom, replayed]
        exact judged
      · obtain ⟨surface, hint, assumes, absent, refused⟩ :=
          replay_eq_error here tracks unbacked former before.length
        refine .refused before.length lane hint surface.base ?_ ⟨?_, ?_, earlier⟩
        · rw [replayFrom, refused]
          rfl
        · refine ⟨descriptor, surface, by simp, assumes, rfl, ?_⟩
          rwa [historyBefore, List.take_left]
        · intro second
          exact backedAt_length.mpr (former second)

/-- Records of the built-in table pass the check exactly when every source that is read from the
cache is backed by the events of the records before it.  Otherwise the check names the first
record with a source that is not, and the first such source of it. -/
theorem verify_exact
    {descriptors : List Descriptor}
    (builtIn : ∀ descriptor ∈ descriptors, descriptor.table = .standard) :
    (verify descriptors = .ok () ↔ ∀ index lane, BackedAt descriptors index lane) ∧
      (verify descriptors ≠ .ok () → ∃ index lane hint base,
        FirstUnbacked descriptors index lane hint base ∧
          verify descriptors = .error (.residencyViolation index lane hint base.toNat)) := by
  have judged : Judged descriptors (verify descriptors) :=
    @replayFrom_judged [] [] descriptors builtIn tracks_nil (by simp)
  cases judged with
  | accepted equal backed =>
      exact ⟨⟨fun _ => backed, fun _ => equal⟩, fun failed => absurd equal failed⟩
  | refused index lane hint base equal first =>
      refine ⟨⟨?_, ?_⟩, fun _ => ⟨index, lane, hint, base, first, equal⟩⟩
      · intro accepted
        rw [equal] at accepted
        cases accepted
      · intro backed
        exact absurd (backed index lane) first.not_backedAt

/-- A record that reads one address and writes another one. -/
def passing (source : UInt32) (sourceHint : Hint) (destination : UInt32) (resultHint : Hint) :
    Descriptor :=
  (Descriptor.empty.assignAll
    [ .unsigned (Registers.sourceEnabled .first) 1,
      .unsigned (Registers.sourceBase .first) source.toNat,
      .unsigned Registers.destinationEnabled 1,
      .unsigned Registers.destinationBase destination.toNat,
      .unsigned (Registers.residency .first) sourceHint.code,
      .unsigned (Registers.residency .result) resultHint.code ]).1

/-- A result is kept, read, made again by another record, dropped by its reader, and read once
more. -/
def rereading : List Descriptor :=
  [ passing 0x000 .noAllocate 0x100 .allocate,
    passing 0x100 .deprioritize 0x200 .noAllocate,
    passing 0x200 .noAllocate 0x100 .deprioritize,
    passing 0x100 .drop 0x300 .allocate,
    passing 0x100 .allocate 0x400 .noAllocate ]

theorem rereading_refused :
    (∀ descriptor ∈ rereading, descriptor.table = .standard) ∧
      FirstUnbacked rereading 4 .first .allocate 0x100 := by
  have builtIn : ∀ descriptor ∈ rereading, descriptor.table = .standard := by
    simp [rereading, passing, Descriptor.assignAll_frame, Descriptor.empty, Descriptor.ofTable]
  have refused : verify rereading = .error (.residencyViolation 4 .first .allocate 0x100) := by
    decide +kernel
  refine ⟨builtIn, ?_⟩
  obtain ⟨index, lane, hint, base, first, equal⟩ :=
    (verify_exact builtIn).2 (by rw [refused]; intro accepted; cases accepted)
  rw [refused] at equal
  injection equal with equal
  injection equal with indexEq laneEq hintEq baseEq
  obtain rfl : (0x100 : UInt32) = base := UInt32.toNat_inj.mp baseEq
  subst indexEq laneEq hintEq
  exact first

end Residency
end TileProgram
