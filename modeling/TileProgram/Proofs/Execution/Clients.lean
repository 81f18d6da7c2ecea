import TileProgram.Proofs.Execution.Progress

/-!
# Clients and their requests

A client is sound when its session waits for the last request that was accepted
and all earlier requests are settled.  Progress keeps it so, and so does
everything that others do to the slots.
-/

namespace TileProgram
namespace Execution

/-- A request whose outcome nobody has taken, given up or cancelled. -/
def Handle.IsOutstanding (slots : Slots) (handle : Handle) : Prop :=
  (slots.get handle.slot).status = .pending

/-- The phases that the mode of a session allows, and the program that they need. -/
structure Session.Fits (session : Session) (phase : Phase) : Prop where
  compiling : session.mode = .compileOnly →
    session.program = none ∧ phase ≠ .opened ∧ phase ≠ .programLoaded
  executing : session.mode = .programExecution →
    phase ≠ .compileReady ∧
      (phase ∈ [.programLoaded, .pending, .completed] → session.program.isSome = true)

namespace Client

variable {client : Client} {slots before after : Slots}

/-- How a session, its accepted requests and their slots stand to each other. -/
structure Sound (slots : Slots) (client : Client) : Prop where
  waits : client.session.storedPhase = .pending ↔ client.session.pending.isSome = true
  split : ∃ settled, client.accepted = client.session.pending.toList ++ settled ∧
    ∀ handle ∈ settled, (slots.get handle.slot).isFinal = true
  uncancelled : ∀ handle, client.session.pending = some handle →
    slots.get handle.slot ≠ .cancelled
  fits : client.session.Fits client.session.storedPhase

namespace Sound

/-- A session waits as long as its last accepted request is outstanding. -/
theorem phase_eq_pending_iff (sound : client.Sound slots) :
    client.session.phase slots = .pending ↔
      ∃ handle, client.accepted.head? = some handle ∧ handle.IsOutstanding slots := by
  obtain ⟨settled, split, final⟩ := sound.split
  constructor
  · intro waits
    have stored := Session.storedPhase_of_phase waits
    obtain ⟨handle, pending⟩ := Option.isSome_iff_exists.mp (sound.waits.mp stored)
    refine ⟨handle, ?_, ?_⟩
    · simp [split, pending]
    · rw [Session.phase_of_pending stored pending] at waits
      exact Session.phaseOfStatus_eq_pending.mp waits
  · rintro ⟨handle, head, outstanding⟩
    have unsettled : handle ∉ settled := by
      intro member
      exact Slot.isFinal_iff.mp (final handle member) outstanding
    cases pending : client.session.pending with
    | none =>
        simp only [split, pending, Option.toList_none, List.nil_append] at head
        exact absurd (List.mem_of_mem_head? head) unsettled
    | some own =>
        simp only [split, pending, Option.toList_some, List.singleton_append, List.head?_cons,
          Option.some.injEq] at head
        have stored := sound.waits.mpr (by simp [pending])
        rw [Session.phase_of_pending stored pending, head]
        exact Session.phaseOfStatus_eq_pending.mpr outstanding

/-- When a session does not wait, all its requests are settled. -/
theorem settled_of_phase
    (sound : client.Sound slots)
    (phase : client.session.phase slots ≠ .pending) :
    ∀ handle ∈ client.accepted, (slots.get handle.slot).isFinal = true := by
  obtain ⟨settled, split, final⟩ := sound.split
  intro handle member
  rw [split] at member
  rcases List.mem_append.mp member with own | earlier
  · have pending : client.session.pending = some handle := by simpa using own
    have stored := sound.waits.mpr (by simp [pending])
    rw [Session.phase_of_pending stored pending] at phase
    exact Slot.isFinal_iff.mpr fun status => phase (Session.phaseOfStatus_eq_pending.mpr status)
  · exact final handle earlier

/-- All accepted requests but the last one are settled. -/
theorem settled_of_mem_tail (sound : client.Sound slots) :
    ∀ handle ∈ client.accepted.tail, (slots.get handle.slot).isFinal = true := by
  obtain ⟨settled, split, final⟩ := sound.split
  rw [split]
  cases client.session.pending with
  | none => exact fun handle member => final handle (List.mem_of_mem_tail member)
  | some own => exact final

/-- Nobody but the session itself cancels its request, so it is not closed by surprise. -/
theorem fits_phase (sound : client.Sound slots) :
    client.session.Fits (client.session.phase slots) := by
  by_cases stored : client.session.storedPhase = .pending
  · obtain ⟨handle, pending⟩ := Option.isSome_iff_exists.mp (sound.waits.mp stored)
    have fits := sound.fits
    rw [stored] at fits
    rw [Session.phase_of_pending stored pending]
    constructor
    · intro compiling
      refine ⟨(fits.compiling compiling).1, ?_, ?_⟩ <;>
        cases (slots.get handle.slot).status <;> simp [Session.phaseOfStatus]
    · intro executing
      refine ⟨?_, fun _ => (fits.executing executing).2 (by simp)⟩
      cases (slots.get handle.slot).status <;> simp [Session.phaseOfStatus]
  · rw [Session.phase_of_stored stored]
    exact sound.fits

/-- A client is sound as long as what is final stays and its request is not cancelled. -/
theorem frame
    (sound : client.Sound before)
    (kept : ∀ number, (before.get number).isFinal = true → after.get number = before.get number)
    (uncancelled : ∀ handle, client.session.pending = some handle →
      after.get handle.slot = .cancelled → before.get handle.slot = .cancelled) :
    client.Sound after where
  waits := sound.waits
  split := by
    obtain ⟨settled, split, final⟩ := sound.split
    refine ⟨settled, split, fun handle member => ?_⟩
    rw [kept _ (final handle member)]
    exact final handle member
  uncancelled := fun handle pending cancelled =>
    sound.uncancelled handle pending (uncancelled handle pending cancelled)
  fits := sound.fits

theorem later (sound : client.Sound before) (later : Slots.Later before after) :
    client.Sound after :=
  sound.frame later.final fun handle _ => later.cancelled handle.slot

/-- A session that is brought up to date stays sound. -/
theorem settle (sound : client.Sound slots) :
    Sound slots ⟨client.session.settle slots, client.accepted⟩ := by
  by_cases waits : client.session.phase slots = .pending
  · rw [Session.settle_of_pending waits]
    exact sound
  · have none := Session.pending_settle_of_ne waits
    exact {
      waits := by simp [none, waits]
      split := ⟨client.accepted, by simp [none], sound.settled_of_phase waits⟩
      uncancelled := by simp [none]
      fits := ⟨sound.fits_phase.compiling, sound.fits_phase.executing⟩ }

/-- Progress leaves a client sound. -/
theorem progress
    {next : Session}
    {placed : List Handle}
    (sound : client.Sound slots)
    (fresh : slots.Fresh)
    (progress : Session.Progress slots client.session next placed) :
    Sound slots ⟨next, placed ++ client.accepted⟩ := by
  have settled := sound.settle
  cases progress with
  | kept => exact sound
  | settled => exact settled
  | counted surfaces =>
      exact ⟨settled.waits, settled.split, settled.uncancelled,
        settled.fits.compiling, settled.fits.executing⟩
  | loaded program mode ready =>
      have idle : client.session.phase slots ≠ .pending := by
        intro waits
        rw [waits] at ready
        simp [Session.loadPhases] at ready
      have none := Session.pending_settle_of_ne idle
      exact {
        waits := by simp [none]
        split := ⟨client.accepted, by simp [none], sound.settled_of_phase idle⟩
        uncancelled := by simp [none]
        fits := ⟨by simp [mode], by simp⟩ }
  | placed surfaces ready =>
      have idle : client.session.phase slots ≠ .pending := by
        intro waits
        rw [waits] at ready
        simp [Session.submitPhases, Session.compilePhases] at ready
      exact {
        waits := by simp
        split := ⟨client.accepted, by simp, sound.settled_of_phase idle⟩
        uncancelled := by
          intro handle pending cancelled
          have unsettled := fresh slots.next (Nat.le_refl _)
          cases pending
          rw [cancelled] at unsettled
          cases unsettled
        fits := by
          rcases ready with ⟨mode, -, holds⟩ | ⟨mode, -⟩
          · exact ⟨by simp [Session.counted, mode], by simp [Session.counted, holds]⟩
          · refine ⟨?_, by simp [Session.counted, mode]⟩
            simpa [Session.counted] using fun _ => (settled.fits.compiling mode).1 }

/-- The pending request of a session was accepted. -/
theorem mem_of_pending
    {handle : Handle}
    (sound : client.Sound slots)
    (pending : client.session.pending = some handle) :
    handle ∈ client.accepted := by
  obtain ⟨settled, split, -⟩ := sound.split
  simp [split, pending]

/-- A session that has just been opened. -/
theorem opened (slots : Slots) (connection : UInt32) (mode : Mode) (config : Config) :
    Sound slots ⟨⟨connection, mode, config, mode.start, none, none, 1, 1⟩, []⟩ where
  waits := by cases mode <;> simp [Mode.start]
  split := ⟨[], rfl, nofun⟩
  uncancelled := nofun
  fits := by cases mode <;> constructor <;> simp [Mode.start]

/-- A session that is closed has given up its request. -/
theorem closed
    (sound : client.Sound before)
    (later : Slots.Later (client.session.cancelPending before) after) :
    Sound after ⟨client.session.closed, client.accepted⟩ where
  waits := by simp [Session.closed]
  split := by
    obtain ⟨settled, split, final⟩ := sound.split
    refine ⟨client.accepted, by simp [Session.closed], ?_⟩
    have cancelled : ∀ handle ∈ client.accepted,
        ((client.session.cancelPending before).get handle.slot).isFinal = true := by
      intro handle member
      rw [split] at member
      rcases List.mem_append.mp member with own | earlier
      · have pending : client.session.pending = some handle := by simpa using own
        simp [Session.cancelPending, pending, Slots.get_cancel]
      · rw [Session.cancelPending_of_isFinal _ (final handle earlier)]
        exact final handle earlier
    intro handle member
    rw [later.final _ (cancelled handle member)]
    exact cancelled handle member
  uncancelled := by simp [Session.closed]
  fits := ⟨by simp [Session.closed], by simp [Session.closed]⟩

end Sound

/-- What becomes of a client in the course of time. -/
structure Follows (before : Slots) (client : Client) (after : Slots) (next : Client) : Prop where
  mode : next.session.mode = client.session.mode
  failed : client.session.phase before = .failed →
    next.session.phase after = .failed ∨ next.session.phase after = .closed
  closed : client.session.phase before = .closed → next.session.phase after = .closed
  accepted : client.accepted <:+ next.accepted

namespace Follows

variable {next last : Client} {between : Slots}

theorem refl (slots : Slots) (client : Client) : Follows slots client slots client :=
  ⟨rfl, .inl, id, List.suffix_refl _⟩

theorem trans
    (first : Follows before client between next)
    (second : Follows between next after last) :
    Follows before client after last where
  mode := second.mode.trans first.mode
  failed := by
    intro failed
    rcases first.failed failed with failed | closed
    · exact second.failed failed
    · exact .inr (second.closed closed)
  closed := second.closed ∘ first.closed
  accepted := first.accepted.trans second.accepted

/-- A client that does nothing stays failed or closed as long as what is final stays. -/
theorem of_kept
    (kept : ∀ number, (before.get number).isFinal = true → after.get number = before.get number)
    (client : Client) :
    Follows before client after client where
  mode := rfl
  failed := by
    intro failed
    have settled : client.session.phase before ≠ .pending := by simp [failed]
    exact .inl ((Session.phase_of_kept kept settled).trans failed)
  closed := by
    intro closed
    have settled : client.session.phase before ≠ .pending := by simp [closed]
    exact (Session.phase_of_kept kept settled).trans closed
  accepted := List.suffix_refl _

/-- Progress keeps the mode, and is not made by a session that has failed or is closed. -/
theorem of_progress
    {session : Session}
    {placed : List Handle}
    (progress : Session.Progress slots client.session session placed) :
    Follows slots client slots ⟨session, placed ++ client.accepted⟩ := by
  cases progress with
  | kept => exact refl slots client
  | settled => exact ⟨rfl, fun failed => by simp [failed], by simp, List.suffix_refl _⟩
  | counted surfaces => exact ⟨rfl, fun failed => by simp [failed], by simp, List.suffix_refl _⟩
  | loaded program mode ready =>
      refine ⟨rfl, ?_, ?_, List.suffix_refl _⟩
      · intro failed
        simp [failed, Session.loadPhases] at ready
      · intro closed
        simp [closed, Session.loadPhases] at ready
  | placed surfaces ready =>
      refine ⟨rfl, ?_, ?_, List.suffix_append _ _⟩
      · intro failed
        simp [failed, Session.submitPhases, Session.compilePhases] at ready
      · intro closed
        simp [closed, Session.submitPhases, Session.compilePhases] at ready

theorem of_closed (before after : Slots) (client : Client) :
    Follows before client after ⟨client.session.closed, client.accepted⟩ :=
  ⟨rfl, fun _ => .inr rfl, fun _ => rfl, List.suffix_refl _⟩

end Follows

/-- After some count of moves the accepted requests of a client bear increasing numbers, reduced
to the size of request numbers. -/
def Numbered (count : Nat) (client : Client) : Prop :=
  ∃ (next : Nat) (numbers : List Nat), next ≤ count + 1 ∧
    client.session.nextRequest = UInt64.ofNat next ∧
    client.accepted.map Handle.request = numbers.map UInt64.ofNat ∧
    numbers.Pairwise (· > ·) ∧ ∀ number ∈ numbers, number < next

namespace Numbered

variable {count : Nat}

theorem opened (count : Nat) (connection : UInt32) (mode : Mode) (config : Config) :
    Numbered count ⟨⟨connection, mode, config, mode.start, none, none, 1, 1⟩, []⟩ :=
  ⟨1, [], by omega, rfl, rfl, .nil, nofun⟩

theorem mono
    {later : Nat}
    (numbered : client.Numbered count)
    (le : count ≤ later) :
    client.Numbered later := by
  obtain ⟨next, numbers, bound, rest⟩ := numbered
  exact ⟨next, numbers, by omega, rest⟩

theorem closed (numbered : client.Numbered count) :
    Numbered count ⟨client.session.closed, client.accepted⟩ :=
  numbered

/-- A move numbers one request at most. -/
theorem progress
    {session : Session}
    {placed : List Handle}
    (numbered : client.Numbered count)
    (progress : Session.Progress slots client.session session placed) :
    Numbered (count + 1) ⟨session, placed ++ client.accepted⟩ := by
  obtain ⟨next, numbers, bound, nextRequest, requests, decreasing, below⟩ := numbered
  have counted : client.session.nextRequest + 1 = UInt64.ofNat (next + 1) := by
    rw [nextRequest, UInt64.ofNat_add]
    rfl
  cases progress with
  | kept => exact ⟨next, numbers, by omega, nextRequest, requests, decreasing, below⟩
  | settled => exact ⟨next, numbers, by omega, nextRequest, requests, decreasing, below⟩
  | loaded program mode ready =>
      exact ⟨next, numbers, by omega, nextRequest, requests, decreasing, below⟩
  | counted surfaces =>
      refine ⟨next + 1, numbers, by omega, counted, requests, decreasing, ?_⟩
      exact fun number member => Nat.lt_succ_of_lt (below number member)
  | placed surfaces ready =>
      refine ⟨next + 1, next :: numbers, by omega, counted, ?_, ?_, ?_⟩
      · simp [requests, nextRequest]
      · exact List.pairwise_cons.mpr ⟨below, decreasing⟩
      · intro number member
        rcases List.mem_cons.mp member with rfl | earlier
        · exact Nat.lt_succ_self _
        · exact Nat.lt_succ_of_lt (below number earlier)

/-- As long as the numbers do not run out, a later request has a greater number. -/
theorem increasing
    (numbered : client.Numbered count)
    (few : count < UInt64.size) :
    client.accepted.Pairwise fun later earlier => earlier.request < later.request := by
  obtain ⟨next, numbers, bound, -, requests, decreasing, below⟩ := numbered
  have pairwise : (client.accepted.map Handle.request).Pairwise fun later earlier =>
      earlier < later := by
    rw [requests, List.pairwise_map]
    refine decreasing.imp_of_mem fun {later earlier} here there lt => ?_
    have lateBelow := below later here
    have earlyBelow := below earlier there
    rw [UInt64.lt_iff_toNat_lt, UInt64.toNat_ofNat_of_lt' (by omega),
      UInt64.toNat_ofNat_of_lt' (by omega)]
    exact lt
  exact List.pairwise_map.mp pairwise

end Numbered
end Client

end Execution
end TileProgram
