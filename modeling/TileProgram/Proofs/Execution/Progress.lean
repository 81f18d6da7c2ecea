import TileProgram.Execution.Lobby
import TileProgram.Proofs.Execution.Operations
import TileProgram.Proofs.Execution.Slots

/-!
# What operations make of a session

An operation leaves a session as it is or brings it up to date; beyond that it
can load a program, number a request, or number a request and have it accepted.
Each of these is possible in certain phases only.  Closing is described apart.
-/

namespace TileProgram
namespace Execution
namespace Session

variable {session next : Session} {before after slots : Slots} {handle : Handle}

/-- A session without a pending request is in the phase that it has stored. -/
theorem phase_of_stored (stored : session.storedPhase ≠ .pending) :
    session.phase slots = session.storedPhase := by
  unfold phase
  split
  · next present => exact absurd present stored
  · rfl

/-- The phase of a session with a pending request is that of its slot. -/
theorem phase_of_pending
    (stored : session.storedPhase = .pending)
    (pending : session.pending = some handle) :
    session.phase slots = phaseOfStatus (slots.get handle.slot).status := by
  rw [phase, stored, pending]

/-- A request that is not settled is what makes a session wait. -/
theorem phaseOfStatus_eq_pending {status : SlotStatus} :
    phaseOfStatus status = .pending ↔ status = .pending := by
  cases status <;> simp [phaseOfStatus]

/-- A session that no longer waits stays in its phase as long as what is final stays. -/
theorem phase_of_kept
    (kept : ∀ number, (before.get number).isFinal = true → after.get number = before.get number)
    (settled : session.phase before ≠ .pending) :
    session.phase after = session.phase before := by
  unfold phase at settled ⊢
  split at settled
  · next handle pending stored =>
    have final : (before.get handle.slot).isFinal = true :=
      Slot.isFinal_iff.mpr (settled ∘ phaseOfStatus_eq_pending.mpr)
    rw [kept _ final]
  · rfl

/-- A closed session is not brought to another phase. -/
theorem opened_of_phase (opened : session.phase slots ≠ .closed) :
    session.storedPhase ≠ .closed := by
  intro closed
  exact opened ((phase_of_stored (by simp [closed])).trans closed)

/-- A session in one of certain phases is open if a closed session is in none of them. -/
theorem opened_of_mem
    {allowed : List Phase}
    (ready : session.phase slots ∈ allowed)
    (never : Phase.closed ∉ allowed) :
    session.storedPhase ≠ .closed := by
  have opened : session.phase slots ≠ .closed := by
    intro closed
    exact never (closed ▸ ready)
  exact opened_of_phase opened

/-- A session that waits has stored that it does. -/
theorem storedPhase_of_phase (waits : session.phase slots = .pending) :
    session.storedPhase = .pending := by
  by_contra stored
  exact stored ((phase_of_stored stored).symm.trans waits)

/-- A session that waits is up to date. -/
theorem settle_of_pending (waits : session.phase slots = .pending) :
    session.settle slots = session := by
  rw [settle, if_pos waits, waits, ← storedPhase_of_phase waits]

theorem pending_settle_of_ne (settled : session.phase slots ≠ .pending) :
    (session.settle slots).pending = none :=
  if_neg settled

/-- Bringing a session up to date does not change its phase. -/
@[simp] theorem phase_settle (session : Session) (slots : Slots) :
    (session.settle slots).phase slots = session.phase slots := by
  by_cases waits : session.phase slots = .pending
  · rw [settle_of_pending waits]
  · exact phase_of_stored waits

/-- Numbering a request does not change the phase. -/
@[simp] theorem phase_counted (session : Session) (surfaces : Nat) (slots : Slots) :
    (session.counted surfaces).phase slots = session.phase slots := rfl

/-- What an operation makes of a session when it sees the slots in some state, and the
requests that it places. -/
inductive Progress (slots : Slots) (session : Session) : Session → List Handle → Prop where
  | kept : Progress slots session session []
  | settled : Progress slots session (session.settle slots) []
  | loaded (program : SessionProgram)
      (mode : session.mode = .programExecution)
      (ready : session.phase slots ∈ loadPhases) :
      Progress slots session
        { session.settle slots with storedPhase := .programLoaded, program := some program } []
  | counted (surfaces : Nat) :
      Progress slots session ((session.settle slots).counted surfaces) []
  | placed (surfaces : Nat)
      (ready : session.mode = .programExecution ∧ session.phase slots ∈ submitPhases ∧
          session.program.isSome = true ∨
        session.mode = .compileOnly ∧ session.phase slots ∈ compilePhases) :
      Progress slots session
        { (session.settle slots).counted surfaces with
          storedPhase := .pending
          pending := some ⟨slots.next, session.nextRequest⟩ }
        [⟨slots.next, session.nextRequest⟩]

/-- A request that is placed gets the next slot. -/
theorem Progress.placed_eq
    {placed : List Handle}
    (progress : Progress slots session next placed) :
    ∀ handle ∈ placed, handle = ⟨slots.next, session.nextRequest⟩ := by
  cases progress with
  | placed => exact fun handle member => List.mem_singleton.mp member
  | _ => exact nofun

/-- An operation that makes progress, while the slots only come later. -/
def Proceeds (given : Value → List Handle) (session : Session) (counter : Counter State)
    (step : Step State Value) : Prop :=
  ∃ seen, Slots.Later counter.slots seen ∧ Slots.Later seen step.counter.slots ∧
    Progress seen session step.session (Lobby.handlesOf given step.result) ∧
    ∀ handle ∈ Lobby.handlesOf given step.result, handle.slot < step.counter.slots.next

variable {State Value : Type} {given : Value → List Handle} {counter : Counter State}
  {service : Service State}

/-- An operation that is refused at the counter's door. -/
theorem proceeds_of_error
    {next : Session}
    {error : Error}
    (progress : Progress counter.slots session next []) :
    Proceeds given session counter ⟨.error error, next, counter⟩ :=
  ⟨counter.slots, .refl _, .refl _, progress, nofun⟩

theorem later_accept (counter : Counter State) (reply : Reply State Value) :
    Slots.Later counter.slots (counter.accept reply).2.slots :=
  Slots.later_deliverAll _ _

/-- A program that is put before the service is loaded or not. -/
theorem proceeds_load
    (program : Container)
    (mode : session.mode = .programExecution)
    (ready : session.phase counter.slots ∈ loadPhases) :
    Proceeds (fun _ => []) session counter
      ((session.settle counter.slots).load service program counter) := by
  have later := later_accept counter (service.load session.connection program counter.state)
  cases answer :
      (service.load (session.settle counter.slots).connection program counter.state).result with
  | error error =>
      rw [load_of_error answer]
      exact ⟨_, .refl _, later, .settled, nofun⟩
  | ok id =>
      rw [load_of_ok answer]
      exact ⟨_, .refl _, later, .loaded _ mode ready, nofun⟩

theorem proceeds_loadContainer (program : Container) (counter : Counter State) :
    Proceeds (fun _ => []) session counter (session.loadContainer service program counter) := by
  cases gated_loadContainer service session program counter with
  | kept error failed run =>
      rw [run]
      exact proceeds_of_error .kept
  | settled error failed run =>
      rw [run]
      exact proceeds_of_error .settled
  | passed _ checked run =>
      obtain ⟨mode, ready⟩ := ready_of_checkLoad checked
      rw [run]
      exact proceeds_load program mode ready

theorem proceeds_loadFile (contents : Except Files.Failure Bytes) (counter : Counter State) :
    Proceeds (fun _ => []) session counter (session.loadFile service contents counter) := by
  rcases loadFile_cases service session contents counter with ⟨error, run⟩ | ⟨program, run⟩
  · rw [run]
    exact proceeds_of_error .kept
  · rw [run]
    exact proceeds_loadContainer program counter

/-- A request that is put before the service gets the next slot; it is accepted or not. -/
theorem place_cases (session : Session) (request : Request)
    (ask : Bytes → Nat → State → Reply State Unit) (counter : Counter State) :
    (∃ error, (session.place request ask counter).result = .error error ∧
        (session.place request ask counter).session = session ∧
        Slots.Later counter.slots (session.place request ask counter).counter.slots) ∨
      ∃ handle, handle = ⟨counter.slots.next, request.requestId⟩ ∧
        (session.place request ask counter).result = .ok handle ∧
        (session.place request ask counter).session =
          { session with storedPhase := .pending, pending := some handle } ∧
        Slots.Later (counter.slots.allot request.requestId).2
          (session.place request ask counter).counter.slots := by
  have allotted := Slots.later_allot counter.slots request.requestId
  have later (raw : Bytes) := later_accept (counter.allot request.requestId).2
    (ask raw counter.slots.next counter.state)
  cases asked_place request ask session counter with
  | unwritten error failed run =>
      rw [run]
      exact .inl ⟨error, rfl, rfl, .refl _⟩
  | refused raw error written answer run =>
      rw [run]
      exact .inl ⟨error, rfl, rfl, allotted.trans (later raw)⟩
  | accepted raw written answer run =>
      rw [run]
      exact .inr ⟨⟨counter.slots.next, request.requestId⟩, rfl, rfl, rfl, later raw⟩

/-- A request that is numbered and put before the service makes progress. -/
theorem proceeds_place
    {request : Request}
    {ask : Bytes → Nat → State → Reply State Unit}
    (surfaces : Nat)
    (numbered : request.requestId = session.nextRequest)
    (ready : session.mode = .programExecution ∧ session.phase counter.slots ∈ submitPhases ∧
        session.program.isSome = true ∨
      session.mode = .compileOnly ∧ session.phase counter.slots ∈ compilePhases) :
    Proceeds (fun handle => [handle]) session counter
      (((session.settle counter.slots).counted surfaces).place request ask counter) := by
  rcases place_cases ((session.settle counter.slots).counted surfaces) request ask counter with
    ⟨error, refused, same, later⟩ | ⟨handle, first, accepted, pending, later⟩
  · refine ⟨_, .refl _, later, ?_, ?_⟩
    · rw [refused, same]
      exact .counted surfaces
    · rw [refused]
      exact nofun
  · have allotted := Slots.later_allot counter.slots request.requestId
    refine ⟨_, .refl _, allotted.trans later, ?_, ?_⟩
    · rw [accepted, pending, first, numbered]
      exact .placed surfaces ready
    · rw [accepted, first]
      intro handle member
      rw [List.mem_singleton.mp member]
      exact later.next_le

theorem proceeds_submit (inputs : List Surface) (counter : Counter State) :
    Proceeds (fun handle => [handle]) session counter
      (session.submit service inputs counter) := by
  cases gated_submit service session inputs counter with
  | kept error failed run =>
      rw [run]
      exact proceeds_of_error .kept
  | settled error failed run =>
      rw [run]
      exact proceeds_of_error .settled
  | passed program checked run =>
      obtain ⟨mode, ready, held, -⟩ := ready_of_checkSubmit checked
      have holds : session.program.isSome = true := by rw [held]; rfl
      rw [run]
      exact proceeds_place _ rfl (.inl ⟨mode, ready, holds⟩)

theorem proceeds_submitCompile (description : Bytes) (counter : Counter State) :
    Proceeds (fun handle => [handle]) session counter
      (session.submitCompile service description counter) := by
  cases gated_submitCompile service session description counter with
  | kept error failed run =>
      rw [run]
      exact proceeds_of_error .kept
  | settled error failed run =>
      rw [run]
      exact proceeds_of_error .settled
  | passed _ checked run =>
      rw [run]
      exact proceeds_place _ rfl (.inr (ready_of_checkCompile checked))

/-- A wait that is let through is a wait for the handle. -/
theorem wait_of_match
    {timeout : Nat}
    (waits : session.storedPhase = .pending)
    (matched : session.pending.map Handle.request = some handle.request) :
    session.wait handle timeout counter =
      ⟨(counter.wait handle timeout).1,
        session.settle (counter.wait handle timeout).2.slots, (counter.wait handle timeout).2⟩ :=
  if_pos ⟨waits, matched⟩

/-- A wait that is not let through changes nothing. -/
theorem wait_of_mismatch
    {timeout : Nat}
    (mismatch : ¬ (session.storedPhase = .pending ∧
      session.pending.map Handle.request = some handle.request)) :
    session.wait handle timeout counter =
      ⟨.error (.invalidState (.notPending handle.request)), session, counter⟩ :=
  if_neg mismatch

theorem proceeds_wait
    (known : handle.slot < counter.slots.next)
    (timeout : Nat) :
    Proceeds (fun _ => []) session counter (session.wait handle timeout counter) := by
  by_cases matched : session.storedPhase = .pending ∧
      session.pending.map Handle.request = some handle.request
  · rw [wait_of_match matched.1 matched.2]
    have nothing : Lobby.handlesOf (fun _ => []) (counter.wait handle timeout).1 = [] := by
      cases (counter.wait handle timeout).1 <;> rfl
    refine ⟨_, Slots.later_wait known timeout, .refl _, ?_, ?_⟩
    · simp only [nothing]
      exact .settled
    · simp only [nothing]
      exact nofun
  · rw [wait_of_mismatch matched]
    exact proceeds_of_error .kept

/-- The slots when a session has given up its pending request. -/
def cancelPending (session : Session) (slots : Slots) : Slots :=
  match session.pending with
  | some handle => slots.cancel handle.slot
  | none => slots

@[simp] theorem next_cancelPending (session : Session) (slots : Slots) :
    (session.cancelPending slots).next = slots.next := by
  unfold cancelPending
  split <;> rfl

/-- Giving up a request leaves what is final as it is. -/
theorem cancelPending_of_isFinal
    {number : Nat}
    (session : Session)
    (final : (slots.get number).isFinal = true) :
    (session.cancelPending slots).get number = slots.get number := by
  unfold cancelPending
  split
  · exact Slots.get_cancel_of_isFinal final _
  · rfl

/-- A request that is given up had been given a slot. -/
theorem fresh_cancelPending
    (fresh : slots.Fresh)
    (known : ∀ handle, session.pending = some handle → handle.slot < slots.next) :
    (session.cancelPending slots).Fresh := by
  unfold cancelPending
  split
  · next handle pending => exact fresh.cancel (known handle pending)
  · exact fresh

/-- Giving up a request leaves the slots of others alone. -/
theorem cancelPending_of_ne
    {number : Nat}
    (session : Session)
    (other : ∀ handle, session.pending = some handle → number ≠ handle.slot) :
    (session.cancelPending slots).get number = slots.get number := by
  unfold cancelPending
  split
  · next handle pending => rw [Slots.get_cancel, if_neg (other handle pending)]
  · rfl

/-- A session that is closed. -/
def closed (session : Session) : Session :=
  { session with storedPhase := .closed, program := none, pending := none }

theorem close_of_closed (stored : session.storedPhase = .closed) :
    session.close service counter = (session, counter) :=
  if_pos stored

/-- Closing gives up the pending request before the service is told. -/
theorem close_of_ne (stored : session.storedPhase ≠ .closed) :
    (session.close service counter).1 = session.closed ∧
      Slots.Later (session.cancelPending counter.slots)
        (session.close service counter).2.slots := by
  rw [close, if_neg stored]
  refine ⟨rfl, ?_⟩
  unfold cancelPending
  cases session.pending with
  | none => exact later_accept counter _
  | some handle => exact later_accept ⟨counter.state, counter.slots.cancel handle.slot⟩ _

end Session
end Execution
end TileProgram
