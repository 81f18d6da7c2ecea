import TileProgram.Proofs.Execution.OwnRequest

/-!
# Calls that fail

What a session shows are its phase, its program, and the request that it waits for
with the slot of that request.  A call that fails leaves all of this as it was, at
whichever point it fails: a session that waits does not get through to the service,
and one that does not wait shows nothing that the service could change.  The one
exception is a wait that ends with the outcome of the request itself.
-/

namespace TileProgram
namespace Execution

/-- A step of which only the error counts. -/
def Step.plain {State Value : Type} (step : Step State Value) : Step State Unit :=
  ⟨step.result.map fun _ => (), step.session, step.counter⟩

theorem Step.plain_eq_error
    {State Value : Type}
    {step : Step State Value}
    {error : Error}
    (failed : step.plain.result = .error error) :
    step.result = .error error := by
  unfold plain at failed
  cases result : step.result with
  | error other =>
      rw [result] at failed
      exact congrArg Except.error (Except.error.inj failed)
  | ok value =>
      rw [result] at failed
      cases failed

namespace Session

/-- What a session shows. -/
structure View where
  phase : Phase
  program : Option SessionProgram
  request : Option (Handle × Slot)

/-- What a session shows at given slots; a request whose outcome was taken is not shown. -/
def view (session : Session) (slots : Slots) : View where
  phase := session.phase slots
  program := session.program
  request :=
    if session.phase slots = .pending then
      session.pending.map fun handle => (handle, slots.get handle.slot)
    else none

/-- A call of a session that may fail. -/
inductive Attempt where
  | loadProgram (bytes : Bytes)
  | loadFile (contents : Except Files.Failure Bytes)
  | loadContainer (program : Container)
  | submit (inputs : List Surface)
  | submitCompile (description : Bytes)
  | wait (handle : Handle) (timeout : Nat)

/-- What a call makes of a session and a counter. -/
def Attempt.run {State : Type} (service : Service State) (session : Session)
    (counter : Counter State) : Attempt → Step State Unit
  | .loadProgram bytes => session.loadProgram service bytes counter
  | .loadFile contents => session.loadFile service contents counter
  | .loadContainer program => session.loadContainer service program counter
  | .submit inputs => (session.submit service inputs counter).plain
  | .submitCompile description => (session.submitCompile service description counter).plain
  | .wait handle timeout => (session.wait handle timeout counter).plain

/-- A call waits for the request that a session waits for, and an error is its outcome. -/
def Attempt.EndsWith (session : Session) (slots : Slots) (error : Error) : Attempt → Prop
  | .wait handle timeout =>
      (session.view slots).request = some (handle, .ready (.error error)) ∨
        (session.view slots).request = some (handle, .waiting) ∧ error = .timeout timeout
  | _ => False

variable {State : Type} {service : Service State} {session next : Session} {slots other : Slots}
  {counter after : Counter State} {error : Error}

/-- A session that does not wait shows no request. -/
theorem view_of_phase_ne (idle : session.phase slots ≠ .pending) :
    session.view slots = ⟨session.phase slots, session.program, none⟩ := by
  rw [view, if_neg idle]

/-- What a session shows depends on the slot of its own request only. -/
theorem view_congr
    (same : ∀ handle, session.pending = some handle →
      other.get handle.slot = slots.get handle.slot) :
    session.view other = session.view slots := by
  have phase : session.phase other = session.phase slots := by
    unfold Session.phase
    split
    · next handle pending _ => rw [same handle pending]
    · rfl
  have request : (session.pending.map fun handle => (handle, other.get handle.slot)) =
      session.pending.map fun handle => (handle, slots.get handle.slot) := by
    cases pending : session.pending with
    | none => rfl
    | some handle => rw [Option.map_some, Option.map_some, same handle pending]
  rw [view, view, phase, request]

/-- Bringing a session up to date does not change what it shows. -/
@[simp] theorem view_settle (session : Session) (slots : Slots) :
    (session.settle slots).view slots = session.view slots := by
  by_cases waits : session.phase slots = .pending
  · rw [settle_of_pending waits]
  · rw [view_of_phase_ne (by rwa [phase_settle]), view_of_phase_ne waits, phase_settle,
      program_settle]

/-- A session that does not wait and is up to date shows the same at any slots. -/
theorem view_settle_of_phase_ne (idle : session.phase slots ≠ .pending) :
    (session.settle slots).view other = session.view slots := by
  rw [← view_settle session slots]
  refine view_congr ?_
  intro handle pending
  rw [pending_settle_of_ne idle] at pending
  cases pending

/-- What a call that fails makes of a session and a counter: it fails before the service is asked,
or the session does not wait. -/
inductive Declined (session : Session) (counter : Counter State) : Session → Counter State → Prop
  | kept : Declined session counter session counter
  | settled : Declined session counter (session.settle counter.slots) counter
  | answered
      (idle : session.phase counter.slots ≠ .pending)
      (after : Counter State) :
      Declined session counter (session.settle counter.slots) after
  | numbered
      (idle : session.phase counter.slots ≠ .pending)
      (surfaces : Nat)
      (after : Counter State) :
      Declined session counter ((session.settle counter.slots).counted surfaces) after

/-- A session shows what it showed. -/
theorem Declined.view_eq (declined : Declined session counter next after) :
    next.view after.slots = session.view counter.slots := by
  cases declined with
  | kept => rfl
  | settled => exact view_settle session counter.slots
  | answered idle after => exact view_settle_of_phase_ne idle
  | numbered idle surfaces after => exact view_settle_of_phase_ne idle

/-- A session in one of certain phases does not wait if a waiting session is in none of them. -/
theorem phase_ne_pending
    {allowed : List Phase}
    (ready : session.phase slots ∈ allowed)
    (never : Phase.pending ∉ allowed) :
    session.phase slots ≠ .pending := by
  intro waits
  exact never (waits ▸ ready)

theorem declined_loadContainer
    {program : Container}
    (failed : (session.loadContainer service program counter).result = .error error) :
    Declined session counter (session.loadContainer service program counter).session
      (session.loadContainer service program counter).counter := by
  cases gated_loadContainer service session program counter with
  | kept error failed run =>
      rw [run]
      exact .kept
  | settled error failed run =>
      rw [run]
      exact .settled
  | passed _ checked run =>
      have idle := phase_ne_pending (ready_of_checkLoad checked).2 (by decide)
      rw [run] at failed ⊢
      cases answer : (service.load (session.settle counter.slots).connection program
          counter.state).result with
      | error error =>
          rw [load_of_error answer]
          exact .answered idle _
      | ok id =>
          rw [load_of_ok answer] at failed
          cases failed

theorem declined_loadProgram
    {bytes : Bytes}
    (failed : (session.loadProgram service bytes counter).result = .error error) :
    Declined session counter (session.loadProgram service bytes counter).session
      (session.loadProgram service bytes counter).counter := by
  rcases loadProgram_cases service session bytes counter with ⟨_, run⟩ | ⟨program, run⟩
  · rw [run]
    exact .kept
  · rw [run] at failed ⊢
    exact declined_loadContainer failed

theorem declined_loadFile
    {contents : Except Files.Failure Bytes}
    (failed : (session.loadFile service contents counter).result = .error error) :
    Declined session counter (session.loadFile service contents counter).session
      (session.loadFile service contents counter).counter := by
  rcases loadFile_cases service session contents counter with ⟨_, run⟩ | ⟨program, run⟩
  · rw [run]
    exact .kept
  · rw [run] at failed ⊢
    exact declined_loadContainer failed

/-- A request that is not accepted was numbered. -/
theorem declined_place
    {surfaces : Nat}
    {request : Request}
    {ask : Bytes → Nat → State → Reply State Unit}
    (idle : session.phase counter.slots ≠ .pending)
    (failed : (((session.settle counter.slots).counted surfaces).place request ask
      counter).result = .error error) :
    Declined session counter
      (((session.settle counter.slots).counted surfaces).place request ask counter).session
      (((session.settle counter.slots).counted surfaces).place request ask counter).counter := by
  rcases place_cases ((session.settle counter.slots).counted surfaces) request ask counter with
    ⟨_, -, same, -⟩ | ⟨_, -, accepted, -⟩
  · rw [same]
    exact .numbered idle surfaces _
  · rw [accepted] at failed
    cases failed

theorem declined_submit
    {inputs : List Surface}
    (failed : (session.submit service inputs counter).result = .error error) :
    Declined session counter (session.submit service inputs counter).session
      (session.submit service inputs counter).counter := by
  cases gated_submit service session inputs counter with
  | kept error failed run =>
      rw [run]
      exact .kept
  | settled error failed run =>
      rw [run]
      exact .settled
  | passed program checked run =>
      obtain ⟨-, ready, -⟩ := ready_of_checkSubmit checked
      rw [run] at failed ⊢
      exact declined_place (phase_ne_pending ready (by decide)) failed

theorem declined_submitCompile
    {description : Bytes}
    (failed : (session.submitCompile service description counter).result = .error error) :
    Declined session counter (session.submitCompile service description counter).session
      (session.submitCompile service description counter).counter := by
  cases gated_submitCompile service session description counter with
  | kept error failed run =>
      rw [run]
      exact .kept
  | settled error failed run =>
      rw [run]
      exact .settled
  | passed _ checked run =>
      obtain ⟨-, ready⟩ := ready_of_checkCompile checked
      rw [run] at failed ⊢
      exact declined_place (phase_ne_pending ready (by decide)) failed

/-- A slot that fails a waiter failed before, or its time runs out. -/
theorem eq_of_wait_eq_error
    {slot : Slot}
    {request : UInt64}
    {timeout : Nat}
    (waited : slot.isFinal = false)
    (failed : (slot.wait request timeout).1 = .error error) :
    slot = .ready (.error error) ∨ slot = .waiting ∧ error = .timeout timeout := by
  cases slot with
  | waiting => exact Or.inr ⟨rfl, (Except.error.inj failed).symm⟩
  | ready outcome => exact Or.inl (congrArg Slot.ready failed)
  | _ => cases waited

/-- A wait that fails ends with the outcome of the request, or the session shows what it showed. -/
theorem view_wait
    {handle : Handle}
    {timeout : Nat}
    (failed : (session.wait handle timeout counter).result = .error error) :
    (session.wait handle timeout counter).session.view
        (session.wait handle timeout counter).counter.slots = session.view counter.slots ∨
      (Attempt.wait handle timeout).EndsWith session counter.slots error := by
  by_cases expects : session.Expects handle
  · have run : session.wait handle timeout counter = _ := wait_of_match expects.1 expects.2
    obtain ⟨own, pending, sameRequest⟩ := Option.map_eq_some_iff.mp expects.2
    by_cases taken : own.slot = handle.slot ∧ (counter.slots.get own.slot).isFinal = false
    · obtain ⟨sameSlot, waited⟩ := taken
      obtain rfl : own = handle := by
        cases own
        cases handle
        exact Handle.mk.injEq .. ▸ ⟨sameSlot, sameRequest⟩
      rw [run] at failed
      have waits : session.phase counter.slots = .pending := by
        rw [phase_of_pending expects.1 pending, phaseOfStatus_eq_pending]
        by_contra settled
        rw [Slot.isFinal_iff.mpr settled] at waited
        cases waited
      have shown : (session.view counter.slots).request =
          some (own, counter.slots.get own.slot) := by
        rw [view, if_pos waits, pending, Option.map_some]
      refine Or.inr ?_
      rcases eq_of_wait_eq_error waited failed with ready | ⟨waiting, rfl⟩
      · exact Or.inl (ready ▸ shown)
      · exact Or.inr ⟨waiting ▸ shown, rfl⟩
    · -- The slot of another request, or one whose outcome was taken, stays as it is.
      left
      rw [run]
      refine (view_settle session _).trans (view_congr ?_)
      intro shown present
      cases pending.symm.trans present
      refine (Slots.get_wait ..).trans ?_
      split
      · next same =>
          have final : (counter.slots.get own.slot).isFinal = true := by
            by_contra open_
            exact taken ⟨same, by simpa using open_⟩
          exact Slot.wait_of_isFinal final
      · rfl
  · left
    rw [wait_of_mismatch expects]

/-- A call that fails, but not with the outcome of the request that the session waits for, leaves
what the session shows. -/
theorem view_of_rejected
    {attempt : Attempt}
    (failed : (attempt.run service session counter).result = .error error)
    (rejected : ¬ attempt.EndsWith session counter.slots error) :
    (attempt.run service session counter).session.view
      (attempt.run service session counter).counter.slots = session.view counter.slots := by
  cases attempt with
  | loadProgram bytes => exact (declined_loadProgram failed).view_eq
  | loadFile contents => exact (declined_loadFile failed).view_eq
  | loadContainer program => exact (declined_loadContainer failed).view_eq
  | submit inputs => exact (declined_submit (Step.plain_eq_error failed)).view_eq
  | submitCompile description => exact (declined_submitCompile (Step.plain_eq_error failed)).view_eq
  | wait handle timeout =>
      exact (view_wait (Step.plain_eq_error failed)).resolve_right rejected

/-- Calls that a session rejects one after another. -/
inductive Rejections (service : Service State) :
    Session → Counter State → Session → Counter State → Prop
  | none (session : Session) (counter : Counter State) :
      Rejections service session counter session counter
  | call
      {session next : Session}
      {counter after : Counter State}
      {error : Error}
      (attempt : Attempt)
      (failed : (attempt.run service session counter).result = .error error)
      (rejected : ¬ attempt.EndsWith session counter.slots error)
      (rest : Rejections service (attempt.run service session counter).session
        (attempt.run service session counter).counter next after) :
      Rejections service session counter next after

/-- However many calls a session rejects, it shows what it showed. -/
theorem Rejections.view_eq (rejections : Rejections service session counter next after) :
    next.view after.slots = session.view counter.slots := by
  induction rejections with
  | none => rfl
  | call attempt failed rejected _ inductionHypothesis =>
      exact inductionHypothesis.trans (view_of_rejected failed rejected)

/-- A session stands as it stood: in the same phase, with the same program, and if it waits, then
for the same request, the slot of which is as it was. -/
structure Unmoved (session : Session) (slots : Slots) (next : Session) (later : Slots) : Prop where
  phase : next.phase later = session.phase slots
  program : next.program = session.program
  pending : session.phase slots = .pending → next.pending = session.pending
  slot : session.phase slots = .pending → ∀ handle, session.pending = some handle →
    later.get handle.slot = slots.get handle.slot

/-- What a session shows is how it stands. -/
theorem unmoved_of_view_eq (same : next.view other = session.view slots) :
    session.Unmoved slots next other := by
  have phase : next.phase other = session.phase slots := congrArg View.phase same
  have shown (waits : session.phase slots = .pending) :
      (next.pending.map fun handle => (handle, other.get handle.slot)) =
        session.pending.map fun handle => (handle, slots.get handle.slot) := by
    simpa only [view, phase, waits, if_true] using congrArg View.request same
  have pending (waits : session.phase slots = .pending) : next.pending = session.pending := by
    simpa [Function.comp_def] using congrArg (Option.map Prod.fst) (shown waits)
  refine ⟨phase, congrArg View.program same, pending, ?_⟩
  intro waits handle present
  have slot := shown waits
  rw [pending waits, present] at slot
  exact (Prod.mk.inj (Option.some.inj slot)).2

/-- Whatever the service, a call that fails in any way but with the outcome of the request that
the session waits for leaves the session as it stood. -/
theorem rejected_moves_nothing
    {attempt : Attempt}
    (failed : (attempt.run service session counter).result = .error error)
    (rejected : ¬ attempt.EndsWith session counter.slots error) :
    session.Unmoved counter.slots (attempt.run service session counter).session
      (attempt.run service session counter).counter.slots :=
  unmoved_of_view_eq (view_of_rejected failed rejected)

end Session

namespace Lobby

/-- Two sessions compile descriptions that are none, and the service turns to the second one's. -/
def strangersLobby : Lobby Loopback :=
  run Loopback.service Loopback.finish (empty (.ofBehavior .sound))
    [.open_ .compileOnly .standard, .open_ .compileOnly .standard, .compile 0 [], .compile 1 [],
      .turn 1]

/-- When the first session waits with the handle of the second, it gets the second one's failure
and stands as it stood. -/
theorem strangers_failure :
    ∃ first second, strangersLobby.clients = [first, second] ∧
      first.session.phase strangersLobby.counter.slots = .pending ∧
      ((Session.Attempt.wait ⟨1, 1⟩ 5000).run Loopback.service first.session
        strangersLobby.counter).result =
          .error (.compilerFailed Loopback.compilerName (.refused .description)) ∧
      first.session.Unmoved strangersLobby.counter.slots
        ((Session.Attempt.wait ⟨1, 1⟩ 5000).run Loopback.service first.session
          strangersLobby.counter).session
        ((Session.Attempt.wait ⟨1, 1⟩ 5000).run Loopback.service first.session
          strangersLobby.counter).counter.slots := by
  obtain ⟨first, second, clients, own, waits, failed⟩ :
      ∃ first second, strangersLobby.clients = [first, second] ∧
        (first.session.view strangersLobby.counter.slots).request.map Prod.fst = some ⟨0, 1⟩ ∧
        first.session.phase strangersLobby.counter.slots = .pending ∧
        ((Session.Attempt.wait ⟨1, 1⟩ 5000).run Loopback.service first.session
          strangersLobby.counter).result =
            .error (.compilerFailed Loopback.compilerName (.refused .description)) := by
    refine ⟨_, _, rfl, ?_, ?_, ?_⟩ <;> decide +kernel
  refine ⟨first, second, clients, waits, failed, Session.rejected_moves_nothing failed ?_⟩
  rintro (shown | ⟨shown, -⟩) <;>
    · rw [shown] at own
      cases own

end Lobby
end Execution
end TileProgram
