import Mathlib.Data.List.Nodup
import TileProgram.Proofs.Execution.Discipline

/-!
# Whose request a session waits for

A session knows the request that it waits for by its number, and every session
numbers its requests from one on.  So it refuses the handles of its own earlier
requests, and lets through those of other sessions that bear the same number.
-/

namespace TileProgram
namespace Execution

namespace Session

variable {session : Session} {State : Type} {counter : Counter State} {handle own : Handle}
  {timeout : Nat}

/-- A session takes a handle for that of the request that it waits for. -/
def Expects (session : Session) (handle : Handle) : Prop :=
  session.storedPhase = .pending ∧ session.pending.map Handle.request = some handle.request

/-- A wait that is let through touches nothing but the slot of its handle. -/
theorem get_wait_of_expects
    {number : Nat}
    (expects : session.Expects handle)
    (other : number ≠ handle.slot)
    (timeout : Nat)
    (counter : Counter State) :
    (session.wait handle timeout counter).counter.slots.get number =
      counter.slots.get number := by
  rw [wait_of_match expects.1 expects.2]
  exact (Slots.get_wait ..).trans (if_neg other)

/-- After a wait for its own request a session waits no longer. -/
theorem phase_wait_own
    (waits : session.storedPhase = .pending)
    (pending : session.pending = some handle) :
    (session.wait handle timeout counter).session.phase
      (session.wait handle timeout counter).counter.slots ≠ .pending := by
  have slot : (counter.wait handle timeout).2.slots.get handle.slot =
      ((counter.slots.get handle.slot).wait handle.request timeout).2 :=
    (Slots.get_wait ..).trans (if_pos rfl)
  rw [wait_of_match waits (by rw [pending]; rfl), phase_settle, phase_of_pending waits pending,
    slot, Ne, phaseOfStatus_eq_pending]
  exact Slot.isFinal_iff.mp Slot.isFinal_wait

/-- After a wait for the request of another session it stands as before. -/
theorem phase_wait_foreign
    (expects : session.Expects handle)
    (pending : session.pending = some own)
    (other : own.slot ≠ handle.slot) :
    (session.wait handle timeout counter).session.phase
      (session.wait handle timeout counter).counter.slots = session.phase counter.slots := by
  have untouched := get_wait_of_expects expects other timeout counter
  rw [wait_of_match expects.1 expects.2] at untouched ⊢
  rw [phase_settle, phase_of_pending expects.1 pending, phase_of_pending expects.1 pending,
    untouched]

end Session

namespace Client

variable {client : Client} {count : Nat} {handle own : Handle}

/-- As long as the numbers do not run out, they tell the requests of a client apart. -/
theorem Numbered.eq_of_request_eq
    (numbered : client.Numbered count)
    (few : count < UInt64.size)
    (first : own ∈ client.accepted)
    (second : handle ∈ client.accepted)
    (same : own.request = handle.request) :
    own = handle := by
  have different : (client.accepted.map Handle.request).Nodup :=
    List.pairwise_map.mpr ((numbered.increasing few).imp fun lt => (UInt64.ne_of_lt lt).symm)
  exact List.inj_on_of_nodup_map different first second same

end Client

namespace Lobby

variable {State Turn : Type} {lobby : Lobby State} {service : Service State}
  {turns : Turn → State → Reply State Unit} {place : Nat} {client : Client} {handle : Handle}

/-- What comes of a wait for a handle through the session of a client. -/
structure WaitsByNumber (lobby : Lobby State) (place : Nat) (client : Client) (handle : Handle)
    (timeout : Nat) : Prop where
  refused : ¬ client.session.Expects handle →
    client.session.wait handle timeout lobby.counter =
      ⟨.error (.invalidState (.notPending handle.request)), client.session, lobby.counter⟩
  answered : client.session.Expects handle →
    (client.session.wait handle timeout lobby.counter).result =
        ((lobby.counter.slots.get handle.slot).wait handle.request timeout).1 ∧
      (client.session.wait handle timeout lobby.counter).counter.state = lobby.counter.state ∧
      ∀ number, number ≠ handle.slot →
        (client.session.wait handle timeout lobby.counter).counter.slots.get number =
          lobby.counter.slots.get number
  expects_iff : handle ∈ client.accepted →
    (client.session.Expects handle ↔ client.session.pending = some handle)
  own : client.session.pending = some handle →
    (client.session.wait handle timeout lobby.counter).session.phase
      (client.session.wait handle timeout lobby.counter).counter.slots ≠ .pending
  foreign : client.session.Expects handle → client.session.pending ≠ some handle →
    (∃ other, other ≠ place ∧ lobby.Accepted other handle) ∧
      (client.session.wait handle timeout lobby.counter).session.phase
        (client.session.wait handle timeout lobby.counter).counter.slots =
          client.session.phase lobby.counter.slots

/-- The request that a session waits for has the number of each handle that it expects. -/
theorem exists_pending_of_expects (expects : client.session.Expects handle) :
    ∃ own, client.session.pending = some own ∧ own.request = handle.request :=
  Option.map_eq_some_iff.mp expects.2

theorem Sound.expects_iff
    {count : Nat}
    (sound : lobby.Sound)
    (numbered : lobby.Numbered count)
    (few : count < UInt64.size)
    (present : lobby.clients[place]? = some client)
    (accepted : handle ∈ client.accepted) :
    client.session.Expects handle ↔ client.session.pending = some handle := by
  have clientSound := sound.sound place client present
  constructor
  · intro expects
    obtain ⟨own, pending, same⟩ := exists_pending_of_expects expects
    rw [pending, (numbered place client present).eq_of_request_eq few
      (clientSound.mem_of_pending pending) accepted same]
  · intro pending
    exact ⟨clientSound.waits.mpr (by simp [pending]), by simp [pending]⟩

theorem Sound.waitsByNumber
    {count : Nat}
    (sound : lobby.Sound)
    (numbered : lobby.Numbered count)
    (few : count < UInt64.size)
    (present : lobby.clients[place]? = some client)
    (given : handle ∈ lobby.handles)
    (timeout : Nat) :
    WaitsByNumber lobby place client handle timeout where
  refused := Session.wait_of_mismatch
  answered := by
    intro expects
    refine ⟨?_, ?_, fun number other => Session.get_wait_of_expects expects other _ _⟩ <;>
      rw [Session.wait_of_match expects.1 expects.2] <;> rfl
  expects_iff := sound.expects_iff numbered few present
  own := by
    intro pending
    have clientSound := sound.sound place client present
    exact Session.phase_wait_own (clientSound.waits.mpr (by simp [pending])) pending
  foreign := by
    intro expects notOwn
    obtain ⟨own, pending, same⟩ := exists_pending_of_expects expects
    obtain ⟨other, accepted⟩ := sound.given handle given
    have different : other ≠ place := by
      rintro rfl
      obtain ⟨twin, found, member⟩ := accepted
      cases present.symm.trans found
      exact notOwn ((sound.expects_iff numbered few present member).mp expects)
    have mine : lobby.Accepted place own :=
      ⟨client, present, (sound.sound place client present).mem_of_pending pending⟩
    refine ⟨⟨other, different, accepted⟩, Session.phase_wait_foreign expects pending ?_⟩
    intro slots
    exact different (sound.apart place own other handle mine accepted slots).1.symm

/-- Wherever moves lead, a session refuses a handle unless its number is that of the pending
request, and such a handle is the session's own or that of another session. -/
theorem wait_by_number
    {state : State}
    {moves : List (Move Turn)}
    (few : moves.length < UInt64.size)
    (present : (run service turns (empty state) moves).clients[place]? = some client)
    (given : handle ∈ (run service turns (empty state) moves).handles)
    (timeout : Nat) :
    WaitsByNumber (run service turns (empty state) moves) place client handle timeout := by
  have sound : (run service turns (empty state) moves).Sound := (sound_empty state).run moves
  have numbered : (run service turns (empty state) moves).Numbered (0 + moves.length) :=
    (numbered_empty state).run (sound_empty state) moves
  rw [Nat.zero_add] at numbered
  exact sound.waitsByNumber numbered few present given timeout

/-- A session compiles a description while another runs an empty program; both requests are the
first of their session, and the service finishes the second session's. -/
def namesakes : List (Move Nat) :=
  [.open_ .compileOnly .standard, .open_ .programExecution .standard,
    .load 1 ⟨Container.formatVersion, 0, [], [], []⟩, .compile 0 [], .submit 1 [], .turn 1]

/-- Where these moves lead. -/
def namesakesLobby : Lobby Loopback :=
  run Loopback.service Loopback.finish (empty (.ofBehavior .sound)) namesakes

/-- Both handles bear the number that the first session waits for. -/
theorem namesakes_waited_for :
    ∃ client, namesakesLobby.clients[0]? = some client ∧
      ∀ handle ∈ [(⟨0, 1⟩ : Handle), ⟨1, 1⟩],
        WaitsByNumber namesakesLobby 0 client handle 5000 := by
  have present : ∃ client, namesakesLobby.clients[0]? = some client := ⟨_, rfl⟩
  have handles : namesakesLobby.handles = [⟨1, 1⟩, ⟨0, 1⟩] := by decide +kernel
  obtain ⟨client, present⟩ := present
  refine ⟨client, present, fun handle member => wait_by_number (by decide) present ?_ 5000⟩
  show handle ∈ namesakesLobby.handles
  simpa [handles, or_comm] using member

/-- When the first session waits with the handle of the second, it gets the second one's output
and goes on waiting, while the second has nothing left to wait for. -/
theorem namesake_taken :
    ∃ first second, namesakesLobby.clients = [first, second] ∧
      first.session.pending = some ⟨0, 1⟩ ∧ second.accepted = [⟨1, 1⟩] ∧
      (first.session.wait ⟨1, 1⟩ 5000 namesakesLobby.counter).result = .ok ⟨1, [], []⟩ ∧
      (first.session.wait ⟨1, 1⟩ 5000 namesakesLobby.counter).session.phase
        (first.session.wait ⟨1, 1⟩ 5000 namesakesLobby.counter).counter.slots = .pending ∧
      second.session.phase
        (first.session.wait ⟨1, 1⟩ 5000 namesakesLobby.counter).counter.slots = .completed := by
  refine ⟨_, _, rfl, ?_, ?_, ?_, ?_, ?_⟩ <;> decide +kernel

end Lobby
end Execution
end TileProgram
