import TileProgram.Proofs.Execution.Dealings
import TileProgram.Proofs.Execution.Discipline
import TileProgram.Proofs.Execution.Isolation

/-!
# What moves make of the counter of the software service

A service that is not stalled parks nothing.  Whatever it is asked, it leaves the
requests in its queue where they are or delivers them, and what is new in an answer
concerns the request that was made.  Beside that the slots are waited for and
cancelled.  So an outcome that stands in the queue for a slot stays there until it
is delivered, and an outcome that was delivered stays until somebody touches the
slot.
-/

namespace TileProgram
namespace Execution

/-!
## Deliveries to one slot
-/

namespace Slots

variable {slots : Slots} {number : Nat} {outcome : Outcome} {deliveries : List Delivery}

/-- An outcome that is ready is not replaced. -/
theorem get_deliverAll_of_ready (ready : slots.get number = .ready outcome) :
    (slots.deliverAll deliveries).get number = .ready outcome := by
  induction deliveries generalizing slots with
  | nil => exact ready
  | cons delivery rest inductionHypothesis =>
      refine inductionHypothesis ?_
      rw [get_deliver, ready]
      split <;> rfl

/-- A slot that waits takes the outcome that is delivered to it. -/
theorem get_deliverAll_of_waiting
    (waiting : slots.get number = .waiting)
    (member : ⟨number, outcome⟩ ∈ deliveries)
    (only : ∀ delivery ∈ deliveries, delivery.slot = number → delivery.outcome = outcome) :
    (slots.deliverAll deliveries).get number = .ready outcome := by
  induction deliveries generalizing slots with
  | nil => cases member
  | cons delivery rest inductionHypothesis =>
      obtain ⟨here, others⟩ := List.forall_mem_cons.mp only
      by_cases own : delivery.slot = number
      · have taken : (slots.deliver delivery).2.get number = .ready outcome := by
          rw [get_deliver, if_pos own.symm, waiting, here own]
          rfl
        show ((slots.deliver delivery).2.deliverAll rest).get number = _
        exact get_deliverAll_of_ready taken
      · have later : ⟨number, outcome⟩ ∈ rest := by
          rcases List.mem_cons.mp member with rfl | later
          · exact absurd rfl own
          · exact later
        refine inductionHypothesis ?_ later others
        rw [get_deliver, if_neg (Ne.symm own), waiting]

end Slots

/-!
## Answers of a service that is not stalled
-/

namespace Loopback

variable {service after : Loopback} {Value : Type} {reply : Reply Loopback Value} {slot : Nat}

/-- A service that is not stalled and has nothing parked. -/
structure Flows (service : Loopback) : Prop where
  running : service.behavior.isStalled = false
  unparked : service.parked = []

/-- An answer keeps what is queued or delivers it; what is new is for one slot, if any. -/
structure Passes (fresh : Option Nat) (service : Loopback) (reply : Reply Loopback Value) :
    Prop where
  behavior : reply.state.behavior = service.behavior
  unparked : reply.state.parked = []
  queued : ∀ delivery ∈ reply.state.queue, delivery ∈ service.queue ∨ fresh = some delivery.slot
  delivered : ∀ delivery ∈ reply.deliveries,
    delivery ∈ service.queue ∨ fresh = some delivery.slot
  kept : ∀ delivery ∈ service.queue, delivery ∈ reply.state.queue ∨ delivery ∈ reply.deliveries

/-- An answer that delivers nothing and leaves the queue alone. -/
theorem passes_reply
    (behavior : after.behavior = service.behavior)
    (unparked : after.parked = [])
    (queue : after.queue = service.queue)
    (result : Except Error Value) :
    Passes none service (after.reply result) where
  behavior := behavior
  unparked := unparked
  queued := fun _ member => .inl (queue ▸ member)
  delivered := List.forall_mem_nil _
  kept := fun _ member => .inl (queue.symm ▸ member)

theorem passes_connect (unparked : service.parked = []) (mode : Mode) :
    Passes none service (connect mode service) := by
  unfold connect
  split
  · exact passes_reply rfl unparked rfl _
  · split
    · exact passes_reply rfl unparked rfl _
    · exact passes_reply (by rfl) (by exact unparked) (by rfl) _

theorem passes_load (unparked : service.parked = []) (id : UInt32) (program : Container) :
    Passes none service (load id program service) := by
  unfold load
  split
  · exact passes_reply rfl unparked rfl _
  · exact passes_reply (by rfl) (by exact unparked) (by rfl) _

theorem passes_release (unparked : service.parked = []) (id : UInt32) :
    Passes none service (release id service) := by
  unfold release
  split
  · exact passes_reply rfl unparked rfl _
  · refine ⟨rfl, ?_, fun _ member => .inl member, ?_, fun _ member => .inl member⟩
    · show service.parked.filter _ = []
      rw [unparked, List.filter_nil]
    · rw [unparked]
      exact List.forall_mem_nil _

theorem passes_finish (unparked : service.parked = []) (place : Nat) :
    Passes none service (finish place service) where
  behavior := rfl
  unparked := unparked
  queued := fun delivery member => .inl (List.mem_of_mem_eraseIdx member)
  delivered := by
    intro delivery member
    rw [finish, Option.mem_toList] at member
    exact .inl (List.mem_of_getElem? member)
  kept := by
    intro delivery member
    rw [finish, Option.mem_toList]
    obtain ⟨position, found⟩ := List.mem_iff_getElem?.mp member
    by_cases here : position = place
    · exact .inr (here ▸ found)
    · exact .inl (List.mem_eraseIdx_iff_getElem?.mpr ⟨position, here, found⟩)

theorem passes_refuse (unparked : service.parked = []) (slot : Nat) (error : Error) :
    Passes (some slot) service (service.refuse slot error) where
  behavior := rfl
  unparked := unparked
  queued := fun delivery member => .inl member
  delivered := by
    intro delivery member
    rw [List.mem_singleton.mp member]
    exact .inr rfl
  kept := fun delivery member => .inl member

theorem passes_keep (flows : service.Flows) (id : UInt32) (slot : Nat) (outcome : Outcome) :
    Passes (some slot) service (service.keep id slot outcome) := by
  unfold keep
  rw [flows.running]
  refine ⟨rfl, flows.unparked, ?_, List.forall_mem_nil _,
    fun _ member => .inl (List.mem_append_left _ member)⟩
  intro delivery member
  rcases List.mem_append.mp member with old | new
  · exact .inl old
  · rw [List.mem_singleton.mp new]
    exact .inr rfl

theorem passes_submit (flows : service.Flows) (id : UInt32) (raw : Bytes)
    (inputs outputs : List Surface) (slot : Nat) :
    Passes (some slot) service (submit id raw inputs outputs slot service) := by
  unfold submit
  split
  · exact passes_refuse flows.unparked slot _
  · exact passes_keep flows id slot _

theorem passes_compile (flows : service.Flows) (id : UInt32) (raw : Bytes)
    (description : Surface) (slot : Nat) :
    Passes (some slot) service (compile id raw description slot service) := by
  unfold compile
  split
  · exact passes_refuse flows.unparked slot _
  · exact passes_keep flows id slot _

end Loopback

/-!
## What becomes of a counter
-/

namespace Counter

open Loopback

/-- What an operation makes of a counter: it is asked, for a new slot or for none, or a slot is
touched by somebody who waits or gives up. -/
inductive Becomes (touched : Nat → Prop) (counter : Counter Loopback) :
    Counter Loopback → Prop where
  | same : Becomes touched counter counter
  | answered {Value : Type} {reply : Reply Loopback Value}
      (passes : Passes none counter.state reply) :
      Becomes touched counter (counter.accept reply).2
  | asked {reply : Reply Loopback Unit} (request : UInt64)
      (passes : Passes (some counter.slots.next) counter.state reply) :
      Becomes touched counter ((counter.allot request).2.accept reply).2
  | waited (handle : Handle) (timeout : Nat) (touches : touched handle.slot) :
      Becomes touched counter (counter.wait handle timeout).2
  | cancelled {reply : Reply Loopback Unit} (number : Nat) (touches : touched number)
      (passes : Passes none counter.state reply) :
      Becomes touched counter
        ((⟨counter.state, counter.slots.cancel number⟩ : Counter Loopback).accept reply).2

variable {behavior : Behavior} {counter after : Counter Loopback} {touched : Nat → Prop}
  {Value : Type} {reply : Reply Loopback Value} {number : Nat} {outcome : Outcome}

/-- The slots of requests have been given out, and nothing is parked. -/
structure Orderly (behavior : Behavior) (counter : Counter Loopback) : Prop where
  behavior : counter.state.behavior = behavior
  unparked : counter.state.parked = []
  queued : ∀ delivery ∈ counter.state.queue, delivery.slot < counter.slots.next
  unused : ∀ number, counter.slots.next ≤ number → counter.slots.get number = .waiting

theorem orderly_fresh (behavior : Behavior) :
    Orderly behavior (.fresh (.ofBehavior behavior)) :=
  ⟨rfl, rfl, List.forall_mem_nil _, fun _ _ => rfl⟩

namespace Orderly

theorem flows (orderly : counter.Orderly behavior) (running : behavior.isStalled = false) :
    counter.state.Flows :=
  ⟨orderly.behavior ▸ running, orderly.unparked⟩

theorem allot (orderly : counter.Orderly behavior) (request : UInt64) :
    (counter.allot request).2.Orderly behavior where
  behavior := orderly.behavior
  unparked := orderly.unparked
  queued := fun delivery member => Nat.lt_succ_of_lt (orderly.queued delivery member)
  unused := fun number beyond => orderly.unused number (Nat.le_of_succ_le beyond)

theorem accept
    {fresh : Option Nat}
    (orderly : counter.Orderly behavior)
    (passes : Passes fresh counter.state reply)
    (given : ∀ number, fresh = some number → number < counter.slots.next) :
    (counter.accept reply).2.Orderly behavior where
  behavior := passes.behavior.trans orderly.behavior
  unparked := passes.unparked
  queued := by
    intro delivery member
    have same : (counter.accept reply).2.slots.next = counter.slots.next :=
      Slots.next_deliverAll _ _
    rw [same]
    exact (passes.queued delivery member).elim (orderly.queued delivery) (given delivery.slot)
  unused := by
    intro number beyond
    have same : (counter.accept reply).2.slots.next = counter.slots.next :=
      Slots.next_deliverAll _ _
    rw [same] at beyond
    refine (Slots.get_deliverAll_of_forall_ne ?_).trans (orderly.unused number beyond)
    intro delivery member
    have below : delivery.slot < counter.slots.next :=
      (passes.delivered delivery member).elim (orderly.queued delivery) (given delivery.slot)
    omega

theorem wait
    {handle : Handle}
    (orderly : counter.Orderly behavior)
    (given : handle.slot < counter.slots.next)
    (timeout : Nat) :
    (counter.wait handle timeout).2.Orderly behavior where
  behavior := orderly.behavior
  unparked := orderly.unparked
  queued := orderly.queued
  unused := by
    intro number beyond
    have beyond : counter.slots.next ≤ number := beyond
    exact (Slots.get_wait ..).trans ((if_neg (by omega)).trans (orderly.unused number beyond))

theorem cancel
    (orderly : counter.Orderly behavior)
    (given : number < counter.slots.next) :
    Orderly behavior ⟨counter.state, counter.slots.cancel number⟩ where
  behavior := orderly.behavior
  unparked := orderly.unparked
  queued := orderly.queued
  unused := by
    intro other beyond
    have beyond : counter.slots.next ≤ other := beyond
    exact (Slots.get_cancel ..).trans ((if_neg (by omega)).trans (orderly.unused other beyond))

theorem becomes
    (orderly : counter.Orderly behavior)
    (known : ∀ number, touched number → number < counter.slots.next)
    (becomes : Becomes touched counter after) :
    after.Orderly behavior := by
  cases becomes with
  | same => exact orderly
  | answered passes => exact orderly.accept passes nofun
  | asked request passes =>
      refine (orderly.allot request).accept passes ?_
      rintro number ⟨⟩
      exact Nat.lt_succ_self _
  | waited handle timeout touches => exact orderly.wait (known _ touches) timeout
  | cancelled number touches passes => exact (orderly.cancel (known _ touches)).accept passes nofun

end Orderly

/-- A slot has an outcome, or waits for the one that is queued for it. -/
structure Pledges (counter : Counter Loopback) (number : Nat) (outcome : Outcome) : Prop where
  given : number < counter.slots.next
  only : ∀ delivery ∈ counter.state.queue, delivery.slot = number → delivery.outcome = outcome
  stands : counter.slots.get number = .ready outcome ∨
    counter.slots.get number = .waiting ∧ ⟨number, outcome⟩ ∈ counter.state.queue

namespace Pledges

/-- The outcome has not been taken. -/
theorem status_eq (pledges : counter.Pledges number outcome) :
    (counter.slots.get number).status = .pending := by
  rcases pledges.stands with ready | ⟨waiting, -⟩
  · rw [ready]
    rfl
  · rw [waiting]
    rfl

/-- When nothing is queued for the slot any longer, the outcome is there. -/
theorem ready
    (pledges : counter.Pledges number outcome)
    (finished : ∀ delivery ∈ counter.state.queue, delivery.slot ≠ number) :
    counter.slots.get number = .ready outcome := by
  rcases pledges.stands with ready | ⟨-, queued⟩
  · exact ready
  · exact absurd rfl (finished _ queued)

theorem allot (pledges : counter.Pledges number outcome) (request : UInt64) :
    (counter.allot request).2.Pledges number outcome :=
  ⟨Nat.lt_succ_of_lt pledges.given, pledges.only, pledges.stands⟩

/-- An answer with nothing new for the slot leaves the outcome in the queue or delivers it. -/
theorem accept
    {fresh : Option Nat}
    (pledges : counter.Pledges number outcome)
    (passes : Passes fresh counter.state reply)
    (other : fresh ≠ some number) :
    (counter.accept reply).2.Pledges number outcome := by
  have given : number < (counter.accept reply).2.slots.next :=
    (Slots.next_deliverAll counter.slots reply.deliveries).symm ▸ pledges.given
  have old : ∀ delivery : Delivery, delivery ∈ counter.state.queue ∨ fresh = some delivery.slot →
      delivery.slot = number → delivery.outcome = outcome := by
    rintro delivery (queued | new) own
    · exact pledges.only delivery queued own
    · exact absurd (own ▸ new) other
  have only : ∀ delivery ∈ reply.deliveries, delivery.slot = number →
      delivery.outcome = outcome :=
    fun delivery member => old delivery (passes.delivered delivery member)
  refine ⟨given, fun delivery member => old delivery (passes.queued delivery member), ?_⟩
  rcases pledges.stands with ready | ⟨waiting, queued⟩
  · exact .inl (Slots.get_deliverAll_of_ready ready)
  · by_cases delivered : ⟨number, outcome⟩ ∈ reply.deliveries
    · exact .inl (Slots.get_deliverAll_of_waiting waiting delivered only)
    · refine .inr ⟨?_, (passes.kept _ queued).resolve_right delivered⟩
      refine (Slots.get_deliverAll_of_forall_ne ?_).trans waiting
      rintro delivery member rfl
      exact delivered (only delivery member rfl ▸ member)

theorem of_get
    {slots : Slots}
    (pledges : counter.Pledges number outcome)
    (next : slots.next = counter.slots.next)
    (same : slots.get number = counter.slots.get number) :
    Pledges ⟨counter.state, slots⟩ number outcome :=
  ⟨next.symm ▸ pledges.given, pledges.only, same.symm ▸ pledges.stands⟩

/-- Whoever touches other slots leaves the outcome alone. -/
theorem becomes
    (pledges : counter.Pledges number outcome)
    (others : ∀ touches, touched touches → touches ≠ number)
    (becomes : Becomes touched counter after) :
    after.Pledges number outcome := by
  cases becomes with
  | same => exact pledges
  | answered passes => exact pledges.accept passes nofun
  | asked request passes =>
      refine (pledges.allot request).accept passes ?_
      rintro ⟨⟩
      exact Nat.lt_irrefl _ pledges.given
  | waited handle timeout touches =>
      exact pledges.of_get rfl
        ((Slots.get_wait ..).trans (if_neg (others _ touches).symm))
  | cancelled cancelled touches passes =>
      have kept : Pledges ⟨counter.state, counter.slots.cancel cancelled⟩ number outcome :=
        pledges.of_get rfl ((Slots.get_cancel ..).trans (if_neg (others _ touches).symm))
      exact kept.accept passes nofun

end Pledges
end Counter

/-!
## Operations of sessions
-/

namespace Session

open Counter Loopback

variable {counter : Counter Loopback} {touched : Nat → Prop}

theorem becomes_place
    {ask : Bytes → Nat → Loopback → Reply Loopback Unit}
    (passes : ∀ raw slot, Passes (some slot) counter.state (ask raw slot counter.state))
    (session : Session)
    (request : Request) :
    Becomes touched counter (session.place request ask counter).counter := by
  rcases (asked_place request ask session counter).counter_cases with same | ⟨raw, run⟩
  · rw [same]
    exact .same
  · rw [run]
    exact .asked _ (passes raw _)

theorem becomes_loadContainer (unparked : counter.state.parked = []) (session : Session)
    (program : Container) :
    Becomes touched counter (session.loadContainer Loopback.service program counter).counter := by
  rcases (gated_loadContainer Loopback.service session program counter).counter_cases with
    same | ⟨_, -, run⟩
  · rw [same]
    exact .same
  · rw [run, counter_load]
    exact .answered (passes_load unparked session.connection program)

theorem becomes_loadFile (unparked : counter.state.parked = []) (session : Session)
    (contents : Except Files.Failure Bytes) :
    Becomes touched counter (session.loadFile Loopback.service contents counter).counter := by
  rcases loadFile_cases Loopback.service session contents counter with
    ⟨error, run⟩ | ⟨program, run⟩
  · rw [run]
    exact .same
  · rw [run]
    exact becomes_loadContainer unparked session program

theorem becomes_submit (flows : counter.state.Flows) (session : Session)
    (inputs : List Surface) :
    Becomes touched counter (session.submit Loopback.service inputs counter).counter := by
  rcases (gated_submit Loopback.service session inputs counter).counter_cases with
    same | ⟨_, -, run⟩
  · rw [same]
    exact .same
  · rw [run]
    refine becomes_place (fun raw slot => ?_) _ _
    exact passes_submit flows ..

theorem becomes_submitCompile (flows : counter.state.Flows) (session : Session)
    (description : Bytes) :
    Becomes touched counter
      (session.submitCompile Loopback.service description counter).counter := by
  rcases (gated_submitCompile Loopback.service session description counter).counter_cases with
    same | ⟨_, -, run⟩
  · rw [same]
    exact .same
  · rw [run]
    refine becomes_place (fun raw slot => ?_) _ _
    exact passes_compile flows ..

theorem becomes_wait
    {handle : Handle}
    (touches : touched handle.slot)
    (session : Session)
    (timeout : Nat) :
    Becomes touched counter (session.wait handle timeout counter).counter := by
  unfold wait
  split
  · exact .waited handle timeout touches
  · exact .same

theorem becomes_close
    {session : Session}
    (unparked : counter.state.parked = [])
    (touches : ∀ handle, session.pending = some handle → touched handle.slot) :
    Becomes touched counter (session.close Loopback.service counter).2 := by
  unfold close
  split
  · exact .same
  · cases pending : session.pending with
    | none => exact .answered (passes_release unparked _)
    | some handle => exact .cancelled _ (touches handle pending) (passes_release unparked _)

end Session

/-!
## Moves
-/

namespace Lobby

open Counter Loopback

variable {behavior : Behavior} {lobby : Lobby Loopback} {touched : Nat → Prop} {number : Nat}

/-- The slots that a move touches: those that are waited for and those that are given up. -/
def Touches {State Turn : Type} (lobby : Lobby State) : Move Turn → Nat → Prop
  | .wait _ handle _, number => handle ∈ lobby.handles ∧ handle.slot = number
  | .waitFor handle _, number => handle ∈ lobby.handles ∧ handle.slot = number
  | .close place, number => ∃ client handle, lobby.clients[place]? = some client ∧
      client.session.pending = some handle ∧ handle.slot = number
  | _, _ => False

theorem becomes_visit
    {Value : Type}
    {act : Session → Counter Loopback → Step Loopback Value}
    {given : Value → List Handle}
    {place : Nat}
    (becomes : ∀ client, lobby.clients[place]? = some client →
      Becomes touched lobby.counter (act client.session lobby.counter).counter) :
    Becomes touched lobby.counter (lobby.visit place act given).counter := by
  cases present : lobby.clients[place]? with
  | none =>
      rw [visit_of_absent present]
      exact .same
  | some client =>
      rw [visit_of_present present]
      exact becomes client present

theorem becomes_join (unparked : lobby.counter.state.parked = []) (mode : Mode)
    (config : Config) :
    Becomes touched lobby.counter (lobby.join Loopback.service mode config).counter := by
  rw [counter_join]
  exact .answered (passes_connect unparked mode)

/-- What a move makes of the counter. -/
theorem becomes_step (flows : lobby.counter.state.Flows) (move : Move Nat) :
    Becomes (lobby.Touches move) lobby.counter
      (step Loopback.service Loopback.finish lobby move).counter := by
  have unparked := flows.unparked
  cases move with
  | open_ mode config => exact becomes_join unparked mode config
  | load place program =>
      exact becomes_visit fun client _ => Session.becomes_loadContainer unparked _ program
  | loadFile place contents =>
      exact becomes_visit fun client _ => Session.becomes_loadFile unparked _ contents
  | submit place inputs =>
      exact becomes_visit fun client _ => Session.becomes_submit flows _ inputs
  | compile place description =>
      exact becomes_visit fun client _ => Session.becomes_submitCompile flows _ description
  | wait place handle timeout =>
      rw [step]
      split
      · next given =>
          change Becomes _ (lobby.spend handle).counter _
          exact becomes_visit fun client _ => Session.becomes_wait ⟨given, rfl⟩ _ timeout
      · exact .same
  | waitFor handle timeout =>
      rw [step]
      split
      · next given => exact .waited handle timeout ⟨given, rfl⟩
      · exact .same
  | close place =>
      refine becomes_visit fun client present => Session.becomes_close unparked ?_
      exact fun handle pending => ⟨client, handle, present, pending, rfl⟩
  | turn turn => exact .answered (passes_finish unparked turn)

namespace Sound

/-- The request that a session waits for was accepted. -/
theorem accepted_of_pending
    {State : Type}
    {lobby : Lobby State}
    {place : Nat}
    {client : Client}
    {handle : Handle}
    (sound : lobby.Sound)
    (present : lobby.clients[place]? = some client)
    (pending : client.session.pending = some handle) :
    lobby.Accepted place handle :=
  ⟨client, present, (sound.sound place client present).mem_of_pending pending⟩

/-- The requests whose slots a move touches were accepted. -/
theorem accepted_of_touches
    {State Turn : Type}
    {lobby : Lobby State}
    {move : Move Turn}
    (sound : lobby.Sound)
    (touches : lobby.Touches move number) :
    ∃ place handle, lobby.Accepted place handle ∧ handle.slot = number := by
  cases move with
  | wait place handle timeout =>
      obtain ⟨owner, accepted⟩ := sound.given handle touches.1
      exact ⟨owner, handle, accepted, touches.2⟩
  | waitFor handle timeout =>
      obtain ⟨owner, accepted⟩ := sound.given handle touches.1
      exact ⟨owner, handle, accepted, touches.2⟩
  | close place =>
      obtain ⟨client, handle, present, pending, slot⟩ := touches
      exact ⟨place, handle, sound.accepted_of_pending present pending, slot⟩
  | _ => exact touches.elim

theorem orderly_step
    (sound : lobby.Sound)
    (orderly : lobby.counter.Orderly behavior)
    (running : behavior.isStalled = false)
    (move : Move Nat) :
    (Lobby.step Loopback.service Loopback.finish lobby move).counter.Orderly behavior := by
  refine orderly.becomes ?_ (becomes_step (orderly.flows running) move)
  intro number touches
  obtain ⟨place, handle, accepted, rfl⟩ := sound.accepted_of_touches touches
  exact sound.known place handle accepted

theorem orderly_run
    (sound : lobby.Sound)
    (orderly : lobby.counter.Orderly behavior)
    (running : behavior.isStalled = false)
    (moves : List (Move Nat)) :
    (Lobby.run Loopback.service Loopback.finish lobby moves).counter.Orderly behavior := by
  induction moves generalizing lobby with
  | nil => exact orderly
  | cons move moves inductionHypothesis =>
      exact inductionHypothesis (sound.step move) (sound.orderly_step orderly running move)

end Sound
end Lobby
end Execution
end TileProgram
