import TileProgram.Proofs.Execution.Admission
import TileProgram.Proofs.Execution.Discipline

/-!
# Outputs that are due

An output that somebody gets was put into the queue of the software service when
the request was accepted, under the slot of the request.  From then on it only
moves: to its slot when the service finishes it, and to whoever waits.  No other
request has the slot, so nobody gets an output that was made for another request.
-/

namespace TileProgram
namespace Execution

namespace Slots

variable {slots : Slots} {number : Nat} {outcome : Outcome}

/-- What is ready after deliveries was ready before or has been delivered. -/
theorem ready_of_deliverAll
    {deliveries : List Delivery}
    (ready : (slots.deliverAll deliveries).get number = .ready outcome) :
    slots.get number = .ready outcome ∨ ⟨number, outcome⟩ ∈ deliveries := by
  induction deliveries generalizing slots with
  | nil => exact .inl ready
  | cons delivery deliveries inductionHypothesis =>
      rcases inductionHypothesis ready with first | later
      · rw [get_deliver] at first
        split at first
        · next same =>
          cases state : slots.get number with
          | waiting =>
              rw [state] at first
              cases first
              subst same
              exact .inr List.mem_cons_self
          | _ => exact .inl (by rw [state] at first; exact first)
        · exact .inl first
      · exact .inr (List.mem_cons_of_mem _ later)

/-- What is ready after a wait was ready before. -/
theorem ready_of_wait
    {handle : Handle}
    {timeout : Nat}
    (ready : (slots.wait handle timeout).2.get number = .ready outcome) :
    slots.get number = .ready outcome := by
  rw [get_wait] at ready
  split at ready
  · cases state : slots.get number <;> rw [state] at ready <;> cases ready
  · exact ready

/-- What is ready after a cancellation was ready before. -/
theorem ready_of_cancel
    {cancelled : Nat}
    (ready : (slots.cancel cancelled).get number = .ready outcome) :
    slots.get number = .ready outcome := by
  rw [get_cancel] at ready
  split at ready
  · cases state : slots.get number <;> rw [state] at ready <;> cases ready
  · exact ready

end Slots

namespace Counter

variable {before between after counter : Counter Loopback} {number : Nat} {output : Output}

/-- An output stands in a slot or in the queue for it. -/
def Due (counter : Counter Loopback) (number : Nat) (output : Output) : Prop :=
  counter.slots.get number = .ready (.ok output) ∨ ⟨number, .ok output⟩ ∈ counter.state.queue

/-- A wait that gives an output finds it due. -/
theorem due_of_wait
    {handle : Handle}
    {timeout : Nat}
    (waited : (counter.wait handle timeout).1 = .ok output) :
    counter.Due handle.slot output := by
  have waited : ((counter.slots.get handle.slot).wait handle.request timeout).1 = .ok output :=
    waited
  cases state : counter.slots.get handle.slot with
  | ready outcome =>
      rw [state] at waited
      exact .inl (state.trans (congrArg Slot.ready waited))
  | _ =>
      rw [state] at waited
      cases waited

/-- Outputs become due only for slots that are given out meanwhile. -/
structure Keeps (before after : Counter Loopback) : Prop where
  next_le : before.slots.next ≤ after.slots.next
  due : ∀ number output, number < before.slots.next ∨ after.slots.next ≤ number →
    after.Due number output → before.Due number output

theorem Keeps.refl (counter : Counter Loopback) : Keeps counter counter :=
  ⟨Nat.le_refl _, fun _ _ _ due => due⟩

theorem Keeps.trans (first : Keeps before between) (second : Keeps between after) :
    Keeps before after where
  next_le := Nat.le_trans first.next_le second.next_le
  due := by
    intro number output outside due
    have later := second.next_le
    have earlier := first.next_le
    exact first.due number output (by omega) (second.due number output (by omega) due)

/-- What an answer makes due for a slot was due before, if the answer has nothing new for it. -/
theorem due_of_accept
    {Value : Type}
    {reply : Reply Loopback Value}
    (queued : ∀ delivery ∈ reply.state.queue, delivery.slot = number →
      delivery ∈ counter.state.queue)
    (delivered : ∀ delivery ∈ reply.deliveries, delivery.slot = number →
      ∀ output, delivery.outcome = .ok output → delivery ∈ counter.state.queue)
    (due : (counter.accept reply).2.Due number output) :
    counter.Due number output := by
  rcases due with ready | waiting
  · rcases Slots.ready_of_deliverAll ready with before | member
    · exact .inl before
    · exact .inr (delivered _ member rfl output rfl)
  · exact .inr (queued _ waiting rfl)

/-- An answer that puts nothing into the queue, and delivers failures or what was queued. -/
theorem keeps_accept
    {Value : Type}
    {reply : Reply Loopback Value}
    (queued : ∀ delivery ∈ reply.state.queue, delivery ∈ counter.state.queue)
    (delivered : ∀ delivery ∈ reply.deliveries,
      ∀ output, delivery.outcome = .ok output → delivery ∈ counter.state.queue) :
    Keeps counter (counter.accept reply).2 where
  next_le := Nat.le_of_eq (Slots.next_deliverAll _ _).symm
  due := fun _ _ _ => due_of_accept (fun delivery member _ => queued delivery member)
    fun delivery member _ => delivered delivery member

/-- An answer that delivers nothing and leaves the queue alone. -/
theorem keeps_reply
    {Value : Type}
    {service : Loopback}
    (queue : service.queue = counter.state.queue)
    (result : Except Error Value) :
    Keeps counter (counter.accept (service.reply result)).2 :=
  keeps_accept (fun _ member => queue ▸ member) fun _ member => absurd member List.not_mem_nil

theorem keeps_connect (mode : Mode) (counter : Counter Loopback) :
    Keeps counter (counter.accept (Loopback.connect mode counter.state)).2 := by
  unfold Loopback.connect
  split
  · exact keeps_reply (by rfl) _
  · split <;> exact keeps_reply (by rfl) _

theorem keeps_load (id : UInt32) (program : Container) (counter : Counter Loopback) :
    Keeps counter (counter.accept (Loopback.load id program counter.state)).2 := by
  unfold Loopback.load
  split <;> exact keeps_reply (by rfl) _

theorem keeps_release (id : UInt32) (counter : Counter Loopback) :
    Keeps counter (counter.accept (Loopback.release id counter.state)).2 := by
  unfold Loopback.release
  split
  · exact keeps_reply (by rfl) _
  · refine keeps_accept (fun _ member => member) ?_
    intro delivery member output success
    obtain ⟨request, -, rfl⟩ := List.mem_map.mp member
    cases success

theorem keeps_finish (place : Nat) (counter : Counter Loopback) :
    Keeps counter (counter.accept (Loopback.finish place counter.state)).2 := by
  apply keeps_accept
  · exact fun delivery member => List.mem_of_mem_eraseIdx member
  · intro delivery member output _
    rw [Loopback.finish, Option.mem_toList] at member
    exact List.mem_of_getElem? member

theorem keeps_wait (handle : Handle) (timeout : Nat) (counter : Counter Loopback) :
    Keeps counter (counter.wait handle timeout).2 where
  next_le := Nat.le_refl _
  due := by
    rintro number output - (ready | waiting)
    · exact .inl (Slots.ready_of_wait ready)
    · exact .inr waiting

theorem keeps_cancel (cancelled : Nat) (counter : Counter Loopback) :
    Keeps counter { counter with slots := counter.slots.cancel cancelled } where
  next_le := Nat.le_refl _
  due := by
    rintro number output - (ready | waiting)
    · exact .inl (Slots.ready_of_cancel ready)
    · exact .inr waiting

end Counter

namespace Loopback

variable {service : Loopback}

/-- A request that is put before a service adds at most one entry to the queue, under its own
slot, and what is delivered on the way is a failure. -/
structure Queues (service : Loopback) (slot : Nat) (outcome : Outcome)
    (reply : Reply Loopback Unit) : Prop where
  queue : ∀ delivery ∈ reply.state.queue, delivery ∈ service.queue ∨
    delivery.slot = slot ∧ ∀ output, delivery.outcome = .ok output → outcome = .ok output
  deliveries : ∀ delivery ∈ reply.deliveries, ∀ output, delivery.outcome ≠ .ok output

theorem queues_refuse (slot : Nat) (error : Error) (outcome : Outcome) :
    Queues service slot outcome (service.refuse slot error) where
  queue := fun _ member => .inl member
  deliveries := by
    intro delivery member output
    cases List.mem_singleton.mp member
    intro success
    cases success

theorem queues_keep (connection : UInt32) (slot : Nat) (outcome : Outcome) :
    Queues service slot outcome (service.keep connection slot outcome) := by
  unfold keep
  split
  · exact ⟨fun _ member => .inl member, fun _ member => absurd member List.not_mem_nil⟩
  · refine ⟨?_, fun _ member => absurd member List.not_mem_nil⟩
    intro delivery member
    rcases List.mem_append.mp member with old | new
    · exact .inl old
    · cases List.mem_singleton.mp new
      refine .inr ⟨rfl, fun output success => ?_⟩
      cases fault : service.behavior.fault with
      | none =>
          rw [fault] at success
          exact success
      | some reason =>
          rw [fault] at success
          cases success

/-- A request to run a program is queued with what comes of it. -/
theorem queues_submit (connection : UInt32) (raw : Bytes) (inputs outputs : List Surface)
    (slot : Nat) :
    ∃ outcome, Queues service slot outcome (submit connection raw inputs outputs slot service) := by
  unfold submit
  split
  · exact ⟨.error (.device .dropped), queues_refuse ..⟩
  · exact ⟨_, queues_keep ..⟩

/-- A request to compile a description is queued with what comes of the description. -/
theorem queues_compile (connection : UInt32) (raw : Bytes) (description : Surface) (slot : Nat) :
    ∃ requestId, Queues service slot (compileDescription requestId description)
      (compile connection raw description slot service) := by
  unfold compile
  split
  · exact ⟨0, queues_refuse ..⟩
  · exact ⟨_, queues_keep ..⟩

/-- After a request was put before the service, nothing new is due but what may come of it. -/
theorem Queues.due
    {counter : Counter Loopback}
    {slot number : Nat}
    {outcome : Outcome}
    {output : Output}
    {reply : Reply Loopback Unit}
    {request : UInt64}
    (queues : Queues counter.state slot outcome reply)
    (due : ((counter.allot request).2.accept reply).2.Due number output) :
    counter.Due number output ∨ number = slot ∧ outcome = .ok output := by
  rcases due with ready | waiting
  · rcases Slots.ready_of_deliverAll ready with before | member
    · exact .inl (.inl before)
    · exact absurd rfl (queues.deliveries _ member output)
  · rcases queues.queue _ waiting with old | ⟨same, success⟩
    · exact .inl (.inr old)
    · exact .inr ⟨same, success output rfl⟩

end Loopback

namespace Session

variable {session : Session} {counter : Counter Loopback} {output : Output}

open Counter Loopback

/-- A request that is put before the service leaves all outputs but its own where they are. -/
theorem keeps_place
    {ask : Bytes → Nat → Loopback → Reply Loopback Unit}
    (queues : ∀ raw slot, ∃ outcome,
      Queues counter.state slot outcome (ask raw slot counter.state))
    (session : Session)
    (request : Request) :
    Keeps counter (session.place request ask counter).counter := by
  rcases (asked_place request ask session counter).counter_cases with same | ⟨raw, run⟩
  · rw [same]
    exact .refl counter
  · obtain ⟨outcome, queues⟩ := queues raw counter.slots.next
    have given : (session.place request ask counter).counter.slots.next =
        counter.slots.next + 1 := by
      rw [run]
      exact Slots.next_deliverAll _ _
    refine ⟨by omega, fun number output outside due => ?_⟩
    rw [run] at due
    rcases queues.due due with old | ⟨same, -⟩
    · exact old
    · omega

theorem keeps_loadContainer (session : Session) (program : Container)
    (counter : Counter Loopback) :
    Keeps counter (session.loadContainer Loopback.service program counter).counter := by
  rcases (gated_loadContainer Loopback.service session program counter).counter_cases with
    same | ⟨_, -, run⟩
  · rw [same]
    exact .refl counter
  · rw [run, counter_load]
    exact keeps_load session.connection program counter

theorem keeps_loadFile (session : Session) (contents : Except Files.Failure Bytes)
    (counter : Counter Loopback) :
    Keeps counter (session.loadFile Loopback.service contents counter).counter := by
  rcases loadFile_cases Loopback.service session contents counter with
    ⟨error, run⟩ | ⟨program, run⟩
  · rw [run]
    exact .refl counter
  · rw [run]
    exact keeps_loadContainer session program counter

theorem keeps_submit (session : Session) (inputs : List Surface) (counter : Counter Loopback) :
    Keeps counter (session.submit Loopback.service inputs counter).counter := by
  rcases (gated_submit Loopback.service session inputs counter).counter_cases with
    same | ⟨_, -, run⟩
  · rw [same]
    exact .refl counter
  · rw [run]
    refine keeps_place (fun raw slot => ?_) _ _
    exact queues_submit ..

theorem keeps_submitCompile (session : Session) (description : Bytes)
    (counter : Counter Loopback) :
    Keeps counter (session.submitCompile Loopback.service description counter).counter := by
  rcases (gated_submitCompile Loopback.service session description counter).counter_cases with
    same | ⟨_, -, run⟩
  · rw [same]
    exact .refl counter
  · rw [run]
    refine keeps_place (fun raw slot => ?_) _ _
    obtain ⟨requestId, queues⟩ := queues_compile session.connection raw
      (session.numberedDescription description) slot
    exact ⟨_, queues⟩

/-- What is due for a request that was accepted is what comes of it. -/
theorem due_of_place
    {ask : Bytes → Nat → Loopback → Reply Loopback Unit}
    {request : Request}
    {handle : Handle}
    (possible : Outcome → Prop)
    (queues : ∀ raw slot, ∃ outcome, possible outcome ∧
      Queues counter.state slot outcome (ask raw slot counter.state))
    (fresh : ¬ counter.Due counter.slots.next output)
    (accepted : (session.place request ask counter).result = .ok handle)
    (due : (session.place request ask counter).counter.Due handle.slot output) :
    possible (.ok output) := by
  cases asked_place request ask session counter with
  | unwritten error failed run =>
      rw [run] at accepted
      cases accepted
  | refused raw error written answer run =>
      rw [run] at accepted
      cases accepted
  | accepted raw written answer run =>
      rw [run] at accepted due
      cases accepted
      obtain ⟨outcome, allowed, queues⟩ := queues raw counter.slots.next
      rcases queues.due due with old | ⟨-, success⟩
      · exact absurd old fresh
      · exact success ▸ allowed

/-- What is due for a compile request that was accepted came of its description. -/
theorem due_of_submitCompile
    {description : Bytes}
    {handle : Handle}
    (fresh : ¬ counter.Due counter.slots.next output)
    (accepted :
      (session.submitCompile Loopback.service description counter).result = .ok handle)
    (due : (session.submitCompile Loopback.service description counter).counter.Due
      handle.slot output) :
    ∃ requestId surface, surface.bytes = description ∧
      compileDescription requestId surface = .ok output := by
  obtain ⟨_, -, run⟩ :=
    (gated_submitCompile Loopback.service session description counter).exists_of_result accepted
  rw [run] at accepted due
  refine due_of_place (fun outcome => ∃ requestId surface,
    surface.bytes = description ∧ compileDescription requestId surface = outcome)
    (fun raw slot => ?_) fresh accepted due
  obtain ⟨requestId, queues⟩ := queues_compile session.connection raw
    (session.numberedDescription description) slot
  exact ⟨_, ⟨requestId, _, rfl, rfl⟩, queues⟩

theorem keeps_wait (session : Session) (handle : Handle) (timeout : Nat)
    (counter : Counter Loopback) :
    Keeps counter (session.wait handle timeout counter).counter := by
  unfold wait
  split
  · exact Counter.keeps_wait handle timeout counter
  · exact .refl counter

theorem keeps_close (session : Session) (counter : Counter Loopback) :
    Keeps counter (session.close Loopback.service counter).2 := by
  unfold close
  split
  · exact .refl counter
  · cases session.pending with
    | none => exact keeps_release session.connection counter
    | some handle =>
        exact (keeps_cancel handle.slot counter).trans (keeps_release session.connection _)

end Session

namespace Lobby

variable {lobby : Lobby Loopback} {place : Nat}

open Counter

theorem keeps_visit
    {Value : Type}
    {act : Session → Counter Loopback → Step Loopback Value}
    {given : Value → List Handle}
    (kept : ∀ session, Keeps lobby.counter (act session lobby.counter).counter) :
    Keeps lobby.counter (lobby.visit place act given).counter := by
  cases present : lobby.clients[place]? with
  | none =>
      rw [visit_of_absent present]
      exact .refl _
  | some client =>
      rw [visit_of_present present]
      exact kept client.session

theorem keeps_join (lobby : Lobby Loopback) (mode : Mode) (config : Config) :
    Keeps lobby.counter (lobby.join Loopback.service mode config).counter := by
  rw [counter_join]
  exact keeps_connect mode lobby.counter

theorem keeps_step (lobby : Lobby Loopback) (move : Move Nat) :
    Keeps lobby.counter (step Loopback.service Loopback.finish lobby move).counter := by
  cases move with
  | open_ mode config => exact keeps_join lobby mode config
  | load place program =>
      exact keeps_visit fun session => Session.keeps_loadContainer session program _
  | loadFile place contents =>
      exact keeps_visit fun session => Session.keeps_loadFile session contents _
  | submit place inputs => exact keeps_visit fun session => Session.keeps_submit session inputs _
  | compile place description =>
      exact keeps_visit fun session => Session.keeps_submitCompile session description _
  | wait place handle timeout =>
      rw [step]
      split
      · change Keeps (lobby.spend handle).counter _
        exact keeps_visit fun session => Session.keeps_wait session handle timeout _
      · exact .refl _
  | waitFor handle timeout =>
      rw [step]
      split
      · exact Counter.keeps_wait handle timeout lobby.counter
      · exact .refl _
  | close place => exact keeps_visit fun session => Session.keeps_close session _
  | turn turn => exact keeps_finish turn lobby.counter

/-- Whatever happens, outputs become due only for requests that are accepted meanwhile. -/
theorem keeps_run (lobby : Lobby Loopback) (moves : List (Move Nat)) :
    Keeps lobby.counter (run Loopback.service Loopback.finish lobby moves).counter := by
  induction moves generalizing lobby with
  | nil => exact .refl _
  | cons move moves inductionHypothesis =>
      exact (keeps_step lobby move).trans (inductionHypothesis _)

/-- Nothing is due for a slot that was not given out. -/
theorem not_due_of_run
    {behavior : Behavior}
    {moves : List (Move Nat)}
    {number : Nat}
    (unused : (run Loopback.service Loopback.finish (empty (.ofBehavior behavior))
      moves).counter.slots.next ≤ number)
    (output : Output) :
    ¬ (run Loopback.service Loopback.finish (empty (.ofBehavior behavior))
      moves).counter.Due number output := by
  intro due
  rcases (keeps_run _ moves).due number output (.inr unused) due with ready | waiting
  · cases ready
  · cases waiting

end Lobby
end Execution
end TileProgram
