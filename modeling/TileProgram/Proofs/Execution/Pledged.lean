import TileProgram.Proofs.Execution.Compiled
import TileProgram.Proofs.Execution.CounterMoves

/-!
# Answers that wait for their session

What the service answers to a request to run a program, and why the answer is
still there when the session that made the request comes for it.
-/

/-!
## What a run answers

A request to run a program gives back the inputs, and the inputs repeated into every
output that the program declares.  A service that neither stalls nor fails queues this
answer for every request that it accepts.
-/

namespace TileProgram
namespace Execution

/-!
## Repeated inputs
-/

namespace Loopback

/-- A byte of copies of a pattern is a byte of the pattern. -/
theorem getElem?_copies
    {pattern : Bytes}
    {count index : Nat}
    (inside : index < count * pattern.length) :
    (List.replicate count pattern).flatten[index]? = pattern[index % pattern.length]? := by
  induction count generalizing index with
  | zero => omega
  | succ count inductionHypothesis =>
      rw [Nat.succ_mul] at inside
      rw [List.replicate_succ, List.flatten_cons, List.getElem?_append]
      split
      · next first => rw [Nat.mod_eq_of_lt first]
      · next later =>
          rw [inductionHypothesis (by omega), ← Nat.mod_eq_sub_mod (Nat.le_of_not_lt later)]

theorem length_copies_gt
    {pattern : Bytes}
    (nonempty : 0 < pattern.length)
    (length : Nat) :
    length < (length / pattern.length + 1) * pattern.length := by
  rw [Nat.mul_comm]
  exact Nat.lt_mul_div_succ length nonempty

/-- Filling keeps the length. -/
theorem length_fill (pattern current : Bytes) : (fill pattern current).length = current.length := by
  unfold fill
  split
  · rfl
  · next present =>
      have nonempty : 0 < pattern.length :=
        List.length_pos_iff.mpr fun none => present (List.isEmpty_iff.mpr none)
      have enough := length_copies_gt nonempty current.length
      simp only [List.length_take, List.length_flatten, List.map_replicate, List.sum_replicate_nat]
      omega

/-- A byte of what was filled; an empty pattern leaves what there was. -/
theorem getElem?_fill
    {pattern current : Bytes}
    {index : Nat}
    (inside : index < current.length) :
    (fill pattern current)[index]? =
      if pattern = [] then current[index]? else pattern[index % pattern.length]? := by
  unfold fill
  by_cases none : pattern = []
  · rw [if_pos (List.isEmpty_iff.mpr none), if_pos none]
  · have enough := length_copies_gt (List.length_pos_iff.mpr none) current.length
    rw [if_neg (fun empty => none (List.isEmpty_iff.mp empty)), if_neg none]
    dsimp only
    rw [List.getElem?_take_of_lt inside, getElem?_copies (by omega)]

example : fill [1, 2, 3] (Bytes.zeros 8) = [1, 2, 3, 1, 2, 3, 1, 2] := by decide

end Loopback

/-- What a program makes of inputs: the inputs themselves, and one output for each that the
program declares, of the declared size, which holds the bytes of all inputs over and over, or
zeros where there are none. -/
structure Answers (container : Container) (handle : Handle) (inputs : List Surface)
    (output : Output) : Prop where
  request : output.requestId = handle.request
  unchanged : output.inputs.map Surface.bytes = inputs.map Surface.bytes
  sizes : output.outputs.map Surface.size =
    container.outputs.map fun relocation => relocation.size.toNat
  bytes : ∀ surface ∈ output.outputs, ∀ index < surface.size,
    surface.bytes[index]? =
      if Surface.concat inputs = [] then some 0
      else (Surface.concat inputs)[index % (Surface.concat inputs).length]?

namespace Session

variable {session : Session} {counter : Counter Loopback} {slots : Slots} {inputs : List Surface}
  {handle : Handle}

/-- What a session asks for when it runs a program on inputs. -/
def answer (session : Session) (program : SessionProgram) (inputs : List Surface) : Output :=
  Loopback.run session.nextRequest (session.numberedInputs inputs)
    (session.numberedOutputs program inputs)

theorem concat_numberedInputs (session : Session) (inputs : List Surface) :
    Surface.concat (session.numberedInputs inputs) = Surface.concat inputs := by
  rw [Surface.concat, Surface.concat, List.flatMap_def, List.flatMap_def, numberedInputs,
    Surface.map_bytes_numberFrom]

/-- The outputs are those that the program declares, filled with the inputs. -/
theorem outputs_answer (session : Session) (program : SessionProgram) (inputs : List Surface) :
    (session.answer program inputs).outputs.map Surface.bytes =
      program.outputSizes.map fun size =>
        Loopback.fill (Surface.concat inputs) (Bytes.zeros size.toNat) := by
  have cleared : (session.numberedOutputs program inputs).map Surface.bytes =
      program.outputSizes.map fun size => Bytes.zeros size.toNat := by
    rw [numberedOutputs, Surface.map_bytes_numberFrom, List.map_map]
    rfl
  have filled := congrArg (List.map (Loopback.fill (Surface.concat inputs))) cleared
  rw [List.map_map, List.map_map] at filled
  rw [answer, Loopback.run, concat_numberedInputs, List.map_map]
  exact filled

theorem answers_answer
    {container : Container}
    {program : SessionProgram}
    (sizes : program.outputSizes = sizesOf container.outputs)
    (slot : Nat) :
    Answers container ⟨slot, session.nextRequest⟩ inputs (session.answer program inputs) where
  request := rfl
  unchanged := Surface.map_bytes_numberFrom _ inputs
  sizes := by
    have lengths := congrArg (List.map List.length) (session.outputs_answer program inputs)
    rw [List.map_map, List.map_map, sizes, sizesOf, List.map_map] at lengths
    refine lengths.trans (List.map_congr_left fun relocation _ => ?_)
    exact (Loopback.length_fill _ _).trans List.length_replicate
  bytes := by
    intro surface present index inside
    have member := List.mem_map_of_mem (f := Surface.bytes) present
    rw [outputs_answer] at member
    obtain ⟨size, -, filled⟩ := List.mem_map.mp member
    rw [Surface.size, ← filled, Loopback.length_fill] at inside
    have short : index < size.toNat := by simpa [Bytes.zeros] using inside
    rw [← filled, Loopback.getElem?_fill inside, Bytes.zeros, List.getElem?_replicate, if_pos short]

/-!
## Requests that are accepted
-/

/-- What a request to run a program that was accepted makes of a session and its counter. -/
structure Submitted (session : Session) (inputs : List Surface) (counter : Counter Loopback)
    (handle : Handle) (program : SessionProgram) : Prop where
  held : session.program = some program
  mode : session.mode = .programExecution
  passed : checkInputs session.config program inputs = .ok ()
  fits : counter.state.checkMode session.connection .programExecution .submit = .ok ()
  owned : ⟨program.id, session.connection⟩ ∈ counter.state.programs
  handle_eq : handle = ⟨counter.slots.next, session.nextRequest⟩
  session_eq : (session.submit Loopback.service inputs counter).session =
    { (session.settle counter.slots).counted (inputs.length + program.outputSizes.length) with
      storedPhase := .pending
      pending := some handle }
  counter_eq : (session.submit Loopback.service inputs counter).counter =
    ⟨{ counter.state with
        queue := counter.state.queue ++
          [⟨counter.slots.next, .ok (session.answer program inputs)⟩] },
      (counter.slots.allot session.nextRequest).2⟩

/-- The checks that a session and the service make of a request that is accepted. -/
theorem checks_of_accepted
    (accepted : (session.submit Loopback.service inputs counter).result = .ok handle) :
    ∃ program raw, session.checkSubmit counter.slots inputs = .ok program ∧
      (session.runRequest program inputs).encode = .ok raw ∧
      counter.state.checkSubmit session.connection raw (session.numberedInputs inputs)
        (session.numberedOutputs program inputs) = .ok (session.runRequest program inputs) ∧
      handle = ⟨counter.slots.next, session.nextRequest⟩ := by
  rw [result_submit] at accepted
  simp only [Outcome.seq_eq_ok, Outcome.map_eq_ok] at accepted
  obtain ⟨program, checked, raw, written, _, answered, rfl⟩ := accepted
  obtain ⟨-, -, -, passed⟩ := ready_of_checkSubmit checked
  obtain ⟨other, otherWritten, read⟩ := Request.decode_encode (surfaceCount_of_checkInputs passed)
  cases written.symm.trans otherWritten
  refine ⟨program, raw, checked, written, ?_, rfl⟩
  change (Loopback.submit session.connection raw _ _ _ counter.state).result = .ok _ at answered
  rw [Loopback.submit] at answered
  cases accepts : counter.state.checkSubmit session.connection raw (session.numberedInputs inputs)
      (session.numberedOutputs program inputs) with
  | error error =>
      rw [accepts] at answered
      cases answered
  | ok request =>
      have decoded := (Loopback.checkSubmit_eq_ok_iff.mp accepts).2.1
      rw [read] at decoded
      rw [Except.ok.inj decoded]

/-- A service that neither stalls nor fails queues the answer of every request that is accepted. -/
theorem submitted_of_accepted
    (running : counter.state.behavior.isStalled = false)
    (faultless : counter.state.behavior.fault = none)
    (accepted : (session.submit Loopback.service inputs counter).result = .ok handle) :
    ∃ program, Submitted session inputs counter handle program := by
  obtain ⟨program, raw, checked, written, accepts, rfl⟩ := checks_of_accepted accepted
  obtain ⟨mode, -, held, passed⟩ := ready_of_checkSubmit checked
  obtain ⟨fits, -, -, owned, -, -⟩ := Loopback.checkSubmit_eq_ok_iff.mp accepts
  have answer : Loopback.service.submit session.connection raw (session.numberedInputs inputs)
      (session.numberedOutputs program inputs) counter.slots.next counter.state =
        Loopback.reply { counter.state with
          queue := counter.state.queue ++
            [⟨counter.slots.next, .ok (session.answer program inputs)⟩] } (.ok ()) := by
    show Loopback.submit session.connection raw _ _ _ counter.state = _
    rw [Loopback.submit, accepts]
    dsimp only
    rw [Loopback.keep, running, faultless]
    rfl
  have run : session.submit Loopback.service inputs counter = _ :=
    ((gated_submit ..).eq_of_ok checked).trans
      (place_of_ok written (congrArg Reply.result answer))
  refine ⟨program, held, mode, passed, fits, owned, rfl, ?_, ?_⟩
  · rw [run]
    rfl
  · rw [run, answer]
    rfl

/-- The sizes of the program that a session holds are those that its program declares. -/
theorem program_of_loaded
    {State : Type}
    {service : Service State}
    {desk : Counter State}
    {container : Container}
    (loaded : (session.loadContainer service container desk).result = .ok ()) :
    ∃ id, (session.loadContainer service container desk).session.program =
      some ⟨id, sizesOf container.inputs, sizesOf container.outputs⟩ := by
  obtain ⟨_, -, run⟩ := (gated_loadContainer service session container desk).exists_of_result loaded
  rw [run] at loaded ⊢
  cases answer :
      (service.load (session.settle desk.slots).connection container desk.state).result with
  | error error =>
      rw [load_of_error answer] at loaded
      cases loaded
  | ok id =>
      rw [load_of_ok answer]
      exact ⟨id, rfl⟩

end Session
end Execution
end TileProgram

/-!
## Requests that others leave alone

A session waits for its request as long as nobody takes the outcome and the session
is not closed, and it refuses everything else.  So the outcome stays where it is:
in the queue, and in the slot when the service has finished the request.
-/

namespace TileProgram
namespace Execution

namespace Session

variable {session next last : Session} {counter : Counter Loopback} {slots : Slots}
  {inputs : List Surface} {handle : Handle} {placed : List Handle}

/-- A session still waits for a request, and otherwise it is what it was. -/
structure Awaits (handle : Handle) (session next : Session) : Prop where
  stored : next.storedPhase = .pending
  pending : next.pending = some handle
  program : next.program = session.program
  mode : next.mode = session.mode
  config : next.config = session.config
  connection : next.connection = session.connection

/-- As long as the request is not settled, a session that goes on still waits for it. -/
theorem Awaits.progress
    (awaits : Awaits handle session next)
    (waits : next.phase slots = .pending)
    (progress : Progress slots next last placed) :
    Awaits handle session last := by
  cases progress with
  | kept => exact awaits
  | settled => rwa [settle_of_pending waits]
  | loaded program mode ready =>
      rw [waits] at ready
      exact absurd ready (by decide)
  | counted surfaces =>
      rw [settle_of_pending waits]
      exact ⟨awaits.stored, awaits.pending, awaits.program, awaits.mode, awaits.config,
        awaits.connection⟩
  | placed surfaces ready =>
      rw [waits] at ready
      obtain ⟨-, ready, -⟩ | ⟨-, ready⟩ := ready
      · exact absurd ready (by decide)
      · exact absurd ready (by decide)

/-- A request that was accepted is waited for. -/
theorem Submitted.awaits
    {program : SessionProgram}
    (submitted : Submitted session inputs counter handle program) :
    Awaits handle session (session.submit Loopback.service inputs counter).session := by
  rw [submitted.session_eq]
  exact ⟨rfl, rfl, rfl, rfl, rfl, rfl⟩

/-- The slot of a request that was accepted waits for the answer, which is in the queue. -/
theorem Submitted.pledges
    {behavior : Behavior}
    {program : SessionProgram}
    (submitted : Submitted session inputs counter handle program)
    (orderly : counter.Orderly behavior) :
    (session.submit Loopback.service inputs counter).counter.Pledges handle.slot
      (.ok (session.answer program inputs)) := by
  rw [submitted.counter_eq, submitted.handle_eq]
  refine ⟨Nat.lt_succ_self _, ?_, .inr ⟨orderly.unused _ (Nat.le_refl _), ?_⟩⟩
  · intro delivery member own
    rcases List.mem_append.mp member with old | new
    · exact absurd own (Nat.ne_of_lt (orderly.queued delivery old))
    · rw [List.mem_singleton.mp new]
  · exact List.mem_append_right _ (List.mem_singleton.mpr rfl)

end Session

/-- Whether a move neither takes the outcome of a request nor closes the session that made it. -/
def Move.Spares {Turn : Type} (place : Nat) (handle : Handle) : Move Turn → Prop
  | .wait _ other _ => other ≠ handle
  | .waitFor other _ => other ≠ handle
  | .close other => other ≠ place
  | _ => True

namespace Lobby

variable {State Turn : Type} {desk next : Lobby State} {service : Service State}
  {turns : Turn → State → Reply State Unit} {lobby : Lobby Loopback} {behavior : Behavior}
  {place : Nat} {handle : Handle} {session : Session} {client : Client} {outcome : Outcome}

/-- A slot that is not settled was not settled before. -/
theorem isOutstanding_of_later
    {before after : Slots}
    (outstanding : handle.IsOutstanding after)
    (later : Slots.Later before after) :
    handle.IsOutstanding before := by
  by_contra settled
  have kept := later.final _ (Slot.isFinal_iff.mpr settled)
  rw [Handle.IsOutstanding, kept] at outstanding
  exact settled outstanding

/-- A session waits for its request as long as this is not settled, whatever changes. -/
theorem awaits_change
    (change : Change desk next)
    (present : desk.clients[place]? = some client)
    (awaits : Session.Awaits handle session client.session)
    (outstanding : handle.IsOutstanding next.counter.slots) :
    ∃ after, next.clients[place]? = some after ∧
      Session.Awaits handle session after.session := by
  obtain ⟨after, found, affects⟩ := change.exists_after present
  refine ⟨after, found, ?_⟩
  cases affects with
  | kept same => exact same ▸ awaits
  | acted acting placed seen early late progress same =>
      have waits : client.session.phase seen = .pending := by
        rw [Session.phase_of_pending awaits.stored awaits.pending]
        exact Session.phaseOfStatus_eq_pending.mpr (isOutstanding_of_later outstanding late)
      rw [same]
      exact awaits.progress waits progress
  | closed later same =>
      -- A session that is closed gives up its request.
      have settled := isOutstanding_of_later outstanding later
      rw [Handle.IsOutstanding, Session.cancelPending, awaits.pending, Slots.get_cancel,
        if_pos rfl] at settled
      exact absurd settled (Slot.isFinal_iff.mp Slot.isFinal_cancel)

theorem mem_handles_visit
    {Value : Type}
    {given : Value → List Handle}
    (member : handle ∈ desk.handles)
    (act : Session → Counter State → Step State Value) :
    handle ∈ (desk.visit place act given).handles := by
  unfold visit
  split
  · exact member
  · exact List.mem_append_right _ member

/-- A handle that is not waited for is kept. -/
theorem mem_handles_step
    {move : Move Turn}
    (member : handle ∈ desk.handles)
    (spares : move.Spares place handle) :
    handle ∈ (step service turns desk move).handles := by
  have kept (other : Handle) (different : other ≠ handle) :
      handle ∈ (desk.spend other).handles :=
    (List.mem_erase_of_ne different.symm).mpr member
  cases move with
  | open_ mode config =>
      unfold step join
      dsimp only
      split <;> exact member
  | wait other twin timeout =>
      rw [step]
      split
      · exact mem_handles_visit (kept twin spares) _
      · exact member
  | waitFor twin timeout =>
      rw [step]
      split
      · exact kept twin spares
      · exact member
  | turn turn => exact member
  | _ => exact mem_handles_visit member _

/-- A request of a session stands open: its handle has not been used, the session waits for it,
and its outcome is there or on its way. -/
structure Pledged (place : Nat) (session : Session) (handle : Handle) (outcome : Outcome)
    (lobby : Lobby Loopback) : Prop where
  waits : ∃ client, lobby.clients[place]? = some client ∧
    Session.Awaits handle session client.session
  unspent : handle ∈ lobby.handles
  pledges : lobby.counter.Pledges handle.slot outcome

namespace Pledged

theorem accepted
    (pledged : lobby.Pledged place session handle outcome)
    (sound : lobby.Sound) :
    lobby.Accepted place handle := by
  obtain ⟨client, present, awaits⟩ := pledged.waits
  exact sound.accepted_of_pending present awaits.pending

/-- A move that spares a request does not touch its slot. -/
theorem ne_of_touches
    {move : Move Turn}
    {number : Nat}
    (pledged : lobby.Pledged place session handle outcome)
    (sound : lobby.Sound)
    (spares : move.Spares place handle)
    (touches : lobby.Touches move number) :
    number ≠ handle.slot := by
  have own := pledged.accepted sound
  cases move with
  | wait other twin timeout =>
      obtain ⟨given, rfl⟩ := touches
      obtain ⟨owner, accepted⟩ := sound.given twin given
      exact fun same => spares (sound.apart owner twin place handle accepted own same).2
  | waitFor twin timeout =>
      obtain ⟨given, rfl⟩ := touches
      obtain ⟨owner, accepted⟩ := sound.given twin given
      exact fun same => spares (sound.apart owner twin place handle accepted own same).2
  | close other =>
      obtain ⟨client, twin, present, pending, rfl⟩ := touches
      have accepted := sound.accepted_of_pending present pending
      exact fun same => spares (sound.apart other twin place handle accepted own same).1
  | _ => exact touches.elim

theorem step
    {move : Move Nat}
    (pledged : lobby.Pledged place session handle outcome)
    (sound : lobby.Sound)
    (flows : lobby.counter.state.Flows)
    (spares : move.Spares place handle) :
    Pledged place session handle outcome
      (Lobby.step Loopback.service Loopback.finish lobby move) := by
  have pledges := pledged.pledges.becomes
    (fun _ touches => pledged.ne_of_touches sound spares touches) (becomes_step flows move)
  obtain ⟨client, present, awaits⟩ := pledged.waits
  exact ⟨awaits_change (change_step sound move) present awaits pledges.status_eq,
    mem_handles_step pledged.unspent spares, pledges⟩

theorem run
    {moves : List (Move Nat)}
    (pledged : lobby.Pledged place session handle outcome)
    (sound : lobby.Sound)
    (orderly : lobby.counter.Orderly behavior)
    (running : behavior.isStalled = false)
    (spared : ∀ move ∈ moves, move.Spares place handle) :
    Pledged place session handle outcome
      (Lobby.run Loopback.service Loopback.finish lobby moves) := by
  induction moves generalizing lobby with
  | nil => exact pledged
  | cons move moves inductionHypothesis =>
      obtain ⟨spares, others⟩ := List.forall_mem_cons.mp spared
      exact inductionHypothesis (pledged.step sound (orderly.flows running) spares)
        (sound.step move) (sound.orderly_step orderly running move) others

end Pledged

/-- A request that was accepted stands open. -/
theorem pledged_of_submitted
    {inputs : List Surface}
    {program : SessionProgram}
    (present : lobby.clients[place]? = some client)
    (submitted : Session.Submitted client.session inputs lobby.counter handle program)
    (accepted : (client.session.submit Loopback.service inputs lobby.counter).result = .ok handle)
    (orderly : lobby.counter.Orderly behavior) :
    Pledged place client.session handle (.ok (client.session.answer program inputs))
      (step Loopback.service Loopback.finish lobby (.submit place inputs)) := by
  rw [step, visit_of_present present, accepted]
  refine ⟨⟨⟨_, [handle] ++ client.accepted⟩, ?_, submitted.awaits⟩, ?_,
    submitted.pledges orderly⟩
  · exact (getElem?_set_of_present present _ place).trans (if_pos rfl)
  · exact List.mem_append_left _ (List.mem_singleton.mpr rfl)

end Lobby
end Execution
end TileProgram
