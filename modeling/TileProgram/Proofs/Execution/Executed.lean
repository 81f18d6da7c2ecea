import TileProgram.Proofs.Execution.Pledged

/-!
# Loaded programs are run

A service that neither stalls nor fails runs a loaded program on everything that a
session submits.  Whatever clients do meanwhile, the answer waits for the session,
which can run its program again when it has taken it.
-/

namespace TileProgram
namespace Execution

namespace Session

variable {session next : Session} {counter : Counter Loopback} {handle : Handle}
  {outcome : Outcome}

/-- A session that waits for a request lets a wait for it through. -/
theorem Awaits.wait_eq
    (awaits : Awaits handle session next)
    (timeout : Nat) :
    next.wait handle timeout counter =
      ⟨(counter.wait handle timeout).1, next.settle (counter.wait handle timeout).2.slots,
        (counter.wait handle timeout).2⟩ := by
  refine wait_of_match awaits.stored ?_
  rw [awaits.pending]
  rfl

/-- An outcome that is there is what a wait gives. -/
theorem fst_wait_of_ready
    (ready : counter.slots.get handle.slot = .ready outcome)
    (timeout : Nat) :
    (counter.wait handle timeout).1 = outcome := by
  show ((counter.slots.get handle.slot).wait handle.request timeout).1 = outcome
  rw [ready]
  rfl

/-- A session that has taken an outcome is in the phase that follows it. -/
theorem Awaits.phase_eq
    (awaits : Awaits handle session next)
    (ready : counter.slots.get handle.slot = .ready outcome)
    (timeout : Nat) :
    next.phase (counter.wait handle timeout).2.slots =
      if Slot.succeeds outcome then .completed else .failed := by
  have taken : (counter.wait handle timeout).2.slots.get handle.slot =
      .taken (Slot.succeeds outcome) := by
    refine (Slots.get_wait ..).trans ((if_pos rfl).trans ?_)
    rw [ready]
    rfl
  rw [phase_of_pending awaits.stored awaits.pending, taken]
  cases Slot.succeeds outcome <;> rfl

/-- Inputs of the same sizes pass the same checks. -/
theorem checkInputs_of_sizes
    {config : Config}
    {program : SessionProgram}
    {inputs again : List Surface}
    (passed : checkInputs config program inputs = .ok ())
    (sizes : again.map Surface.size = inputs.map Surface.size) :
    checkInputs config program again = .ok () := by
  rw [checkInputs_eq_ok_iff] at passed ⊢
  refine ⟨?_, passed.2⟩
  have same := congrArg (List.map UInt64.ofNat) sizes
  rw [List.map_map, List.map_map] at same
  exact same.trans passed.1

end Session

/-- A wait that gives the answer of a request and leaves its session with the same program. -/
structure Step.Executed (container : Container) (inputs : List Surface) (handle : Handle)
    (held : Option SessionProgram) (step : Step Loopback Output) : Prop where
  answers : ∃ output, step.result = .ok output ∧ Answers container handle inputs output
  completed : step.session.phase step.counter.slots = .completed
  held : step.session.program = held

/-- After a wait the session can run its program again, on inputs of the same sizes. -/
def Step.Repeatable (inputs : List Surface) (step : Step Loopback Output) : Prop :=
  ∀ again : List Surface, again.map Surface.size = inputs.map Surface.size →
    ∃ handle, (step.session.submit Loopback.service again step.counter).result = .ok handle

namespace Loopback

variable {service after : Loopback} {connection program : UInt32}

/-- The service has a connection that may run programs, and a program of it. -/
structure Serves (connection program : UInt32) (service : Loopback) : Prop where
  fits : service.checkMode connection .programExecution .submit = .ok ()
  owned : ⟨program, connection⟩ ∈ service.programs

/-- As long as no number is given out and no connection closed, the tables stay as they are. -/
theorem Serves.grows
    (serves : service.Serves connection program)
    (grows : Grows service 0 after) :
    after.Serves connection program := by
  cases grows with
  | queued queue => exact ⟨serves.fits, serves.owned⟩
  | parked id slot isOpen => exact ⟨serves.fits, serves.owned⟩

end Loopback

/-- A session that has taken an answer can run its program again if the service still has it. -/
theorem Step.Executed.repeatable
    {container : Container}
    {inputs : List Surface}
    {handle : Handle}
    {program : SessionProgram}
    {session next : Session}
    {counter : Counter Loopback}
    {timeout : Nat}
    (executed : Step.Executed container inputs handle (some program)
      (next.wait handle timeout counter))
    (awaits : Session.Awaits handle session next)
    (mode : session.mode = .programExecution)
    (passed : Session.checkInputs session.config program inputs = .ok ())
    (serves : counter.state.Serves session.connection program.id) :
    Step.Repeatable inputs (next.wait handle timeout counter) := by
  intro again sizes
  rw [awaits.wait_eq] at executed ⊢
  refine (Session.exists_submit_iff ?_ ?_ executed.held ?_ ?_).mpr ?_
  · exact awaits.mode.trans mode
  · rw [executed.completed]
    decide
  · rw [Session.connection_settle, awaits.connection]
    exact serves.fits
  · rw [Session.connection_settle, awaits.connection]
    exact serves.owned
  · rw [Session.config_settle, awaits.config]
    exact Session.checkInputs_of_sizes passed sizes

namespace Lobby

variable {lobby : Lobby Loopback} {behavior : Behavior} {place : Nat} {handle : Handle}
  {session : Session} {client : Client} {connection program : UInt32}

theorem serves_visit
    {Value : Type}
    {act : Session → Counter Loopback → Step Loopback Value}
    {given : Value → List Handle}
    (serves : lobby.counter.state.Serves connection program)
    (deals : ∀ session, Session.Deals 0 session lobby.counter.state
      (act session lobby.counter).session (act session lobby.counter).counter.state) :
    (lobby.visit place act given).counter.state.Serves connection program := by
  cases present : lobby.clients[place]? with
  | none => rwa [visit_of_absent present]
  | some client =>
      rw [visit_of_present present]
      obtain ⟨issues, le, grows⟩ := (deals client.session).grows
      cases Nat.le_zero.mp le
      exact serves.grows grows

theorem serves_step
    {move : Move Nat}
    (serves : lobby.counter.state.Serves connection program)
    (unnumbered : move.isNumbered = false)
    (open_ : ∀ place, move ≠ .close place) :
    (step Loopback.service Loopback.finish lobby move).counter.state.Serves
      connection program := by
  cases move with
  | submit place inputs =>
      exact serves_visit serves fun session => Session.deals_submit session inputs _
  | compile place description =>
      exact serves_visit serves fun session => Session.deals_submitCompile session description _
  | wait place handle timeout =>
      rw [step]
      split
      · have same : (lobby.spend handle).counter.state.Serves connection program := serves
        exact serves_visit same fun session => Session.deals_wait session handle timeout _
      · exact serves
  | waitFor handle timeout =>
      rw [step]
      split <;> exact serves
  | close place => exact absurd rfl (open_ place)
  | turn turn => exact serves.grows (Loopback.grows_finish turn _)
  | _ => cases unnumbered

theorem serves_run
    {moves : List (Move Nat)}
    (serves : lobby.counter.state.Serves connection program)
    (quiet : ∀ move ∈ moves, move.isNumbered = false ∧ ∀ place, move ≠ .close place) :
    (run Loopback.service Loopback.finish lobby moves).counter.state.Serves
      connection program := by
  induction moves generalizing lobby with
  | nil => exact serves
  | cons move moves inductionHypothesis =>
      obtain ⟨⟨unnumbered, open_⟩, others⟩ := List.forall_mem_cons.mp quiet
      exact inductionHypothesis (serves_step serves unnumbered open_) others

/-- The service may be expected to have a program still: fewer numbers have been given out than
there are, or none has since, and no connection was closed since. -/
def Undisturbed {Turn : Type} (before later : List (Move Turn)) : Prop :=
  (before ++ later).countP Move.isNumbered < UInt32.size ∨
    ∀ move ∈ later, move.isNumbered = false ∧ ∀ place, move ≠ .close place

/-- Nothing is queued for a request any longer. -/
def Finished (handle : Handle) (lobby : Lobby Loopback) : Prop :=
  ∀ delivery ∈ lobby.counter.state.queue, delivery.slot ≠ handle.slot

/-- Turns at the front of the queue finish one request after another. -/
theorem queue_turns (lobby : Lobby Loopback) (count : Nat) :
    (run Loopback.service Loopback.finish lobby
      (List.replicate count (.turn 0))).counter.state.queue =
        lobby.counter.state.queue.drop count := by
  induction count generalizing lobby with
  | zero => rfl
  | succ count inductionHypothesis =>
      rw [List.replicate_succ, run, List.foldl_cons]
      refine (inductionHypothesis _).trans ?_
      show (lobby.counter.state.queue.eraseIdx 0).drop count = _
      rw [List.eraseIdx_zero, List.drop_tail]

/-- The service can finish everything that is queued. -/
theorem exists_turns (lobby : Lobby Loopback) (handle : Handle) :
    ∃ turns : List Nat, Finished handle
      (run Loopback.service Loopback.finish lobby (turns.map .turn)) := by
  refine ⟨List.replicate lobby.counter.state.queue.length 0, ?_⟩
  rw [List.map_replicate, Finished, queue_turns, List.drop_length]
  exact List.forall_mem_nil _

/-- When a request is finished, the wait for it gives its answer. -/
theorem Pledged.executed
    {container : Container}
    {inputs : List Surface}
    {output : Output}
    (pledged : lobby.Pledged place session handle (.ok output))
    (finished : Finished handle lobby)
    (answers : Answers container handle inputs output) :
    ∃ waiting, lobby.clients[place]? = some waiting ∧
      Session.Awaits handle session waiting.session ∧
      ∀ timeout, Step.Executed container inputs handle session.program
        (waiting.session.wait handle timeout lobby.counter) := by
  obtain ⟨waiting, present, awaits⟩ := pledged.waits
  have ready := pledged.pledges.ready finished
  refine ⟨waiting, present, awaits, fun timeout => ?_⟩
  rw [awaits.wait_eq, Session.fst_wait_of_ready ready]
  refine ⟨⟨output, rfl, answers⟩, ?_, awaits.program⟩
  rw [Session.phase_settle, awaits.phase_eq ready]
  rfl

/-- Where moves lead at a new service. -/
abbrev reached (behavior : Behavior) (moves : List (Move Nat)) : Lobby Loopback :=
  run Loopback.service Loopback.finish (empty (.ofBehavior behavior)) moves

theorem orderly_reached (running : behavior.isStalled = false) (moves : List (Move Nat)) :
    (reached behavior moves).counter.Orderly behavior :=
  (sound_empty _).orderly_run (Counter.orderly_fresh behavior) running moves

/-- The service still has what a session ran if nothing was disturbed. -/
theorem serves_of_undisturbed
    {before later : List (Move Nat)}
    {inputs : List Surface}
    {program : SessionProgram}
    {waiting : Client}
    (submitted : client.session.Submitted inputs (reached behavior before).counter handle program)
    (undisturbed : Undisturbed before later)
    (present : (reached behavior (before ++ .submit place inputs :: later)).clients[place]? =
      some waiting)
    (awaits : Session.Awaits handle client.session waiting.session) :
    (reached behavior (before ++ .submit place inputs :: later)).counter.state.Serves
      client.session.connection program.id := by
  obtain few | quiet := undisturbed
  · have room : 0 + (before ++ .submit place inputs :: later).countP Move.isNumbered <
        UInt32.size := by
      rwa [Nat.zero_add, List.countP_append, List.countP_cons_of_neg (by simp [Move.isNumbered]),
        ← List.countP_append]
    have registered := (registered_empty behavior).run (sound_empty _) room
    have known := registered.known place waiting present
    have fits := known.checkMode registered.tidy (by simp [awaits.stored]) .submit
    rw [awaits.mode, submitted.mode, awaits.connection] at fits
    refine ⟨fits, ?_⟩
    rw [← awaits.connection]
    exact known.program program (awaits.program.trans submitted.held)
  · rw [reached, run_split]
    exact serves_run (serves_step ⟨submitted.fits, submitted.owned⟩ rfl nofun) quiet

/-- A service that neither stalls nor fails runs a loaded program on all inputs that a session
submits.  Whatever others do meanwhile, it can finish the request; and when it has, the session
gets the answer however long it waits.  Then it can run its program again, since the service
still has it. -/
theorem loaded_program_executed
    {container : Container}
    {loader : Session}
    {past : Counter Loopback}
    {before later : List (Move Nat)}
    {inputs : List Surface}
    (running : behavior.isStalled = false)
    (faultless : behavior.fault = none)
    (loaded : (loader.loadContainer Loopback.service container past).result = .ok ())
    (present : (reached behavior before).clients[place]? = some client)
    (held : client.session.program =
      (loader.loadContainer Loopback.service container past).session.program)
    (accepted : (client.session.submit Loopback.service inputs
      (reached behavior before).counter).result = .ok handle)
    (spared : ∀ move ∈ later, move.Spares place handle) :
    (∃ turns : List Nat, Finished handle
      (reached behavior (before ++ .submit place inputs :: (later ++ turns.map .turn)))) ∧
      (Finished handle (reached behavior (before ++ .submit place inputs :: later)) →
        handle ∈ (reached behavior (before ++ .submit place inputs :: later)).handles ∧
          ∃ waiting,
            (reached behavior (before ++ .submit place inputs :: later)).clients[place]? =
                some waiting ∧
              ∀ timeout,
                Step.Executed container inputs handle client.session.program
                    (waiting.session.wait handle timeout
                      (reached behavior (before ++ .submit place inputs :: later)).counter) ∧
                  (Undisturbed before later →
                    Step.Repeatable inputs (waiting.session.wait handle timeout
                      (reached behavior
                        (before ++ .submit place inputs :: later)).counter))) := by
  have sound : (reached behavior before).Sound := (sound_empty _).run before
  have orderly := orderly_reached running before
  obtain ⟨program, submitted⟩ := Session.submitted_of_accepted
    ((congrArg Behavior.isStalled orderly.behavior).trans running)
    ((congrArg Behavior.fault orderly.behavior).trans faultless) accepted
  have pledged := (pledged_of_submitted present submitted accepted orderly).run (sound.step _)
    (sound.orderly_step orderly running _) running spared
  rw [← run_split] at pledged
  have answers : Answers container handle inputs (client.session.answer program inputs) := by
    obtain ⟨id, declared⟩ := Session.program_of_loaded loaded
    have same := Option.some.inj (submitted.held.symm.trans (held.trans declared))
    rw [submitted.handle_eq]
    exact Session.answers_answer (congrArg SessionProgram.outputSizes same) _
  constructor
  · obtain ⟨turns, finished⟩ :=
      exists_turns (reached behavior (before ++ .submit place inputs :: later)) handle
    refine ⟨turns, ?_⟩
    rwa [← List.cons_append, ← List.append_assoc, reached, run, List.foldl_append]
  · intro finished
    obtain ⟨waiting, found, awaits, executed⟩ := pledged.executed finished answers
    refine ⟨pledged.unspent, waiting, found, fun timeout => ⟨executed timeout, ?_⟩⟩
    intro undisturbed
    exact (submitted.held ▸ executed timeout).repeatable awaits submitted.mode submitted.passed
      (serves_of_undisturbed submitted undisturbed found awaits)

/-- A program without records that takes three bytes and gives eight. -/
def spreading : Container :=
  ⟨Container.formatVersion, 0, [.ofSurface "input0" 0 3, .ofSurface "output0" 3 8], [], []⟩

/-- The first session that is opened, when it has loaded the program. -/
def spreader : Session :=
  (newcomer .programExecution).session.withProgram .empty 2 spreading

theorem load_spreading :
    (newcomer .programExecution).session.loadContainer Loopback.service spreading
        (opened .programExecution).counter =
      ⟨.ok (), spreader, Session.loadedCounter (opened .programExecution).counter 1⟩ :=
  Session.loadContainer_of_served rfl (by decide) rfl rfl

/-- A session is opened and loads the program. -/
def loadingMoves : List (Move Nat) :=
  [.open_ .programExecution .standard, .load 0 spreading]

theorem loaded_clients : (reached .sound loadingMoves).clients[0]? = some ⟨spreader, []⟩ := by
  show (step Loopback.service Loopback.finish (opened .programExecution)
    (.load 0 spreading)).clients[0]? = _
  rw [step, visit_of_present (opened_clients .programExecution), load_spreading]
  rfl

theorem submit_spreading :
    (spreader.submit Loopback.service [⟨0, [1, 2, 3]⟩]
      (reached .sound loadingMoves).counter).result = .ok ⟨0, 1⟩ := by
  have accepted : (spreader.submit Loopback.service [⟨0, [1, 2, 3]⟩]
      (reached .sound loadingMoves).counter).result.toOption = some ⟨0, 1⟩ := by
    decide +kernel
  cases answer : (spreader.submit Loopback.service [⟨0, [1, 2, 3]⟩]
      (reached .sound loadingMoves).counter).result with
  | error error =>
      rw [answer] at accepted
      cases accepted
  | ok handle =>
      rw [answer] at accepted
      exact congrArg Except.ok (Option.some.inj accepted)

theorem spreading_finished :
    Finished ⟨0, 1⟩ (reached .sound (loadingMoves ++ .submit 0 [⟨0, [1, 2, 3]⟩] :: [.turn 0])) := by
  have nothing : (reached .sound (loadingMoves ++ .submit 0 [⟨0, [1, 2, 3]⟩] ::
      [.turn 0])).counter.state.queue.isEmpty = true := by
    decide +kernel
  rw [Finished, List.isEmpty_iff.mp nothing]
  exact List.forall_mem_nil _

/-- Three bytes are spread over eight after one turn of the service. -/
theorem spreading_executed :
    ∃ waiting,
      (reached .sound (loadingMoves ++ .submit 0 [⟨0, [1, 2, 3]⟩] :: [.turn 0])).clients[0]? =
          some waiting ∧
        Step.Executed spreading [⟨0, [1, 2, 3]⟩] ⟨0, 1⟩ spreader.program
          (waiting.session.wait ⟨0, 1⟩ 5000 (reached .sound
            (loadingMoves ++ .submit 0 [⟨0, [1, 2, 3]⟩] :: [.turn 0])).counter) ∧
        Step.Repeatable [⟨0, [1, 2, 3]⟩]
          (waiting.session.wait ⟨0, 1⟩ 5000 (reached .sound
            (loadingMoves ++ .submit 0 [⟨0, [1, 2, 3]⟩] :: [.turn 0])).counter) := by
  have spared : ∀ move ∈ ([.turn 0] : List (Move Nat)), move.Spares 0 ⟨0, 1⟩ := by
    intro move member
    rw [List.mem_singleton.mp member]
    trivial
  have loaded := congrArg Step.result load_spreading
  have held := (congrArg (fun step => step.session.program) load_spreading).symm
  obtain ⟨-, answered⟩ := loaded_program_executed rfl rfl loaded loaded_clients held
    submit_spreading spared
  obtain ⟨-, waiting, found, executed⟩ := answered spreading_finished
  have undisturbed : Undisturbed loadingMoves [.turn 0] := .inl (by decide)
  exact ⟨waiting, found, (executed 5000).1, (executed 5000).2 undisturbed⟩

end Lobby
end Execution
end TileProgram
