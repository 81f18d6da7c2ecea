import TileProgram.Proofs.Endings
import TileProgram.Proofs.Execution.Admission
import TileProgram.Proofs.Execution.Dealings
import TileProgram.Proofs.Execution.Discipline
import TileProgram.Proofs.Execution.RequestRecord

/-!
# Sessions and the software service check alike

Every session has a connection of its own, which is in the table of the service
until the session is closed, and its program is there under this connection.
Whatever clients do, this stays so while numbers are not given out again.  So the
service accepts everything that a session has checked by itself, and the refusals
of the service are never seen by a session.
-/

namespace TileProgram
namespace Execution

namespace Loopback

theorem checkSurfacesFrom_ofSurface (side : Side) (index : Nat) (surfaces : List Surface) :
    checkSurfacesFrom side index (surfaces.map .ofSurface) surfaces = .ok () := by
  induction surfaces generalizing index with
  | nil => rfl
  | cons surface rest inductionHypothesis =>
      rw [List.map_cons, checkSurfacesFrom, if_neg, inductionHypothesis]
      simp [SurfaceReference.ofSurface]

/-- Surfaces match the references that are made to them. -/
theorem checkSurfaces_ofSurface (side : Side) (surfaces : List Surface) :
    checkSurfaces side (surfaces.map .ofSurface) surfaces = .ok () := by
  rw [checkSurfaces, if_neg (by simp), checkSurfacesFrom_ofSurface]

end Loopback

namespace Session

variable {session : Session} {counter : Counter Loopback}

/-- The service accepts what a session has checked, and an operation of the session has the
result of the session's own checks. -/
structure Agrees (counter : Counter Loopback) (session : Session) : Prop where
  load : ∀ program, session.checkLoad counter.slots program = .ok () →
    counter.state.checkMode session.connection .programExecution .load = .ok () ∧
    ∃ id, (Loopback.load session.connection program counter.state).result = .ok id
  submit : ∀ inputs program, session.checkSubmit counter.slots inputs = .ok program →
    counter.state.checkMode session.connection .programExecution .submit = .ok () ∧
    counter.state.owns session.connection program.id = true ∧
    Loopback.checkSurfaces .input (session.runRequest program inputs).inputs
      (session.numberedInputs inputs) = .ok () ∧
    Loopback.checkSurfaces .output (session.runRequest program inputs).outputs
      (session.numberedOutputs program inputs) = .ok () ∧
    ∃ raw, (session.runRequest program inputs).encode = .ok raw ∧
      Request.decode raw = .ok (session.runRequest program inputs) ∧
      ∀ slot, (Loopback.submit session.connection raw (session.numberedInputs inputs)
        (session.numberedOutputs program inputs) slot counter.state).result = .ok ()
  compile : ∀ description, session.checkCompile counter.slots = .ok () →
    counter.state.checkMode session.connection .compileOnly .compile = .ok () ∧
    Loopback.checkSurfaces .input (session.compileRequest description).inputs
      [session.numberedDescription description] = .ok () ∧
    ∃ raw, (session.compileRequest description).encode = .ok raw ∧
      Request.decode raw = .ok (session.compileRequest description) ∧
      ∀ slot, (Loopback.compile session.connection raw (session.numberedDescription description)
        slot counter.state).result = .ok ()
  loaded : ∀ program, (session.loadContainer Loopback.service program counter).result =
    session.checkLoad counter.slots program
  submitted : ∀ inputs, (session.submit Loopback.service inputs counter).result =
    (session.checkSubmit counter.slots inputs).map fun _ =>
      ⟨counter.slots.next, session.nextRequest⟩
  compiled : ∀ description, (session.submitCompile Loopback.service description counter).result =
    (session.checkCompile counter.slots).map fun _ => ⟨counter.slots.next, session.nextRequest⟩

/-- The connection of a session that is not closed passes the check for its mode. -/
theorem Known.checkMode
    (known : session.Known counter.state)
    (tidy : counter.state.Tidy)
    (opened : session.storedPhase ≠ .closed)
    (operation : Operation) :
    counter.state.checkMode session.connection session.mode operation = .ok () := by
  rw [tidy.checkMode_of_mem (known.connection opened), if_pos rfl]

theorem Known.load
    {program : Container}
    (known : session.Known counter.state)
    (tidy : counter.state.Tidy)
    (checked : session.checkLoad counter.slots program = .ok ()) :
    counter.state.checkMode session.connection .programExecution .load = .ok () ∧
      ∃ id, (Loopback.load session.connection program counter.state).result = .ok id := by
  obtain ⟨mode, ready⟩ := ready_of_checkLoad checked
  have passed := known.checkMode tidy (opened_of_mem ready (by decide)) .load
  rw [mode] at passed
  refine ⟨passed, counter.state.nextId, ?_⟩
  rw [Loopback.load, passed]
  rfl

/-- The service accepts a request to run a program of an open connection on inputs that the
session has checked. -/
theorem exists_request_of_owned
    {inputs : List Surface}
    {program : SessionProgram}
    (fits : counter.state.checkMode session.connection .programExecution .submit = .ok ())
    (owned : ⟨program.id, session.connection⟩ ∈ counter.state.programs)
    (passed : checkInputs session.config program inputs = .ok ()) :
    ∃ raw, (session.runRequest program inputs).encode = .ok raw ∧
      counter.state.checkSubmit session.connection raw (session.numberedInputs inputs)
        (session.numberedOutputs program inputs) = .ok (session.runRequest program inputs) := by
  obtain ⟨raw, written, read⟩ := Request.decode_encode (surfaceCount_of_checkInputs passed)
  refine ⟨raw, written, Loopback.checkSubmit_eq_ok_iff.mpr ⟨fits, read, rfl, owned, ?_, ?_⟩⟩
  · exact Loopback.checkSurfaces_ofSurface .input _
  · exact Loopback.checkSurfaces_ofSurface .output _

/-- The checks of the service for a request to run a program. -/
theorem Known.checkSubmit
    {inputs : List Surface}
    {program : SessionProgram}
    (known : session.Known counter.state)
    (tidy : counter.state.Tidy)
    (checked : session.checkSubmit counter.slots inputs = .ok program) :
    ∃ raw, (session.runRequest program inputs).encode = .ok raw ∧
      counter.state.checkSubmit session.connection raw (session.numberedInputs inputs)
        (session.numberedOutputs program inputs) = .ok (session.runRequest program inputs) := by
  obtain ⟨mode, ready, held, passed⟩ := ready_of_checkSubmit checked
  have fits := known.checkMode tidy (opened_of_mem ready (by decide)) .submit
  rw [mode] at fits
  exact exists_request_of_owned fits (known.program program held) passed

/-- The service accepts a request to compile a description through an open connection. -/
theorem exists_request_of_compiling
    (fits : counter.state.checkMode session.connection .compileOnly .compile = .ok ())
    (description : Bytes) :
    ∃ raw, (session.compileRequest description).encode = .ok raw ∧
      counter.state.checkCompile session.connection raw
        (session.numberedDescription description) = .ok (session.compileRequest description) := by
  have small : (session.compileRequest description).surfaceCount ≤ Request.greatestSurfaces :=
    show 1 ≤ Request.greatestSurfaces by decide
  obtain ⟨raw, written, read⟩ := Request.decode_encode small
  refine ⟨raw, written, Loopback.checkCompile_eq_ok_iff.mpr ⟨fits, read, rfl, ?_⟩⟩
  exact Loopback.checkSurfaces_ofSurface .input [session.numberedDescription description]

/-- The checks of the service for a request to compile a description. -/
theorem Known.checkCompile
    (known : session.Known counter.state)
    (tidy : counter.state.Tidy)
    (checked : session.checkCompile counter.slots = .ok ())
    (description : Bytes) :
    ∃ raw, (session.compileRequest description).encode = .ok raw ∧
      counter.state.checkCompile session.connection raw
        (session.numberedDescription description) = .ok (session.compileRequest description) := by
  obtain ⟨mode, ready⟩ := ready_of_checkCompile checked
  have fits := known.checkMode tidy (opened_of_mem ready (by decide)) .compile
  rw [mode] at fits
  exact exists_request_of_compiling fits description

/-- A session that the service knows agrees with it. -/
theorem Known.agrees
    (known : session.Known counter.state)
    (tidy : counter.state.Tidy) :
    session.Agrees counter where
  load := fun program => known.load tidy
  submit := by
    intro inputs program checked
    obtain ⟨raw, written, accepted⟩ := known.checkSubmit tidy checked
    obtain ⟨fits, read, -, owned, inputsFit, outputsFit⟩ :=
      Loopback.checkSubmit_eq_ok_iff.mp accepted
    exact ⟨fits, Loopback.owns_iff.mpr owned, inputsFit, outputsFit, raw, written, read,
      Loopback.result_submit accepted⟩
  compile := by
    intro description checked
    obtain ⟨raw, written, accepted⟩ := known.checkCompile tidy checked description
    obtain ⟨fits, read, -, inputsFit⟩ := Loopback.checkCompile_eq_ok_iff.mp accepted
    exact ⟨fits, inputsFit, raw, written, read, Loopback.result_compile accepted⟩
  loaded := by
    intro program
    rw [result_loadContainer]
    cases checked : session.checkLoad counter.slots program with
    | error error => rfl
    | ok =>
        obtain ⟨-, id, accepted⟩ := known.load tidy checked
        have answer : (Loopback.service.load session.connection program counter.state).result =
          .ok id := accepted
        rw [Outcome.ok_bind, answer]
        rfl
  submitted := by
    intro inputs
    rw [result_submit]
    cases checked : session.checkSubmit counter.slots inputs with
    | error error => rfl
    | ok program =>
        obtain ⟨raw, written, accepted⟩ := known.checkSubmit tidy checked
        have answer : (Loopback.service.submit session.connection raw
            (session.numberedInputs inputs) (session.numberedOutputs program inputs)
            counter.slots.next counter.state).result = .ok () :=
          Loopback.result_submit accepted _
        rw [Outcome.ok_bind, written, Outcome.ok_bind, answer]
        rfl
  compiled := by
    intro description
    rw [result_submitCompile]
    cases checked : session.checkCompile counter.slots with
    | error error => rfl
    | ok =>
        obtain ⟨raw, written, accepted⟩ := known.checkCompile tidy checked description
        have answer : (Loopback.service.compile session.connection raw
            (session.numberedDescription description) counter.slots.next counter.state).result =
              .ok () :=
          Loopback.result_compile accepted _
        rw [Outcome.ok_bind, written, Outcome.ok_bind, answer]

end Session

namespace Lobby

variable {State Turn : Type} {lobby next : Lobby Loopback} {count issues limit place : Nat}
  {client : Client}

/-- The sessions of all clients are known to the service, each by its own connection. -/
structure Registered (count : Nat) (lobby : Lobby Loopback) : Prop where
  tidy : lobby.counter.state.Tidy
  issued : lobby.counter.state.Issued count
  below : ∀ (place : Nat) (client : Client), lobby.clients[place]? = some client →
    client.session.connection ≤ lobby.counter.state.lastId
  apart : ∀ (place other : Nat) (client twin : Client), lobby.clients[place]? = some client →
    lobby.clients[other]? = some twin →
    client.session.connection = twin.session.connection → place = other
  known : ∀ (place : Nat) (client : Client), lobby.clients[place]? = some client →
    client.session.Known lobby.counter.state

theorem registered_empty (behavior : Behavior) :
    Registered 0 (empty (.ofBehavior behavior)) where
  tidy := Loopback.tidy_ofBehavior behavior
  issued := Loopback.issued_ofBehavior behavior
  below := by
    intro place client present
    cases present
  apart := by
    intro place other client twin present
    cases present
  known := by
    intro place client present
    cases present

namespace Registered

theorem mono
    {later : Nat}
    (registered : lobby.Registered count)
    (le : count ≤ later) :
    lobby.Registered later :=
  { registered with issued := registered.issued.mono le }

/-- Nobody joins, every session keeps its connection, and the service still knows it. -/
theorem of_sessions
    {later : Nat}
    (registered : lobby.Registered count)
    (tidy : next.counter.state.Tidy)
    (issued : next.counter.state.Issued later)
    (le : lobby.counter.state.lastId ≤ next.counter.state.lastId)
    (sessions : ∀ (place : Nat) (after : Client), next.clients[place]? = some after →
      ∃ client, lobby.clients[place]? = some client ∧
        after.session.connection = client.session.connection ∧
        after.session.Known next.counter.state) :
    next.Registered later where
  tidy := tidy
  issued := issued
  below := by
    intro place after found
    obtain ⟨client, present, same, -⟩ := sessions place after found
    rw [same]
    exact UInt32.le_trans (registered.below place client present) le
  apart := by
    intro place other after twin found found' same
    obtain ⟨client, present, connection, -⟩ := sessions place after found
    obtain ⟨client', present', connection', -⟩ := sessions other twin found'
    exact registered.apart place other client client' present present'
      (connection.symm.trans (same.trans connection'))
  known := by
    intro place after found
    obtain ⟨client, present, same, known⟩ := sessions place after found
    exact known

/-- The service grows, and no session changes. -/
theorem grows
    (registered : lobby.Registered count)
    (clients : next.clients = lobby.clients)
    (grows : Loopback.Grows lobby.counter.state issues next.counter.state)
    (room : count + issues < UInt32.size) :
    next.Registered (count + issues) := by
  refine registered.of_sessions (registered.tidy.grows grows)
    (registered.issued.grows grows room) (registered.issued.lastId_le grows room) ?_
  intro place client present
  rw [clients] at present
  exact ⟨client, present, rfl,
    (registered.known place client present).grows registered.issued grows room⟩

/-- A client that comes has the connection that was opened for it. -/
theorem joined
    {mode : Mode}
    {newcomer : Client}
    (registered : lobby.Registered count)
    (clients : next.clients = lobby.clients ++ [newcomer])
    (state : next.counter.state = lobby.counter.state.connected mode)
    (connection : newcomer.session.connection = lobby.counter.state.nextId)
    (isMode : newcomer.session.mode = mode)
    (unloaded : newcomer.session.program = none)
    (room : count + 1 < UInt32.size) :
    next.Registered (count + 1) := by
  have growing : Loopback.Grows lobby.counter.state 1 next.counter.state := state ▸ .connected mode
  have different : ∀ (place : Nat) (client : Client), lobby.clients[place]? = some client →
      client.session.connection ≠ newcomer.session.connection := by
    intro place client present
    rw [connection]
    exact UInt32.ne_of_lt (registered.issued.lt_nextId room (registered.below place client present))
  constructor
  · exact registered.tidy.grows growing
  · exact registered.issued.grows growing room
  · intro place client present
    rw [clients] at present
    rcases getElem?_append_singleton present with old | ⟨-, rfl⟩
    · exact UInt32.le_trans (registered.below place client old)
        (registered.issued.lastId_le growing room)
    · rw [connection, state]
      exact UInt32.le_refl _
  · intro place other client twin present second same
    rw [clients] at present second
    rcases getElem?_append_singleton present with old | ⟨rfl, rfl⟩ <;>
      rcases getElem?_append_singleton second with old' | ⟨rfl, rfl⟩
    · exact registered.apart place other client twin old old' same
    · exact absurd same (different place client old)
    · exact absurd same.symm (different other twin old')
    · rfl
  · intro place client present
    rw [clients] at present
    rcases getElem?_append_singleton present with old | ⟨-, rfl⟩
    · exact (registered.known place client old).grows registered.issued growing room
    · constructor
      · intro opened
        rw [state, connection, isMode]
        exact List.mem_append_right _ (List.mem_singleton.mpr rfl)
      · intro program held
        rw [unloaded] at held
        cases held

/-- The client at a place goes on with its session. -/
theorem acted
    {session : Session}
    {accepted : List Handle}
    (registered : lobby.Registered count)
    (present : lobby.clients[place]? = some client)
    (clients : next.clients = lobby.clients.set place ⟨session, accepted⟩)
    (continues : Session.Continues client.session session)
    (deals : Session.Deals limit client.session lobby.counter.state session next.counter.state)
    (room : count + limit < UInt32.size) :
    next.Registered (count + limit) := by
  obtain ⟨issues, le, growing⟩ := deals.grows
  have enough : count + issues < UInt32.size := by omega
  refine registered.of_sessions (registered.tidy.grows growing)
    ((registered.issued.grows growing enough).mono (by omega))
    (registered.issued.lastId_le growing enough) ?_
  intro other after found
  rw [clients, getElem?_set_of_present present] at found
  split at found
  · next same =>
    cases found
    exact ⟨client, same ▸ present, continues.connection,
      (registered.known place client present).deals registered.issued continues deals room⟩
  · exact ⟨after, found, rfl,
      (registered.known other after found).grows registered.issued growing enough⟩

/-- The client at a place closes its session. -/
theorem closed
    (registered : lobby.Registered count)
    (present : lobby.clients[place]? = some client)
    (clients : next.clients = lobby.clients.set place ⟨client.session.closed, client.accepted⟩)
    (state : next.counter.state =
      (Loopback.release client.session.connection lobby.counter.state).state) :
    next.Registered count := by
  refine registered.of_sessions (state ▸ registered.tidy.release _)
    (state ▸ registered.issued.release _) ?_ ?_
  · rw [state, Loopback.lastId_release]
    exact UInt32.le_refl _
  · intro other after found
    rw [clients, getElem?_set_of_present present] at found
    split at found
    · next same =>
      cases found
      exact ⟨client, same ▸ present, rfl, Session.known_closed _ _⟩
    · next different =>
      refine ⟨after, found, rfl, state ▸ (registered.known other after found).release ?_⟩
      exact fun same => different (registered.apart other place after client found present same)

/-- A visit during which an operation goes on with the session. -/
theorem visit
    {Value : Type}
    {act : Session → Counter Loopback → Step Loopback Value}
    {given : Value → List Handle}
    (registered : lobby.Registered count)
    (place : Nat)
    (proceeds : ∀ session, Session.Proceeds given session lobby.counter
      (act session lobby.counter))
    (deals : ∀ session, Session.Deals limit session lobby.counter.state
      (act session lobby.counter).session (act session lobby.counter).counter.state)
    (room : count + limit < UInt32.size) :
    (lobby.visit place act given).Registered (count + limit) := by
  cases present : lobby.clients[place]? with
  | none =>
      rw [visit_of_absent present]
      exact registered.mono (Nat.le_add_right _ _)
  | some client =>
      rw [visit_of_present present]
      obtain ⟨seen, -, -, progress, -⟩ := proceeds client.session
      exact registered.acted present rfl progress.continues (deals client.session) room

theorem closing
    (registered : lobby.Registered count)
    (place : Nat) :
    (lobby.visit place (Lobby.closing Loopback.service) fun _ => []).Registered count := by
  cases present : lobby.clients[place]? with
  | none =>
      rw [visit_of_absent present]
      exact registered
  | some client =>
      by_cases stored : client.session.storedPhase = .closed
      -- The service is not asked again, since the number may belong to another connection by now.
      · rwa [visit_closing_of_closed _ present stored]
      · rw [visit_closing_of_ne _ present stored]
        exact registered.closed present rfl (Session.state_close stored lobby.counter)

theorem join
    (registered : lobby.Registered count)
    (mode : Mode)
    (config : Config)
    (room : count + 1 < UInt32.size) :
    (lobby.join Loopback.service mode config).Registered (count + 1) := by
  cases answer : (Loopback.service.connect mode lobby.counter.state).result with
  | error error =>
      rw [join_of_error answer]
      obtain ⟨issues, le, grows⟩ := Loopback.grows_connect mode lobby.counter.state
      refine mono ?_ (Nat.add_le_add_left le count)
      exact registered.grows rfl grows (by omega)
  | ok connection =>
      rw [join_of_ok answer]
      obtain ⟨number, state⟩ := Loopback.connect_eq_ok answer
      exact registered.joined rfl state number rfl rfl room

/-- A handle that is used up changes nothing for the service. -/
theorem spend (registered : lobby.Registered count) (handle : Handle) :
    (lobby.spend handle).Registered count :=
  ⟨registered.tidy, registered.issued, registered.below, registered.apart, registered.known⟩

theorem step
    (registered : lobby.Registered count)
    (sound : lobby.Sound)
    (move : Move Nat)
    (room : count + (if move.isNumbered then 1 else 0) < UInt32.size) :
    (Lobby.step Loopback.service Loopback.finish lobby move).Registered
      (count + if move.isNumbered then 1 else 0) := by
  cases move with
  | open_ mode config => exact registered.join mode config room
  | load place program =>
      exact registered.visit place (fun session => Session.proceeds_loadContainer program _)
        (fun session => Session.deals_loadContainer session program _) room
  | loadFile place contents =>
      exact registered.visit place (fun session => Session.proceeds_loadFile contents _)
        (fun session => Session.deals_loadFile session contents _) room
  | submit place inputs =>
      exact registered.visit place (fun session => Session.proceeds_submit inputs _)
        (fun session => Session.deals_submit session inputs _) room
  | compile place description =>
      exact registered.visit place (fun session => Session.proceeds_submitCompile description _)
        (fun session => Session.deals_submitCompile session description _) room
  | wait place handle timeout =>
      rw [Lobby.step]
      by_cases given : handle ∈ lobby.handles
      · obtain ⟨owner, accepted⟩ := sound.given handle given
        rw [if_pos given]
        exact (registered.spend handle).visit place
          (fun session => Session.proceeds_wait (sound.known owner handle accepted) timeout)
          (fun session => Session.deals_wait session handle timeout _) room
      · rw [if_neg given]
        exact registered
  | waitFor handle timeout =>
      rw [Lobby.step]
      by_cases given : handle ∈ lobby.handles
      · rw [if_pos given]
        exact ⟨registered.tidy, registered.issued, registered.below, registered.apart,
          registered.known⟩
      · rw [if_neg given]
        exact registered
  | close place => exact registered.closing place
  | turn turn => exact registered.grows rfl (Loopback.grows_finish turn _) room

theorem run
    {moves : List (Move Nat)}
    (registered : lobby.Registered count)
    (sound : lobby.Sound)
    (room : count + moves.countP Move.isNumbered < UInt32.size) :
    (Lobby.run Loopback.service Loopback.finish lobby moves).Registered
      (count + moves.countP Move.isNumbered) := by
  induction moves generalizing lobby count with
  | nil => exact registered
  | cons move moves inductionHypothesis =>
      rw [List.countP_cons, Nat.add_comm (moves.countP _), ← Nat.add_assoc] at room ⊢
      exact inductionHypothesis (registered.step sound move (by omega)) (sound.step move) room

end Registered

/-- Wherever moves lead that open and load fewer times than there are numbers, the service
accepts all that a session has checked, and what a session is refused, it is refused by its own
checks. -/
theorem checks_agree
    {behavior : Behavior}
    {moves : List (Move Nat)}
    (room : moves.countP Move.isNumbered < UInt32.size)
    (present : (run Loopback.service Loopback.finish (empty (.ofBehavior behavior))
      moves).clients[place]? = some client) :
    client.session.Agrees
      (run Loopback.service Loopback.finish (empty (.ofBehavior behavior)) moves).counter := by
  have registered := (registered_empty behavior).run (sound_empty _) (by rwa [Nat.zero_add])
  exact (registered.known place client present).agrees registered.tidy

/-- An empty program is loaded and run by one client, while another compiles. -/
def running : List (Move Nat) :=
  [.open_ .programExecution .standard, .load 0 ⟨Container.formatVersion, 0, [], [], []⟩,
    .open_ .compileOnly .standard, .compile 1 [], .submit 0 [], .turn 1, .wait 0 ⟨1, 1⟩ 5000]

/-- Where these moves lead. -/
def runningLobby : Lobby Loopback :=
  run Loopback.service Loopback.finish (empty (.ofBehavior .sound)) running

/-- The first client may run its program again, and the service agrees. -/
theorem running_agrees :
    ∃ client program, runningLobby.clients[0]? = some client ∧
      client.session.checkSubmit runningLobby.counter.slots [] = .ok program ∧
      client.session.Agrees runningLobby.counter := by
  have ready : runningLobby.clients[0]?.any (fun client =>
      (client.session.checkSubmit runningLobby.counter.slots []).toBool) = true := by
    decide +kernel
  obtain ⟨client, present, passed⟩ := (Option.any_eq_true _ _).mp ready
  have agrees : client.session.Agrees runningLobby.counter := checks_agree (by decide) present
  cases checked : client.session.checkSubmit runningLobby.counter.slots [] with
  | error error =>
      rw [checked] at passed
      cases passed
  | ok program => exact ⟨client, program, present, checked, agrees⟩

end Lobby
end Execution
end TileProgram
