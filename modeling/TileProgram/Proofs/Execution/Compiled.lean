import TileProgram.Proofs.Assembly.Listing
import TileProgram.Proofs.Execution.Agreement
import TileProgram.Proofs.Execution.Due

/-!
# Compiled programs are run

What a compile request gives is the written program of the network that was
described.  Every session that can load a program takes it, and then runs it on
the surfaces that the network describes and on no others.
-/

namespace TileProgram
namespace Execution

/-- A description is built when its network is assembled under the standard policy. -/
theorem Loopback.build_eq_ok_iff {description : Bytes} {program : Container} :
    build description = .ok program ↔ ∃ text network,
      Utf8.decode description = .ok text ∧ Network.ofJson text = some network ∧
        Assembly.assemble .standard network = .ok program := by
  unfold build
  simp only [Outcome.seq_eq_ok, Outcome.mapError_eq_ok]
  constructor
  · rintro ⟨text, decoded, built⟩
    cases described : Network.ofJson text with
    | none =>
        rw [described] at built
        cases built
    | some network =>
        rw [described] at built
        exact ⟨text, network, decoded, described, Outcome.mapError_eq_ok.mp built⟩
  · rintro ⟨text, network, decoded, described, assembled⟩
    refine ⟨text, decoded, ?_⟩
    rw [described]
    exact Outcome.mapError_eq_ok.mpr assembled

theorem Loopback.compileDescription_eq_ok_iff
    {requestId : UInt64}
    {description : Surface}
    {output : Output} :
    compileDescription requestId description = .ok output ↔
      ∃ program, build description.bytes = .ok program ∧
        output = ⟨requestId, [description], [.ofBytes program.write]⟩ := by
  unfold compileDescription
  cases build description.bytes with
  | error failure => simp
  | ok program => simp [eq_comm]

namespace Session

variable {session : Session} {slots : Slots} {counter : Counter Loopback}
  {program : SessionProgram} {inputs : List Surface}

/-! ## Checks of sizes -/

/-- Sizes are checked one by one. -/
theorem checkSizesFrom_eq_ok_iff
    {index : Nat}
    {sizes : List UInt64}
    (count : inputs.length = sizes.length) :
    checkSizesFrom index sizes inputs = .ok () ↔
      inputs.map (fun surface => UInt64.ofNat surface.size) = sizes := by
  induction sizes generalizing index inputs with
  | nil =>
      rw [List.length_nil, List.length_eq_zero_iff] at count
      simp [count, checkSizesFrom]
  | cons size sizes inductionHypothesis =>
      cases inputs with
      | nil => cases count
      | cons surface surfaces =>
          have others : checkSizesFrom (index + 1) sizes surfaces = .ok () ↔ _ :=
            inductionHypothesis (Nat.succ.inj count)
          rw [checkSizesFrom, List.map_cons, List.cons.injEq, ← others]
          by_cases equal : UInt64.ofNat surface.size = size
          · simp [equal]
          · simp [equal]

/-- Inputs pass when they have the sizes that the program declares and all surfaces fit. -/
theorem checkInputs_eq_ok_iff {config : Config} :
    checkInputs config program inputs = .ok () ↔
      inputs.map (fun surface => UInt64.ofNat surface.size) = program.inputSizes ∧
        program.inputSizes.length + program.outputSizes.length ≤ config.surfaceLimit := by
  simp only [checkInputs, Outcome.seq_eq_ok, Outcome.exists_unit, Outcome.guard_eq_ok,
    Outcome.final_guard_eq_ok, not_not, Nat.not_lt]
  constructor
  · rintro ⟨count, sizes, few⟩
    exact ⟨(checkSizesFrom_eq_ok_iff count).mp sizes, few⟩
  · rintro ⟨sizes, few⟩
    have count : inputs.length = program.inputSizes.length := by
      rw [← sizes, List.length_map]
    exact ⟨count, (checkSizesFrom_eq_ok_iff count).mpr sizes, few⟩

/-- The common check passes in the allowed phases. -/
theorem checkIdle_of_mem
    {allowed : List Phase}
    (ready : session.phase slots ∈ allowed)
    (never : Phase.pending ∉ allowed ∧ Phase.failed ∉ allowed) :
    (session.settle slots).checkIdle allowed = .ok () := by
  unfold checkIdle
  rw [storedPhase_settle]
  split
  · next waits => exact absurd (waits ▸ ready) never.1
  · next failed => exact absurd (failed ▸ ready) never.2
  · exact if_pos ready

/-- A session that holds a program and does not wait checks only the inputs. -/
theorem checkSubmit_of_ready
    (mode : session.mode = .programExecution)
    (ready : session.phase slots ∈ submitPhases)
    (held : session.program = some program)
    (inputs : List Surface) :
    session.checkSubmit slots inputs =
      (checkInputs session.config program inputs).map fun _ => program := by
  unfold checkSubmit
  rw [checkMode, if_pos mode, Outcome.ok_bind, checkIdle_of_mem ready (by decide),
    Outcome.ok_bind, held]
  rfl

/-- A session that can load a program checks only the program. -/
theorem checkLoad_of_ready
    {container : Container}
    (mode : session.mode = .programExecution)
    (ready : session.phase slots ∈ loadPhases)
    (valid : container.validate = .ok ()) :
    session.checkLoad slots container = .ok () := by
  unfold checkLoad
  rw [checkMode, if_pos mode, Outcome.ok_bind, checkIdle_of_mem ready (by decide),
    Outcome.ok_bind, valid]
  rfl

/-- A session that can compile a description checks nothing else. -/
theorem checkCompile_of_ready
    (mode : session.mode = .compileOnly)
    (ready : session.phase slots ∈ compilePhases) :
    session.checkCompile slots = .ok () := by
  unfold checkCompile
  rw [checkMode, if_pos mode, Outcome.ok_bind, checkIdle_of_mem ready (by decide)]

/-! ## Loading and running -/

/-- The connection of a session is open at a service, in the mode of the session. -/
def Served (service : Loopback) (session : Session) : Prop :=
  service.connection? session.connection = some ⟨session.connection, session.mode⟩

theorem Served.checkMode
    {wanted : Mode}
    (served : session.Served counter.state)
    (mode : session.mode = wanted)
    (operation : Operation) :
    counter.state.checkMode session.connection wanted operation = .ok () := by
  rw [Loopback.checkMode, served, mode]
  exact if_pos rfl

/-- A session as it is after a program was loaded under a number. -/
def withProgram (session : Session) (slots : Slots) (id : UInt32) (program : Container) :
    Session :=
  { session.settle slots with
    storedPhase := .programLoaded
    program := some ⟨id, sizesOf program.inputs, sizesOf program.outputs⟩ }

/-- The state of the counter after a program was loaded for a connection. -/
def loadedCounter (counter : Counter Loopback) (connection : UInt32) : Counter Loopback :=
  { counter with state := counter.state.loaded connection }

/-- A session that can load a program loads every valid one. -/
theorem loadContainer_of_served
    {container : Container}
    (mode : session.mode = .programExecution)
    (ready : session.phase counter.slots ∈ loadPhases)
    (served : session.Served counter.state)
    (valid : container.validate = .ok ()) :
    session.loadContainer Loopback.service container counter =
      ⟨.ok (), session.withProgram counter.slots counter.state.nextId container,
        loadedCounter counter session.connection⟩ := by
  have checked := checkLoad_of_ready mode ready valid
  have answer : Loopback.service.load (session.settle counter.slots).connection container
      counter.state = ⟨.ok counter.state.nextId, counter.state.loaded session.connection, []⟩ := by
    show Loopback.load session.connection container counter.state = _
    rw [Loopback.load, served.checkMode mode]
    rfl
  rw [(gated_loadContainer ..).eq_of_ok checked, load_of_ok (congrArg Reply.result answer), answer]
  rfl

/-- A session whose program the service has runs it on the inputs that pass the checks. -/
theorem exists_submit_iff
    (mode : session.mode = .programExecution)
    (ready : session.phase counter.slots ∈ submitPhases)
    (held : session.program = some program)
    (fits : counter.state.checkMode session.connection .programExecution .submit = .ok ())
    (owned : ⟨program.id, session.connection⟩ ∈ counter.state.programs) :
    (∃ handle, (session.submit Loopback.service inputs counter).result = .ok handle) ↔
      checkInputs session.config program inputs = .ok () := by
  rw [result_submit, checkSubmit_of_ready mode ready held]
  cases passed : checkInputs session.config program inputs with
  | error error => simp [Except.map, bind, Except.bind]
  | ok =>
      obtain ⟨raw, written, accepted⟩ := exists_request_of_owned fits owned passed
      have answer : (Loopback.service.submit session.connection raw
          (session.numberedInputs inputs) (session.numberedOutputs program inputs)
          counter.slots.next counter.state).result = .ok () :=
        Loopback.result_submit accepted _
      refine iff_of_true ⟨⟨counter.slots.next, session.nextRequest⟩, ?_⟩ rfl
      show (session.runRequest program inputs).encode >>= _ = _
      rw [written, Outcome.ok_bind, answer]
      rfl

/-- A sound service queues what comes of a description that a session may compile. -/
theorem submitCompile_of_served
    (mode : session.mode = .compileOnly)
    (ready : session.phase counter.slots ∈ compilePhases)
    (served : session.Served counter.state)
    (sound : counter.state.behavior = .sound)
    (description : Bytes) :
    (session.submitCompile Loopback.service description counter).result =
        .ok ⟨counter.slots.next, session.nextRequest⟩ ∧
      (session.submitCompile Loopback.service description counter).counter =
        ⟨{ counter.state with
            queue := counter.state.queue ++ [⟨counter.slots.next,
              Loopback.compileDescription session.nextRequest
                (session.numberedDescription description)⟩] },
          (counter.slots.allot session.nextRequest).2⟩ := by
  have checked := checkCompile_of_ready mode ready
  obtain ⟨raw, written, accepted⟩ :=
    exists_request_of_compiling (served.checkMode mode .compile) description
  have answer : Loopback.service.compile session.connection raw
      (session.numberedDescription description) counter.slots.next counter.state =
        Loopback.reply { counter.state with
          queue := counter.state.queue ++ [⟨counter.slots.next,
            Loopback.compileDescription session.nextRequest
              (session.numberedDescription description)⟩] } (.ok ()) := by
    show Loopback.compile session.connection raw _ _ counter.state = _
    rw [Loopback.compile, accepted]
    dsimp only
    rw [Loopback.keep, sound]
    rfl
  rw [(gated_submitCompile ..).eq_of_ok checked,
    place_of_ok written (congrArg Reply.result answer), answer]
  exact ⟨rfl, rfl⟩

/-- A session takes the bytes of a program, and then runs it on inputs of the padded sizes of a
network's inputs, as long as a request can name all surfaces, and on no other inputs. -/
structure Takes (network : Network) (bytes : Bytes) (counter : Counter Loopback)
    (session : Session) : Prop where
  loaded : (session.loadProgram Loopback.service bytes counter).result = .ok ()
  checked : ∃ program,
    (session.loadProgram Loopback.service bytes counter).session.program = some program ∧
      ∀ inputs : List Surface, (∀ surface ∈ inputs, surface.size < UInt64.size) →
        (checkInputs session.config program inputs = .ok () ↔
          inputs.map Surface.size =
              network.inputs.map (fun tensor => (Layout.Policy.standard.extent tensor).size) ∧
            network.inputs.length + network.outputNodes.length ≤ session.config.surfaceLimit)
  submitted : ∀ inputs : List Surface, (∀ surface ∈ inputs, surface.size < UInt64.size) →
    ((∃ handle, ((session.loadProgram Loopback.service bytes counter).session.submit
        Loopback.service inputs
        (session.loadProgram Loopback.service bytes counter).counter).result = .ok handle) ↔
      inputs.map Surface.size =
          network.inputs.map (fun tensor => (Layout.Policy.standard.extent tensor).size) ∧
        network.inputs.length + network.outputNodes.length ≤ session.config.surfaceLimit)

/-- The declared sizes of an assembled program's inputs are the padded sizes of its network's. -/
theorem sizesOf_inputs
    {network : Network}
    {container : Container}
    (run : Assembly.Run .standard network container) :
    (sizesOf container.inputs).map UInt64.toNat =
      network.inputs.map fun tensor => (Layout.Policy.standard.extent tensor).size := by
  have listed := run.listsInputs
  apply List.ext_getElem?
  intro number
  rw [sizesOf, List.getElem?_map, List.getElem?_map, List.getElem?_map]
  cases present : network.inputs[number]? with
  | none =>
      have past := List.getElem?_eq_none_iff.mp present
      rw [List.getElem?_eq_none (listed.length ▸ past)]
      rfl
  | some tensor =>
      obtain ⟨relocation, found, -, -, -, size⟩ := listed.listed number tensor present
      rw [found]
      exact congrArg some size

theorem map_size_eq_iff
    {sizes : List UInt64}
    (small : ∀ surface ∈ inputs, surface.size < UInt64.size) :
    inputs.map (fun surface => UInt64.ofNat surface.size) = sizes ↔
      inputs.map Surface.size = sizes.map UInt64.toNat := by
  constructor
  · rintro rfl
    rw [List.map_map]
    refine List.map_congr_left fun surface present => ?_
    exact (UInt64.toNat_ofNat_of_lt' (small surface present)).symm
  · intro equal
    have back := congrArg (List.map UInt64.ofNat) equal
    simpa only [List.map_map, Function.comp_def, UInt64.ofNat_toNat, List.map_id'] using back

/-- A session that can load a program takes every assembled one. -/
theorem takes_of_assembled
    {network : Network}
    {container : Container}
    (assembled : Assembly.assemble .standard network = .ok container)
    (mode : session.mode = .programExecution)
    (ready : session.phase counter.slots ∈ loadPhases)
    (served : session.Served counter.state) :
    session.Takes network container.write counter := by
  obtain ⟨run⟩ := Assembly.exists_run assembled
  have read : Container.read container.write = .ok container := by
    rw [Container.read_write_eq run.wellFormed, run.wellFormed.stored_eq run.builtIn]
  have loaded : session.loadProgram Loopback.service container.write counter =
      ⟨.ok (), session.withProgram counter.slots counter.state.nextId container,
        loadedCounter counter session.connection⟩ := by
    rw [loadProgram, checkMode, if_pos mode, read]
    exact loadContainer_of_served mode ready served run.validate_eq
  have inputs := congrArg List.length (sizesOf_inputs run)
  have outputs : (sizesOf container.outputs).length = network.outputNodes.length :=
    (List.length_map _).trans run.listsOutputs.length
  rw [List.length_map, List.length_map] at inputs
  have sizes : ∀ inputs : List Surface, (∀ surface ∈ inputs, surface.size < UInt64.size) →
      (checkInputs session.config
          ⟨counter.state.nextId, sizesOf container.inputs, sizesOf container.outputs⟩ inputs =
            .ok () ↔
        inputs.map Surface.size =
            network.inputs.map (fun tensor => (Layout.Policy.standard.extent tensor).size) ∧
          network.inputs.length + network.outputNodes.length ≤ session.config.surfaceLimit) := by
    intro surfaces small
    rw [checkInputs_eq_ok_iff, map_size_eq_iff small, sizesOf_inputs run, inputs, outputs]
  refine ⟨by rw [loaded], ⟨_, by rw [loaded]; rfl, sizes⟩, ?_⟩
  intro surfaces small
  rw [loaded, ← sizes surfaces small]
  refine exists_submit_iff mode ?_ rfl ?_ ?_
  · rw [phase_of_stored (by simp [withProgram])]
    exact List.mem_cons_self
  -- Loading adds a program to the table of the service, and leaves the connections alone.
  · exact served.checkMode mode .submit
  · exact List.mem_append_right _ (List.mem_singleton.mpr rfl)

end Session

namespace Lobby

variable {behavior : Behavior} {place : Nat} {client : Client}

/-- As long as numbers are not given out again, the service has the connection of every session
that is not closed. -/
theorem served_of_run
    {moves : List (Move Nat)}
    (room : moves.countP Move.isNumbered < UInt32.size)
    (present : (run Loopback.service Loopback.finish (empty (.ofBehavior behavior))
      moves).clients[place]? = some client)
    (opened : client.session.storedPhase ≠ .closed) :
    client.session.Served (run Loopback.service Loopback.finish (empty (.ofBehavior behavior))
      moves).counter.state := by
  have registered := (registered_empty behavior).run (sound_empty _) (by rwa [Nat.zero_add])
  exact registered.tidy.connection?_eq ((registered.known place client present).connection opened)

/-- Moves that follow each other, one of them singled out. -/
theorem run_split
    (lobby : Lobby Loopback)
    (before later : List (Move Nat))
    (move : Move Nat) :
    run Loopback.service Loopback.finish lobby (before ++ move :: later) =
      run Loopback.service Loopback.finish
        (step Loopback.service Loopback.finish
          (run Loopback.service Loopback.finish lobby before) move) later :=
  List.foldl_append

/-- A compile request that was accepted leaves the counter as its session did. -/
theorem counter_step_compile
    {lobby : Lobby Loopback}
    (present : lobby.clients[place]? = some client)
    (description : Bytes) :
    (step Loopback.service Loopback.finish lobby (.compile place description)).counter =
      (client.session.submitCompile Loopback.service description lobby.counter).counter := by
  rw [step, visit_of_present present]

theorem counter_step_turn (lobby : Lobby Loopback) (turn : Nat) :
    (step Loopback.service Loopback.finish lobby (.turn turn)).counter =
      (lobby.counter.accept (Loopback.finish turn lobby.counter.state)).2 := rfl

/-- An output of a compile request that was accepted came of its description, whatever has
happened since. -/
theorem compiled_of_completed
    {before later : List (Move Nat)}
    {description : Bytes}
    {handle : Handle}
    {timeout : Nat}
    {output : Output}
    (present : (run Loopback.service Loopback.finish (empty (.ofBehavior behavior))
      before).clients[place]? = some client)
    (accepted : (client.session.submitCompile Loopback.service description
      (run Loopback.service Loopback.finish (empty (.ofBehavior behavior))
        before).counter).result = .ok handle)
    (completed : ((run Loopback.service Loopback.finish (empty (.ofBehavior behavior))
      (before ++ .compile place description :: later)).counter.wait handle timeout).1 =
        .ok output) :
    ∃ requestId surface, surface.bytes = description ∧
      Loopback.compileDescription requestId surface = .ok output := by
  have final := Counter.due_of_wait (run_split _ before later _ ▸ completed)
  have compiled := counter_step_compile present description
  have proceeds : Session.Proceeds (fun handle => [handle]) client.session _
      (client.session.submitCompile Loopback.service description
        (run Loopback.service Loopback.finish (empty (.ofBehavior behavior)) before).counter) :=
    Session.proceeds_submitCompile description _
  obtain ⟨-, -, -, -, given⟩ := proceeds
  have known := given handle (by rw [accepted]; exact List.mem_singleton.mpr rfl)
  have due := (keeps_run _ later).due handle.slot output (.inl (compiled ▸ known)) final
  rw [compiled] at due
  exact Session.due_of_submitCompile (not_due_of_run (Nat.le_refl _) output) accepted due

/-- An output of a compile request is the written program of the network that was described.
Every session that can load a program and has its connection at the service takes
it; this is so wherever moves lead that open and load fewer times than there are numbers. -/
theorem compiled_program_taken
    {before later : List (Move Nat)}
    {description : Bytes}
    {handle : Handle}
    {timeout : Nat}
    {output : Output}
    (present : (run Loopback.service Loopback.finish (empty (.ofBehavior behavior))
      before).clients[place]? = some client)
    (accepted : (client.session.submitCompile Loopback.service description
      (run Loopback.service Loopback.finish (empty (.ofBehavior behavior))
        before).counter).result = .ok handle)
    (completed : ((run Loopback.service Loopback.finish (empty (.ofBehavior behavior))
      (before ++ .compile place description :: later)).counter.wait handle timeout).1 =
        .ok output) :
    ∃ text network program,
      Utf8.decode description = .ok text ∧ Network.ofJson text = some network ∧
        Assembly.assemble .standard network = .ok program ∧
        output.outputs = [.ofBytes program.write] ∧
        (∀ (counter : Counter Loopback) (session : Session),
          session.mode = .programExecution → session.phase counter.slots ∈ Session.loadPhases →
          session.Served counter.state → session.Takes network program.write counter) ∧
        ∀ (others : Behavior) (moves : List (Move Nat)) (position : Nat) (other : Client),
          moves.countP Move.isNumbered < UInt32.size →
          (run Loopback.service Loopback.finish (empty (.ofBehavior others))
            moves).clients[position]? = some other →
          other.session.mode = .programExecution →
          other.session.phase (run Loopback.service Loopback.finish (empty (.ofBehavior others))
            moves).counter.slots ∈ Session.loadPhases →
          other.session.Takes network program.write
            (run Loopback.service Loopback.finish (empty (.ofBehavior others)) moves).counter := by
  obtain ⟨requestId, surface, rfl, compiled⟩ := compiled_of_completed present accepted completed
  obtain ⟨program, built, rfl⟩ := Loopback.compileDescription_eq_ok_iff.mp compiled
  obtain ⟨text, network, decoded, described, assembled⟩ := Loopback.build_eq_ok_iff.mp built
  have taken : ∀ (counter : Counter Loopback) (session : Session),
      session.mode = .programExecution → session.phase counter.slots ∈ Session.loadPhases →
      session.Served counter.state → session.Takes network program.write counter :=
    fun _ _ => Session.takes_of_assembled assembled
  refine ⟨text, network, program, decoded, described, assembled, rfl, taken, ?_⟩
  intro others moves position other room found mode ready
  refine taken _ _ mode ready (served_of_run room found ?_)
  intro closed
  rw [Session.phase_of_stored (by simp [closed]), closed] at ready
  exact absurd ready (by decide)

/-- A network of one activation, as a text. -/
def rectifierText : String :=
  "\x7b\"inputs\":[\x7b\"shape\":[1,1,1,1,4],\"dtype\":\"float16\"\x7d],\"ops\":[\x7b\"kind\":" ++
    "\x7b\"type\":\"activation\"\x7d,\"inputs\":[\x7b\"input\":0\x7d],\"output\":" ++
    "\x7b\"shape\":[1,1,1,1,4],\"dtype\":\"float16\"\x7d,\"activation\":" ++
    "\x7b\"kind\":\"relu\"\x7d\x7d]\x7d"

/-- The network that the text describes. -/
def rectifier : Network :=
  { inputs := [⟨⟨1, 1, 1, 1, 4⟩, .half⟩]
    nodes :=
      [⟨.activation, [.input 0], ⟨⟨1, 1, 1, 1, 4⟩, .half⟩, ⟨.relu, ⟨0⟩, ⟨0⟩⟩, none, none⟩] }

set_option maxRecDepth 4000 in
theorem ofJson_rectifierText : Network.ofJson rectifierText = some rectifier := by
  decide +kernel

theorem rectifier_assembled : ∃ program, Assembly.assemble .standard rectifier = .ok program :=
  Assembly.exists_assemble_iff.mpr (by decide +kernel)

/-- A lobby of one client that has opened a session. -/
def opened (mode : Mode) : Lobby Loopback :=
  run Loopback.service Loopback.finish (empty (.ofBehavior .sound)) [.open_ mode .standard]

/-- The first session that is opened in a mode. -/
def newcomer (mode : Mode) : Client :=
  ⟨⟨1, mode, .standard, mode.start, none, none, 1, 1⟩, []⟩

theorem opened_clients (mode : Mode) : (opened mode).clients[0]? = some (newcomer mode) := by
  cases mode <;> rfl

/-- A description that is compiled first is waited for when the service has finished it. -/
theorem wait_compiled (description : Bytes) :
    ((newcomer .compileOnly).session.submitCompile Loopback.service description
        (opened .compileOnly).counter).result = .ok ⟨0, 1⟩ ∧
      ((run Loopback.service Loopback.finish (empty (.ofBehavior .sound))
        ([.open_ .compileOnly .standard] ++ .compile 0 description :: [.turn 0])).counter.wait
          ⟨0, 1⟩ 5000).1 = Loopback.compileDescription 1 ⟨1, description⟩ := by
  have served : (newcomer .compileOnly).session.Served (opened .compileOnly).counter.state := rfl
  obtain ⟨accepted, queued⟩ := Session.submitCompile_of_served rfl (by decide) served rfl description
  refine ⟨accepted, ?_⟩
  rw [run_split, run, List.foldl_cons, List.foldl_nil, counter_step_turn, ← opened,
    counter_step_compile (opened_clients .compileOnly), queued]
  change _ = Loopback.compileDescription (newcomer .compileOnly).session.nextRequest
    ((newcomer .compileOnly).session.numberedDescription description)
  generalize Loopback.compileDescription (newcomer .compileOnly).session.nextRequest
    ((newcomer .compileOnly).session.numberedDescription description) = outcome
  rfl

/-- The program of the described network is what the first session gets, and a session that has
been opened for running programs takes it. -/
theorem rectifier_taken :
    ∃ (description : Bytes) (client : Client) (handle : Handle) (output : Output)
        (network : Network) (program : Container),
      Utf8.decode description = .ok rectifierText ∧
        (opened .compileOnly).clients[0]? = some client ∧
        (client.session.submitCompile Loopback.service description
          (opened .compileOnly).counter).result = .ok handle ∧
        ((run Loopback.service Loopback.finish (empty (.ofBehavior .sound))
          ([.open_ .compileOnly .standard] ++
            .compile 0 description :: [.turn 0])).counter.wait handle 5000).1 = .ok output ∧
        Network.ofJson rectifierText = some network ∧
        output.outputs = [.ofBytes program.write] ∧
        (newcomer .programExecution).session.Takes network program.write
          (opened .programExecution).counter := by
  obtain ⟨container, assembled⟩ := rectifier_assembled
  obtain ⟨description, decoded⟩ : ∃ description, Utf8.decode description = .ok rectifierText :=
    ⟨_, Utf8.decode_encode rectifierText⟩
  have built : Loopback.build description = .ok container :=
    Loopback.build_eq_ok_iff.mpr ⟨_, _, decoded, ofJson_rectifierText, assembled⟩
  obtain ⟨accepted, waited⟩ := wait_compiled description
  rw [Loopback.compileDescription_eq_ok_iff.mpr ⟨container, built, rfl⟩] at waited
  obtain ⟨text, network, program, decodedToo, described, -, written, -, taken⟩ :=
    compiled_program_taken (opened_clients .compileOnly) accepted waited
  cases decoded.symm.trans decodedToo
  exact ⟨description, _, _, _, network, program, decoded, opened_clients .compileOnly, accepted,
    waited, described, written, taken .sound [.open_ .programExecution .standard] 0 _ (by decide)
      (opened_clients .programExecution) rfl (by decide)⟩

end Lobby
end Execution
end TileProgram
