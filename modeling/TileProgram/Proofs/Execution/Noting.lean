import TileProgram.Execution.Lobby

/-!
# A service that keeps notes

To see what a service is asked, it is made to write down the connections that it
is asked to release.  It answers like the service without notes, so everything
at its counter goes the same way; beside that the notes tell which connections
were released, and how often.
-/

namespace TileProgram
namespace Execution

/-- The connections that a service was asked to release, latest first. -/
abbrev Notes := List UInt32

variable {State Turn Value : Type}

/-- An answer with the notes that stand beside the next state. -/
def Reply.noted (reply : Reply State Value) (notes : Notes) : Reply (State × Notes) Value :=
  ⟨reply.result, (reply.state, notes), reply.deliveries⟩

/-- A service that notes the connections that it is asked to release. -/
def Service.noting (service : Service State) : Service (State × Notes) where
  connect mode state := (service.connect mode state.1).noted state.2
  load connection program state := (service.load connection program state.1).noted state.2
  submit connection raw inputs outputs slot state :=
    (service.submit connection raw inputs outputs slot state.1).noted state.2
  compile connection raw description slot state :=
    (service.compile connection raw description slot state.1).noted state.2
  release connection state :=
    (service.release connection state.1).noted (connection :: state.2)

/-- The turns of a service that keeps notes. -/
def noting (turns : Turn → State → Reply State Unit) (turn : Turn) (state : State × Notes) :
    Reply (State × Notes) Unit :=
  (turns turn state.1).noted state.2

/-- A counter whose service has notes. -/
def Counter.noted (counter : Counter State) (notes : Notes) : Counter (State × Notes) :=
  ⟨(counter.state, notes), counter.slots⟩

/-- What an operation gives at such a counter. -/
def Step.noted (step : Step State Value) (notes : Notes) : Step (State × Notes) Value :=
  ⟨step.result, step.session, step.counter.noted notes⟩

namespace Session

variable (service : Service State) (session : Session) (counter : Counter State) (notes : Notes)

/-- The connection that a session has not given back. -/
def unreleased (session : Session) : Notes :=
  if session.storedPhase = .closed then [] else [session.connection]

theorem place_noted
    (request : Request)
    {ask : Bytes → Nat → State → Reply State Unit}
    {other : Bytes → Nat → State × Notes → Reply (State × Notes) Unit}
    (same : ∀ raw slot, other raw slot (counter.state, notes) =
      (ask raw slot counter.state).noted notes) :
    session.place request other (counter.noted notes) =
      (session.place request ask counter).noted notes := by
  unfold place
  cases request.encode with
  | error error => rfl
  | ok raw =>
      simp only [Counter.allot, Slots.allot, Counter.noted, Counter.accept, same, Reply.noted]
      cases (ask raw counter.slots.next counter.state).result <;> rfl

theorem loadContainer_noted (program : Container) :
    session.loadContainer service.noting program (counter.noted notes) =
      (session.loadContainer service program counter).noted notes := by
  unfold loadContainer
  cases session.checkMode .programExecution .loadProgram with
  | error error => rfl
  | ok =>
      simp only [Counter.noted, Counter.accept, Service.noting, Reply.noted]
      cases (session.settle counter.slots).checkIdle loadPhases with
      | error error => rfl
      | ok =>
          cases program.validate with
          | error error => rfl
          | ok => cases (service.load session.connection program counter.state).result <;> rfl

theorem loadFile_noted (contents : Except Files.Failure Bytes) :
    session.loadFile service.noting contents (counter.noted notes) =
      (session.loadFile service contents counter).noted notes := by
  unfold loadFile
  cases session.checkMode .programExecution .loadProgram with
  | error error => rfl
  | ok =>
      cases contents with
      | error failure => rfl
      | ok bytes =>
          simp only [loadProgram]
          cases session.checkMode .programExecution .loadProgram with
          | error error => rfl
          | ok =>
              cases Container.read bytes with
              | error error => rfl
              | ok program => exact loadContainer_noted service session counter notes program

theorem submit_noted (inputs : List Surface) :
    session.submit service.noting inputs (counter.noted notes) =
      (session.submit service inputs counter).noted notes := by
  unfold submit
  cases session.checkMode .programExecution .submit with
  | error error => rfl
  | ok =>
      simp only [show (counter.noted notes).slots = counter.slots from rfl]
      cases (session.settle counter.slots).checkIdle submitPhases with
      | error error => rfl
      | ok =>
          cases (session.settle counter.slots).program with
          | none => rfl
          | some program =>
              simp only
              cases checkInputs (session.settle counter.slots).config program inputs with
              | error error => rfl
              | ok => exact place_noted _ counter notes _ fun raw slot => rfl

theorem submitCompile_noted (description : Bytes) :
    session.submitCompile service.noting description (counter.noted notes) =
      (session.submitCompile service description counter).noted notes := by
  unfold submitCompile
  cases session.checkMode .compileOnly .submitCompile with
  | error error => rfl
  | ok =>
      simp only [show (counter.noted notes).slots = counter.slots from rfl]
      cases (session.settle counter.slots).checkIdle compilePhases with
      | error error => rfl
      | ok => exact place_noted _ counter notes _ fun raw slot => rfl

theorem wait_noted (handle : Handle) (timeout : Nat) :
    session.wait handle timeout (counter.noted notes) =
      (session.wait handle timeout counter).noted notes := by
  unfold wait
  split <;> rfl

/-- Closing asks the service to release what has not been given back. -/
theorem closing_noted :
    Lobby.closing service.noting session (counter.noted notes) =
      (Lobby.closing service session counter).noted (session.unreleased ++ notes) := by
  unfold Lobby.closing close unreleased
  by_cases closed : session.storedPhase = .closed
  · simp only [closed, if_true]
    rfl
  · simp only [closed, if_false]
    cases session.pending <;> rfl

end Session

namespace Lobby

variable (service : Service State) (turns : Turn → State → Reply State Unit) (lobby : Lobby State)
  (notes : Notes)

/-- A lobby whose service has notes. -/
def noted (lobby : Lobby State) (notes : Notes) : Lobby (State × Notes) :=
  ⟨lobby.counter.noted notes, lobby.clients, lobby.handles⟩

/-- What the session at a place has not given back. -/
def unreleasedAt (lobby : Lobby State) (place : Nat) : Notes :=
  (lobby.clients[place]?.map fun client => client.session.unreleased).getD []

/-- The connection that a move makes the service release, if any. -/
def releasedBy (lobby : Lobby State) : Move Turn → Notes
  | .close place => lobby.unreleasedAt place
  | _ => []

theorem visit_noted
    {act : Session → Counter State → Step State Value}
    {other : Session → Counter (State × Notes) → Step (State × Notes) Value}
    (same : ∀ session, other session (lobby.counter.noted notes) =
      (act session lobby.counter).noted notes)
    (place : Nat)
    (given : Value → List Handle) :
    (lobby.noted notes).visit place other given = (lobby.visit place act given).noted notes := by
  unfold visit
  simp only [noted, same]
  cases lobby.clients[place]? <;> rfl

theorem join_noted (mode : Mode) (config : Config) :
    (lobby.noted notes).join service.noting mode config =
      (lobby.join service mode config).noted notes := by
  unfold join Session.open_
  simp only [noted, Counter.noted, Counter.accept, Service.noting, Reply.noted]
  cases (service.connect mode lobby.counter.state).result <;> rfl

theorem visit_closing_noted (place : Nat) :
    (lobby.noted notes).visit place (closing service.noting) (fun _ => []) =
      (lobby.visit place (closing service) fun _ => []).noted
        (lobby.unreleasedAt place ++ notes) := by
  unfold visit unreleasedAt
  simp only [noted, Session.closing_noted]
  cases lobby.clients[place]? <;> rfl

/-- A move goes the same way with notes, which grow by what the move makes the service release. -/
theorem step_noted (move : Move Turn) :
    step service.noting (noting turns) (lobby.noted notes) move =
      (step service turns lobby move).noted (lobby.releasedBy move ++ notes) := by
  cases move with
  | open_ mode config => exact lobby.join_noted service notes mode config
  | load place program =>
      exact lobby.visit_noted notes
        (fun session => session.loadContainer_noted service lobby.counter notes program) place _
  | loadFile place contents =>
      exact lobby.visit_noted notes
        (fun session => session.loadFile_noted service lobby.counter notes contents) place _
  | submit place inputs =>
      exact lobby.visit_noted notes
        (fun session => session.submit_noted service lobby.counter notes inputs) place _
  | compile place description =>
      exact lobby.visit_noted notes
        (fun session => session.submitCompile_noted service lobby.counter notes description) place _
  | wait place handle timeout =>
      by_cases given : handle ∈ lobby.handles
      · have same : handle ∈ (lobby.noted notes).handles := given
        rw [step, step, if_pos given, if_pos same]
        exact (lobby.spend handle).visit_noted notes
          (fun session => session.wait_noted lobby.counter notes handle timeout) place _
      · have same : handle ∉ (lobby.noted notes).handles := given
        rw [step, step, if_neg given, if_neg same]
        rfl
  | waitFor handle timeout =>
      by_cases given : handle ∈ lobby.handles
      · have same : handle ∈ (lobby.noted notes).handles := given
        rw [step, step, if_pos given, if_pos same]
        rfl
      · have same : handle ∉ (lobby.noted notes).handles := given
        rw [step, step, if_neg given, if_neg same]
        rfl
  | close place => exact lobby.visit_closing_noted service notes place
  | turn turn => rfl

/-- The connections that moves make the service release, latest first. -/
def released (lobby : Lobby State) : List (Move Turn) → Notes
  | [] => []
  | move :: rest => (step service turns lobby move).released rest ++ lobby.releasedBy move

/-- Moves go the same way with notes. -/
theorem run_noted (moves : List (Move Turn)) :
    run service.noting (noting turns) (lobby.noted notes) moves =
      (run service turns lobby moves).noted (lobby.released service turns moves ++ notes) := by
  induction moves generalizing lobby notes with
  | nil => rfl
  | cons move rest inductionHypothesis =>
      show run _ _ (step _ _ (lobby.noted notes) move) rest = _
      rw [step_noted, inductionHypothesis, released, List.append_assoc]
      rfl

end Lobby
end Execution
end TileProgram
