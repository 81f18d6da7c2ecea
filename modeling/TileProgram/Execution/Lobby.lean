import TileProgram.Execution.Session

/-!
# Sessions at one counter

Any number of clients stand at the counter of a service.  Each has a session
and acts on it whenever it likes.  A handle that a client is given can be waited
for once, through any session or by itself.  Between the moves of the clients
the service takes turns: it changes its state and delivers outcomes.

What happens while somebody waits counts as before the wait.  A session looks at
nothing but itself before it waits, and a wait ends with one look at the slot.
-/

namespace TileProgram
namespace Execution

/-- A session, and its requests that were accepted, latest first. -/
structure Client where
  session : Session
  accepted : List Handle

/-- Clients at a counter, and the handles that nobody has waited for. -/
structure Lobby (State : Type) where
  counter : Counter State
  clients : List Client
  handles : List Handle

/-- What happens next; a client is known by its place. -/
inductive Move (Turn : Type) where
  | open_ (mode : Mode) (config : Config)
  | load (place : Nat) (program : Container)
  | loadFile (place : Nat) (contents : Except Files.Failure Bytes)
  | submit (place : Nat) (inputs : List Surface)
  | compile (place : Nat) (description : Bytes)
  | wait (place : Nat) (handle : Handle) (timeout : Nat)
  | waitFor (handle : Handle) (timeout : Nat)
  | close (place : Nat)
  | turn (turn : Turn)

/-- Whether a move makes the service give out a number if it succeeds. -/
def Move.isNumbered : Move Turn → Bool
  | .open_ _ _ => true
  | .load _ _ => true
  | .loadFile _ _ => true
  | _ => false

namespace Lobby

/-- A counter at which nobody stands. -/
def empty (state : State) : Lobby State :=
  ⟨.fresh state, [], []⟩

/-- The handles that a result holds. -/
def handlesOf (given : Value → List Handle) : Except Error Value → List Handle
  | .ok value => given value
  | .error _ => []

/-- The client at a place acts on its session; what it gets may be handles of accepted requests. -/
def visit (lobby : Lobby State) (place : Nat)
    (act : Session → Counter State → Step State Value) (given : Value → List Handle) :
    Lobby State :=
  match lobby.clients[place]? with
  | none => lobby
  | some client =>
      let step := act client.session lobby.counter
      let handles := handlesOf given step.result
      { counter := step.counter
        clients := lobby.clients.set place ⟨step.session, handles ++ client.accepted⟩
        handles := handles ++ lobby.handles }

/-- A new client opens a session. -/
def join (service : Service State) (lobby : Lobby State) (mode : Mode) (config : Config) :
    Lobby State :=
  let (result, counter) := Session.open_ service mode config lobby.counter
  match result with
  | .ok session => { lobby with counter, clients := lobby.clients ++ [⟨session, []⟩] }
  | .error _ => { lobby with counter }

/-- Uses up a handle. -/
def spend (lobby : Lobby State) (handle : Handle) : Lobby State :=
  { lobby with handles := lobby.handles.erase handle }

/-- Closing a session always succeeds. -/
def closing (service : Service State) (session : Session) (counter : Counter State) :
    Step State Unit :=
  let (closed, next) := session.close service counter
  ⟨.ok (), closed, next⟩

/-- What a move makes of a lobby; one that is not possible changes nothing. -/
def step (service : Service State) (turns : Turn → State → Reply State Unit)
    (lobby : Lobby State) : Move Turn → Lobby State
  | .open_ mode config => lobby.join service mode config
  | .load place program =>
      lobby.visit place (fun session => session.loadContainer service program) fun _ => []
  | .loadFile place contents =>
      lobby.visit place (fun session => session.loadFile service contents) fun _ => []
  | .submit place inputs =>
      lobby.visit place (fun session => session.submit service inputs) fun handle => [handle]
  | .compile place description =>
      lobby.visit place (fun session => session.submitCompile service description)
        fun handle => [handle]
  | .wait place handle timeout =>
      if handle ∈ lobby.handles then
        (lobby.spend handle).visit place (fun session => session.wait handle timeout) fun _ => []
      else lobby
  | .waitFor handle timeout =>
      if handle ∈ lobby.handles then
        { lobby.spend handle with counter := (lobby.counter.wait handle timeout).2 }
      else lobby
  | .close place => lobby.visit place (closing service) fun _ => []
  | .turn turn =>
      { lobby with counter := (lobby.counter.accept (turns turn lobby.counter.state)).2 }

/-- Moves one after another. -/
def run (service : Service State) (turns : Turn → State → Reply State Unit)
    (lobby : Lobby State) (moves : List (Move Turn)) : Lobby State :=
  moves.foldl (step service turns) lobby

end Lobby
end Execution
end TileProgram
