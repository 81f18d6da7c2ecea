import TileProgram.Execution.Loopback
import TileProgram.Proofs.Execution.Dealings
import TileProgram.Proofs.Execution.Discipline
import TileProgram.Proofs.Execution.Noting
import TileProgram.Proofs.Execution.OneOutcome

/-!
# How sessions end

A session ends once, however often and in whatever state it is closed or
dropped.  It first gives up the request whose outcome nobody has taken; only
then does the service release the connection, so what it delivers on that
occasion comes too late.  Whoever waits for the request learns that it was
cancelled, and nobody else learns anything.
-/

namespace TileProgram
namespace Execution

namespace Slot

variable {slot : Slot}

/-- A cancellation gives up an outcome that nobody has taken, whether it has arrived or not. -/
theorem cancel_of_pending (pending : slot.status = .pending) :
    slot.cancel = .cancelled ∧ slot.isCancellable = true := by
  cases slot with
  | taken succeeded => cases succeeded <;> cases pending
  | timedOut => cases pending
  | cancelled => cases pending
  | _ => exact ⟨rfl, rfl⟩

/-- A cancellation that comes later has no effect. -/
theorem cancel_of_settled (settled : slot.status ≠ .pending) :
    slot.cancel = slot ∧ slot.isCancellable = false := by
  cases slot with
  | waiting => exact absurd rfl settled
  | ready outcome => exact absurd rfl settled
  | _ => exact ⟨rfl, rfl⟩

end Slot

namespace Rendezvous

/-- A wait for a request that was cancelled returns just that, whatever else happens; once it has
been called it returns with its next turn. -/
structure EndsCancelled (request : UInt64) (greatest : Nat) (system : System) : Prop where
  returned : ∀ actions next events found outcome,
    System.perform request greatest actions system = some (next, events) →
      .returned found outcome ∈ events → outcome = .error (.cancelled request)
  returns : ∀ actions next events call place,
    System.perform request greatest actions system = some (next, events) →
      next.waiter = some ⟨call, place⟩ → place.isDone = false →
        (∀ visit, next.lock ≠ .visitor visit) →
          ∃ last later,
            System.perform request greatest (List.replicate place.remaining .proceed) next =
              some (last, later) ∧
            last.waiter = some ⟨call, .done (.error (.cancelled request))⟩

namespace System

variable {request : UInt64} {greatest now : Nat} {history : List Event} {system : System}
  {actions : List Action}

/-- Nothing changes a slot that was cancelled, so a wait finds that and nothing else. -/
theorem Sound.endsCancelled
    (sound : Sound request history system)
    (cancelled : standing history = .cancelled) :
    EndsCancelled request greatest system := by
  have stays : ∀ {earlier}, history <:+ earlier → standing earlier = .cancelled := by
    intro earlier suffix
    rw [standing_of_final suffix (by rw [cancelled]; rfl), cancelled]
  constructor
  · intro actions next events found outcome performed member
    obtain ⟨after, before, rfl⟩ := List.append_of_mem member
    have faithful := (sound_perform sound performed).faithful
    rw [List.append_assoc, List.cons_append] at faithful
    obtain ⟨⟨stands, ⟨timeout, -, looked⟩, -⟩, -⟩ :=
      faithful_cons.mp (faithful.earlier (List.suffix_append after _))
    rw [stays (List.suffix_append before history)] at stands
    subst stands
    exact (Option.some.inj looked).symm
  · intro actions next events call place performed present running unvisited
    have stands := stays (List.suffix_append events history)
    obtain ⟨last, later, outcome, performed, returned, looked⟩ :=
      returns_of_settled (sound_perform sound performed) present running
        (by rw [stands]; exact nofun) unvisited
    rw [stands] at looked
    cases Option.some.inj looked
    exact ⟨last, later, performed, returned⟩

/-- A visitor that cancels a request whose outcome nobody has taken ends all waits for it. -/
theorem cancel_of_pending
    (performed : perform request greatest actions (.start now) = some (system, history))
    (held : system.lock = .visitor .cancel)
    (pending : system.slot.status = .pending) :
    ∃ next, system.step request greatest .act = some (next, some (.cancelled true)) ∧
      next.slot = .cancelled ∧ EndsCancelled request greatest next := by
  have sound := sound_perform (sound_start request now) performed
  rw [List.append_nil] at sound
  obtain ⟨cancelled, effective⟩ := Slot.cancel_of_pending pending
  have effect : Visit.cancel.act system.slot = (.cancelled, true, .cancelled true) := by
    rw [Visit.act, cancelled, effective]
  have acted := act_of_visitor held
  rw [effect] at acted
  have nextSound := sound_act sound acted
  have outside : system.lock ≠ .waiter := by simp [held]
  have stands : standing (.cancelled true :: history) = .cancelled := by
    show (standing history).cancel = .cancelled
    rwa [← sound.slot_eq outside]
  refine ⟨_, by rw [step, acted]; rfl, ?_, nextSound.endsCancelled stands⟩
  exact (notify_frame _).1

/-- A visitor that comes to cancel a request that is settled changes nothing. -/
theorem cancel_of_settled
    (held : system.lock = .visitor .cancel)
    (settled : system.slot.status ≠ .pending) :
    system.step request greatest .act =
      some ({ system with lock := .free }, some (.cancelled false)) := by
  obtain ⟨kept, ineffective⟩ := Slot.cancel_of_settled settled
  have effect : Visit.cancel.act system.slot = (system.slot, false, .cancelled false) := by
    rw [Visit.act, kept, ineffective]
  rw [step, act_of_visitor held, effect]
  rfl

end System
end Rendezvous

namespace Session

variable {session next : Session} {slots : Slots} {placed : List Handle}

/-- A session that is closed for good: it has no program and no request. -/
structure IsClosed (session : Session) : Prop where
  storedPhase : session.storedPhase = .closed
  program : session.program = none
  pending : session.pending = none

theorem isClosed_closed (session : Session) : session.closed.IsClosed :=
  ⟨rfl, rfl, rfl⟩

theorem IsClosed.phase (closed : session.IsClosed) (slots : Slots) :
    session.phase slots = .closed :=
  (phase_of_stored (by simp [closed.storedPhase])).trans closed.storedPhase

/-- A closed session only remains closed, and has no request accepted. -/
theorem IsClosed.progress
    (closed : session.IsClosed)
    (progress : Progress slots session next placed) :
    next.IsClosed ∧ placed = [] := by
  have phase := closed.phase slots
  have nothing : (session.settle slots).pending = none := pending_settle_of_ne (by simp [phase])
  cases progress with
  | kept => exact ⟨closed, rfl⟩
  | settled => exact ⟨⟨phase, closed.program, nothing⟩, rfl⟩
  | counted surfaces => exact ⟨⟨phase, closed.program, nothing⟩, rfl⟩
  | loaded program mode ready =>
      rw [phase] at ready
      exact absurd ready (by decide)
  | placed surfaces ready =>
      rw [phase] at ready
      obtain ⟨-, ready, -⟩ | ⟨-, ready⟩ := ready
      · exact absurd ready (by decide)
      · exact absurd ready (by decide)

/-- The connection that a session has given back. -/
def givenBack (session : Session) : Notes :=
  if session.storedPhase = .closed then [session.connection] else []

end Session

namespace Client

variable {client last : Client} {slots : Slots} {next : Session} {placed : List Handle}

/-- A client whose session is closed, with the connection and the requests that it had. -/
structure ClosedAs (client last : Client) : Prop where
  closed : last.session.IsClosed
  connection : last.session.connection = client.session.connection
  accepted : last.accepted = client.accepted

/-- A session is not closed behind its back: nobody else cancels its request. -/
theorem Sound.phase_eq_closed_iff (sound : client.Sound slots) :
    client.session.phase slots = .closed ↔ client.session.storedPhase = .closed := by
  by_cases stored : client.session.storedPhase = .pending
  · obtain ⟨handle, pending⟩ := Option.isSome_iff_exists.mp (sound.waits.mp stored)
    have uncancelled := sound.uncancelled handle pending
    rw [Session.phase_of_pending stored pending, stored]
    cases slot : slots.get handle.slot with
    | cancelled => exact absurd slot uncancelled
    | taken succeeded => cases succeeded <;> decide
    | _ => exact iff_of_false nofun nofun
  · rw [Session.phase_of_stored stored]

/-- No operation but closing closes a session, and none opens it again. -/
theorem Sound.closed_iff_of_progress
    (sound : client.Sound slots)
    (progress : Session.Progress slots client.session next placed) :
    next.storedPhase = .closed ↔ client.session.storedPhase = .closed := by
  refine ⟨?_, not_imp_not.mp progress.continues.opened⟩
  cases progress with
  | kept => exact id
  | settled => exact sound.phase_eq_closed_iff.mp
  | counted surfaces => exact sound.phase_eq_closed_iff.mp
  | loaded program mode ready => exact nofun
  | placed surfaces ready => exact nofun

/-- So an operation gives back no connection. -/
theorem Sound.givenBack_of_progress
    (sound : client.Sound slots)
    (progress : Session.Progress slots client.session next placed) :
    next.givenBack = client.session.givenBack := by
  simp only [Session.givenBack, sound.closed_iff_of_progress progress,
    progress.continues.connection]

/-- When a session is closed its own request is the one whose outcome nobody has taken. -/
theorem Sound.pending_of_isOutstanding
    {handle : Handle}
    (sound : client.Sound slots)
    (member : handle ∈ client.accepted)
    (outstanding : handle.IsOutstanding slots) :
    client.session.pending = some handle := by
  obtain ⟨settled, split, final⟩ := sound.split
  rw [split] at member
  rcases List.mem_append.mp member with own | earlier
  · simpa using own
  · exact absurd outstanding (Slot.isFinal_iff.mp (final handle earlier))

end Client

namespace Lobby

variable {State Turn Value : Type} {lobby next : Lobby State} {service : Service State}
  {turns : Turn → State → Reply State Unit} {place : Nat} {client last : Client}
  {handle : Handle}

/-- Sessions that say that they are closed are closed for good. -/
def ClosedForGood (lobby : Lobby State) : Prop :=
  ∀ (place : Nat) (client : Client), lobby.clients[place]? = some client →
    client.session.storedPhase = .closed → client.session.IsClosed

theorem closedForGood_empty (state : State) : ClosedForGood (empty state) := by
  intro place client present
  cases present

theorem ClosedForGood.change
    (forGood : lobby.ClosedForGood)
    (sound : lobby.Sound)
    (change : Change lobby next) :
    next.ClosedForGood := by
  intro place after present stored
  rcases change.exists_before present with
    ⟨client, before, affects⟩ | ⟨connection, mode, config, rfl⟩
  · cases affects with
    | kept same =>
        subst same
        exact forGood place after before stored
    | acted session placed seen early late progress same =>
        subst same
        have own := (sound.sound place client before).later early
        have stored := (own.closed_iff_of_progress progress).mp stored
        exact ((forGood place client before stored).progress progress).1
    | closed later same =>
        subst same
        exact client.session.isClosed_closed
  · cases mode <;> cases stored

theorem ClosedForGood.run
    (forGood : lobby.ClosedForGood)
    (sound : lobby.Sound)
    (moves : List (Move Turn)) :
    (Lobby.run service turns lobby moves).ClosedForGood := by
  induction moves generalizing lobby with
  | nil => exact forGood
  | cons move moves inductionHypothesis =>
      have change : Change lobby (Lobby.step service turns lobby move) := change_step sound move
      exact inductionHypothesis (forGood.change sound change) (sound.change change)

/-- A closed session stays as it is, whatever changes. -/
theorem closedAs_of_change
    (change : Change lobby next)
    (present : lobby.clients[place]? = some last)
    (closedAs : client.ClosedAs last) :
    ∃ after, next.clients[place]? = some after ∧ client.ClosedAs after := by
  obtain ⟨after, found, affects⟩ := change.exists_after present
  refine ⟨after, found, ?_⟩
  cases affects with
  | kept same => exact same ▸ closedAs
  | acted session placed seen early late progress same =>
      obtain ⟨closed, rfl⟩ := closedAs.closed.progress progress
      rw [same]
      exact ⟨closed, progress.continues.connection.trans closedAs.connection, closedAs.accepted⟩
  | closed later same =>
      rw [same]
      exact ⟨last.session.isClosed_closed, closedAs.connection, closedAs.accepted⟩

variable (service) (turns)

/-- A closed session stays as it is in a run. -/
theorem closedAs_of_run
    (sound : lobby.Sound)
    (present : lobby.clients[place]? = some last)
    (closedAs : client.ClosedAs last)
    (moves : List (Move Turn)) :
    ∃ after, (run service turns lobby moves).clients[place]? = some after ∧
      client.ClosedAs after := by
  induction moves generalizing lobby last with
  | nil => exact ⟨last, present, closedAs⟩
  | cons move moves inductionHypothesis =>
      have change : Change lobby (step service turns lobby move) := change_step sound move
      obtain ⟨middle, found, closedAs⟩ := closedAs_of_change change present closedAs
      exact inductionHypothesis (sound.change change) found closedAs

theorem get_of_run
    {number : Nat}
    (sound : lobby.Sound)
    (final : (lobby.counter.slots.get number).isFinal = true)
    (moves : List (Move Turn)) :
    (run service turns lobby moves).counter.slots.get number =
      lobby.counter.slots.get number := by
  induction moves generalizing lobby with
  | nil => rfl
  | cons move moves inductionHypothesis =>
      have change : Change lobby (step service turns lobby move) := change_step sound move
      have kept := get_of_change change final
      exact (inductionHypothesis (sound.change change) (kept ▸ final)).trans kept

/-- Whatever the state of a session, closing it leaves it closed. -/
theorem closedAs_of_close
    (forGood : lobby.ClosedForGood)
    (present : lobby.clients[place]? = some client) :
    ∃ last, (step service turns lobby (.close place)).clients[place]? = some last ∧
      client.ClosedAs last := by
  by_cases stored : client.session.storedPhase = .closed
  · rw [step, visit_closing_of_closed service present stored]
    exact ⟨client, present, forGood place client present stored, rfl, rfl⟩
  · rw [step, visit_closing_of_ne service present stored, getElem?_set_of_present present,
      if_pos rfl]
    exact ⟨_, rfl, client.session.isClosed_closed, rfl, rfl⟩

/-- The request whose outcome nobody has taken is cancelled when its session is closed, before
anything is delivered. -/
theorem get_of_close
    (sound : lobby.Sound)
    (present : lobby.clients[place]? = some client)
    (member : handle ∈ client.accepted)
    (outstanding : handle.IsOutstanding lobby.counter.slots) :
    (step service turns lobby (.close place)).counter.slots.get handle.slot = .cancelled := by
  have own := sound.sound place client present
  have pending := own.pending_of_isOutstanding member outstanding
  have waits : client.session.storedPhase = .pending := own.waits.mpr (by simp [pending])
  have stored : client.session.storedPhase ≠ .closed := by simp [waits]
  have cancelled :
      (client.session.cancelPending lobby.counter.slots).get handle.slot = .cancelled := by
    rw [Session.cancelPending, pending, Slots.get_cancel, if_pos rfl]
    exact (Slot.cancel_of_pending outstanding).1
  rw [step, visit_closing_of_ne service present stored]
  have kept := (@Session.close_of_ne _ _ lobby.counter service stored).2.final handle.slot
    (by rw [cancelled]; rfl)
  exact kept.trans cancelled

/-- The connections of all sessions that are closed. -/
def givenBack (lobby : Lobby State) : Notes :=
  lobby.clients.flatMap fun client => client.session.givenBack

/-- What is given back when one of the clients becomes another. -/
theorem givenBack_set
    {clients : List Client}
    (present : clients[place]? = some client)
    (last : Client) :
    (last.session.givenBack ++ clients.flatMap fun client => client.session.givenBack).Perm
      (client.session.givenBack ++
        (clients.set place last).flatMap fun client => client.session.givenBack) := by
  obtain ⟨inside, found⟩ := List.getElem?_eq_some_iff.mp present
  obtain ⟨front, back, whole, -, changed⟩ := List.exists_of_set inside
  rw [found] at whole
  rw [changed, List.perm_iff_count]
  intro connection
  simp only [whole, List.flatMap_append, List.flatMap_cons, List.count_append]
  omega

/-- An operation gives back no connection. -/
theorem givenBack_visit
    {handles : List Handle}
    {act : Session → Counter State → Step State Value}
    {given : Value → List Handle}
    (sound : lobby.Sound)
    (proceeds : ∀ session, Session.Proceeds given session lobby.counter
      (act session lobby.counter)) :
    lobby.givenBack.Perm ({ lobby with handles := handles }.visit place act given).givenBack := by
  let spent : Lobby State := { lobby with handles := handles }
  cases present : spent.clients[place]? with
  | none =>
      rw [visit_of_absent present]
      exact .refl _
  | some client =>
      obtain ⟨seen, early, -, progress, -⟩ := proceeds client.session
      have own := (sound.sound place client present).later early
      have same := own.givenBack_of_progress progress
      have set := givenBack_set present ⟨(act client.session lobby.counter).session,
        handlesOf given (act client.session lobby.counter).result ++ client.accepted⟩
      simp only [same] at set
      rw [visit_of_present present]
      exact (List.perm_append_left_iff _).mp set

theorem givenBack_join (lobby : Lobby State) (mode : Mode) (config : Config) :
    lobby.givenBack.Perm (lobby.join service mode config).givenBack := by
  cases answer : (service.connect mode lobby.counter.state).result with
  | error error =>
      rw [join_of_error answer]
      exact .refl _
  | ok connection =>
      rw [join_of_ok answer]
      simp only [givenBack, List.flatMap_append]
      cases mode <;> simp [Session.givenBack, Mode.start]

/-- Closing gives back what had not been given back. -/
theorem givenBack_close
    (lobby : Lobby State)
    (place : Nat) :
    (lobby.unreleasedAt place ++ lobby.givenBack).Perm
      (step service turns lobby (.close place)).givenBack := by
  unfold unreleasedAt
  cases present : lobby.clients[place]? with
  | none =>
      rw [step, visit_of_absent present]
      exact .refl _
  | some client =>
      by_cases stored : client.session.storedPhase = .closed
      · rw [step, visit_closing_of_closed service present stored]
        simp [Session.unreleased, stored]
      · have set := givenBack_set present ⟨client.session.closed, client.accepted⟩
        rw [givenBack, givenBack, step, visit_closing_of_ne service present stored]
        simpa [Session.unreleased, Session.givenBack, Session.closed, stored] using set

/-- Each move gives back just what it makes the service release. -/
theorem givenBack_step (sound : lobby.Sound) (move : Move Turn) :
    (lobby.releasedBy move ++ lobby.givenBack).Perm
      (step service turns lobby move).givenBack := by
  cases move with
  | open_ mode config => exact givenBack_join service lobby mode config
  | load place program =>
      exact givenBack_visit sound fun _ => Session.proceeds_loadContainer program lobby.counter
  | loadFile place contents =>
      exact givenBack_visit sound fun _ => Session.proceeds_loadFile contents lobby.counter
  | submit place inputs =>
      exact givenBack_visit sound fun _ => Session.proceeds_submit inputs lobby.counter
  | compile place description =>
      exact givenBack_visit sound fun _ =>
        Session.proceeds_submitCompile description lobby.counter
  | wait place handle timeout =>
      simp only [step]
      split
      · next given =>
        obtain ⟨owner, accepted⟩ := sound.given handle given
        exact givenBack_visit sound fun _ =>
          Session.proceeds_wait (sound.known owner handle accepted) timeout
      · exact .refl _
  | waitFor handle timeout =>
      simp only [step]
      split <;> exact .refl _
  | close place => exact givenBack_close service turns lobby place
  | turn turn => exact .refl _

theorem givenBack_run (sound : lobby.Sound) (moves : List (Move Turn)) :
    (lobby.released service turns moves ++ lobby.givenBack).Perm
      (run service turns lobby moves).givenBack := by
  induction moves generalizing lobby with
  | nil => exact .refl _
  | cons move moves inductionHypothesis =>
      have first : (lobby.releasedBy move ++ lobby.givenBack).Perm
          (step service turns lobby move).givenBack := givenBack_step service turns sound move
      rw [released, List.append_assoc]
      exact (first.append_left _).trans (inductionHypothesis (sound.step move))

theorem run_append
    (lobby : Lobby State)
    (moves further : List (Move Turn)) :
    run service turns lobby (moves ++ further) =
      run service turns (run service turns lobby moves) further :=
  List.foldl_append

theorem released_append
    (lobby : Lobby State)
    (moves further : List (Move Turn)) :
    lobby.released service turns (moves ++ further) =
      (run service turns lobby moves).released service turns further ++
        lobby.released service turns moves := by
  induction moves generalizing lobby with
  | nil => exact (List.append_nil _).symm
  | cons move moves inductionHypothesis =>
      simp only [List.cons_append, released, inductionHypothesis, List.append_assoc]
      rfl

/-- Closing a session makes the service release what the session has not given back. -/
theorem released_close (present : lobby.clients[place]? = some client) :
    lobby.released service turns [.close place] = client.session.unreleased := by
  simp [released, releasedBy, unreleasedAt, present]

/-- What a service has noted after some moves: the connection of every session that is closed,
once for each of them, and nothing else. -/
structure Recorded (service : Service State) (turns : Turn → State → Reply State Unit)
    (state : State) (moves : List (Move Turn)) (notes : Notes) : Prop where
  run_eq : run service.noting (noting turns) (empty (state, [])) moves =
    (run service turns (empty state) moves).noted notes
  perm : notes.Perm (run service turns (empty state) moves).givenBack

theorem recorded (state : State) (moves : List (Move Turn)) :
    Recorded service turns state moves ((empty state).released service turns moves) where
  run_eq := by
    have noted := (empty state).run_noted service turns [] moves
    rwa [List.append_nil] at noted
  perm := by
    have perm : ((empty state).released service turns moves ++ []).Perm
        (run service turns (empty state) moves).givenBack :=
      givenBack_run service turns (sound_empty state) moves
    rwa [List.append_nil] at perm

/-- A closed session has given back its connection once. -/
theorem count_givenBack
    (present : lobby.clients[place]? = some last)
    (stored : last.session.storedPhase = .closed)
    (alone : ∀ (other : Nat) (twin : Client), lobby.clients[other]? = some twin →
      twin.session.connection = last.session.connection → other = place) :
    lobby.givenBack.count last.session.connection = 1 := by
  -- Were this session open, nobody would have given back the connection.
  let opened : Client := ⟨{ last.session with storedPhase := .opened }, last.accepted⟩
  have count := (givenBack_set present opened).count_eq last.session.connection
  have nowhere : last.session.connection ∉
      (lobby.clients.set place opened).flatMap fun client => client.session.givenBack := by
    intro member
    obtain ⟨twin, among, given⟩ := List.mem_flatMap.mp member
    obtain ⟨other, found⟩ := List.getElem?_of_mem among
    rw [getElem?_set_of_present present] at found
    split at found
    · cases found
      cases given
    · next different =>
      rw [Session.givenBack] at given
      split at given
      · exact different (alone other twin found (List.mem_singleton.mp given).symm)
      · cases given
  rw [List.count_append, List.count_append, List.count_eq_zero.mpr nowhere] at count
  simpa [givenBack, Session.givenBack, stored, opened] using count

/-- How a session is brought to its end.  To drop a session is to close it. -/
inductive Ending (Turn : Type) where
  | closed
  | dropped
  | closedThenDropped (between : List (Move Turn))

/-- The moves that bring a session to its end; between two of them anything may happen. -/
def Ending.moves (place : Nat) : Ending Turn → List (Move Turn)
  | .closed => [.close place]
  | .dropped => [.close place]
  | .closedThenDropped between => .close place :: between ++ [.close place]

/-- Every ending closes the session first. -/
theorem Ending.moves_eq (ending : Ending Turn) (place : Nat) :
    ∃ rest, ending.moves place = .close place :: rest := by
  cases ending with
  | closed => exact ⟨[], rfl⟩
  | dropped => exact ⟨[], rfl⟩
  | closedThenDropped between => exact ⟨between ++ [.close place], rfl⟩

/-- What the end of a session means for it and for its requests, at any time after it.  A request
whose outcome nobody has taken is cancelled, and whoever waits at its slot while that happens is
told so; a request that is settled is left alone. -/
structure ClosedCleanly (before after : Lobby State) (place : Nat) (client : Client) : Prop where
  closed : ∃ last, after.clients[place]? = some last ∧ client.ClosedAs last ∧
    last.session.phase after.counter.slots = .closed
  revoked : ∀ handle ∈ client.accepted, handle.IsOutstanding before.counter.slots →
    after.counter.slots.get handle.slot = .cancelled ∧
      ∀ timeout, (after.counter.wait handle timeout).1 = .error (.cancelled handle.request)
  woken : ∀ handle ∈ client.accepted, handle.IsOutstanding before.counter.slots →
    ∀ greatest now actions system history,
      Rendezvous.System.perform handle.request greatest actions (.start now) =
          some (system, history) →
        system.slot = before.counter.slots.get handle.slot → system.lock = .visitor .cancel →
          ∃ next, system.step handle.request greatest .act = some (next, some (.cancelled true)) ∧
            next.slot = .cancelled ∧ Rendezvous.EndsCancelled handle.request greatest next
  spared : ∀ handle ∈ client.accepted, ¬ handle.IsOutstanding before.counter.slots →
    after.counter.slots.get handle.slot = before.counter.slots.get handle.slot ∧
      ∀ greatest (system : Rendezvous.System),
        system.slot = before.counter.slots.get handle.slot → system.lock = .visitor .cancel →
          system.step handle.request greatest .act =
            some ({ system with lock := .free }, some (.cancelled false))

/-- A session that is closed in a sound lobby is closed cleanly, whatever moves come next. -/
theorem closedCleanly_of_close
    (sound : lobby.Sound)
    (forGood : lobby.ClosedForGood)
    (present : lobby.clients[place]? = some client)
    (further : List (Move Turn)) :
    ClosedCleanly lobby
      (run service turns (step service turns lobby (.close place)) further) place client := by
  constructor
  · obtain ⟨middle, found, closedAs⟩ := closedAs_of_close service turns forGood present
    obtain ⟨last, found, closedAs⟩ :=
      closedAs_of_run service turns (sound.step (.close place)) found closedAs further
    exact ⟨last, found, closedAs, closedAs.closed.phase _⟩
  · intro handle member outstanding
    have cancelled := get_of_close service turns sound present member outstanding
    have kept := get_of_run service turns (sound.step (.close place)) (by rw [cancelled]; rfl)
      further
    have stands := kept.trans cancelled
    refine ⟨stands, fun timeout => ?_⟩
    rw [Counter.wait, Slots.wait, stands]
    rfl
  · intro handle member outstanding greatest now actions system history performed same held
    exact Rendezvous.System.cancel_of_pending performed held (same ▸ outstanding)
  · intro handle member settled
    have final := Slot.isFinal_iff.mpr settled
    refine ⟨get_of_run service turns sound final (.close place :: further), ?_⟩
    exact fun greatest system same held =>
      Rendezvous.System.cancel_of_settled held (same ▸ settled)

/-- What a service that keeps notes writes down about the end of a session: its connection when
it is closed, unless it was closed before, and, if no other session has that connection, never
again. -/
structure ReleasedOnce (service : Service State) (turns : Turn → State → Reply State Unit)
    (state : State) (moves rest : List (Move Turn)) (place : Nat) (client : Client)
    (notes later : Notes) : Prop where
  before : Recorded service turns state moves notes
  closing : Recorded service turns state (moves ++ [.close place])
    (client.session.unreleased ++ notes)
  after : Recorded service turns state (moves ++ rest)
    (later ++ (client.session.unreleased ++ notes))
  once : (∀ (other : Nat) (twin : Client),
      (run service turns (empty state) (moves ++ rest)).clients[other]? = some twin →
        twin.session.connection = client.session.connection → other = place) →
    (later ++ (client.session.unreleased ++ notes)).count client.session.connection = 1

/-- However a session is brought to its end, and whatever its state was, it is closed cleanly,
and the service is made to release its connection once. -/
theorem closed_cleanly
    (state : State)
    (moves : List (Move Turn))
    (ending : Ending Turn)
    (further : List (Move Turn))
    (present : (run service turns (empty state) moves).clients[place]? = some client) :
    ClosedCleanly (run service turns (empty state) moves)
        (run service turns (empty state) (moves ++ (ending.moves place ++ further))) place client ∧
      ∃ notes later, ReleasedOnce service turns state moves (ending.moves place ++ further) place
        client notes later := by
  have sound : (run service turns (empty state) moves).Sound := (sound_empty state).run moves
  have forGood : (run service turns (empty state) moves).ClosedForGood :=
    (closedForGood_empty state).run (sound_empty state) moves
  obtain ⟨rest, first⟩ := ending.moves_eq place
  rw [first, List.cons_append]
  have cleanly : ClosedCleanly (run service turns (empty state) moves)
      (run service turns (empty state) (moves ++ .close place :: (rest ++ further))) place
      client := by
    rw [run_append]
    exact closedCleanly_of_close service turns sound forGood present (rest ++ further)
  refine ⟨cleanly, (empty state).released service turns moves,
    (run service turns (empty state) (moves ++ [.close place])).released service turns
      (rest ++ further), ?_⟩
  have closing : (empty state).released service turns (moves ++ [.close place]) =
      client.session.unreleased ++ (empty state).released service turns moves := by
    rw [released_append, released_close service turns present]
  have whole : moves ++ .close place :: (rest ++ further) =
      (moves ++ [.close place]) ++ (rest ++ further) := by simp
  have after := recorded service turns state (moves ++ .close place :: (rest ++ further))
  rw [whole, released_append, closing, ← whole] at after
  refine ⟨recorded service turns state moves, closing ▸ recorded service turns state _, after, ?_⟩
  intro alone
  obtain ⟨last, found, closedAs, -⟩ := cleanly.closed
  rw [after.perm.count_eq, ← closedAs.connection]
  refine count_givenBack found closedAs.closed.storedPhase fun other twin present same => ?_
  exact alone other twin present (same.trans closedAs.connection)

/-- A stalled service keeps the request of a session. -/
def stalling : List (Move Nat) :=
  [.open_ .compileOnly .standard, .compile 0 []]

/-- Where these moves lead. -/
def stallingLobby : Lobby Loopback :=
  run Loopback.service Loopback.finish (empty (.ofBehavior ⟨true, none, [], false⟩)) stalling

/-- The session is closed, and dropped after another was opened: its request is cancelled, and
its connection is released once. -/
theorem stalling_closed_cleanly :
    ∃ client, stallingLobby.clients[0]? = some client ∧ client.accepted = [⟨0, 1⟩] ∧
      Handle.IsOutstanding stallingLobby.counter.slots ⟨0, 1⟩ ∧ client.session.unreleased = [1] ∧
      ClosedCleanly stallingLobby
        (run Loopback.service Loopback.finish (empty (.ofBehavior ⟨true, none, [], false⟩))
          (stalling ++ (.close 0 :: .open_ .compileOnly .standard :: .close 0 :: [.turn 0])))
        0 client ∧
      ∃ notes later, ReleasedOnce Loopback.service Loopback.finish
        (.ofBehavior ⟨true, none, [], false⟩) stalling
        (.close 0 :: .open_ .compileOnly .standard :: .close 0 :: [.turn 0]) 0 client notes
        later := by
  refine ⟨_, rfl, by decide +kernel, ?_, by decide +kernel, ?_⟩
  · show (stallingLobby.counter.slots.get 0).status = .pending
    decide +kernel
  · exact closed_cleanly Loopback.service Loopback.finish (.ofBehavior ⟨true, none, [], false⟩)
      stalling (.closedThenDropped [.open_ .compileOnly .standard]) [.turn 0] rfl

end Lobby
end Execution
end TileProgram
