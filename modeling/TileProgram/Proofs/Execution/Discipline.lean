import TileProgram.Execution.Loopback
import TileProgram.Proofs.Execution.Admission
import TileProgram.Proofs.Execution.Clients

/-!
# The discipline of sessions

Whatever clients and the service do, and in whatever order, a session waits
exactly as long as the outcome of its last accepted request has not been taken,
and it accepts nothing meanwhile.  A session that has failed can only be closed,
and a closed one stays closed.  Its phases are those of its mode.
-/

namespace TileProgram
namespace Execution
namespace Lobby

variable {State Turn Value : Type} {lobby next : Lobby State} {service : Service State}
  {turns : Turn → State → Reply State Unit} {place : Nat} {client : Client}

/-- A request of the client at a place was accepted. -/
def Accepted (lobby : Lobby State) (place : Nat) (handle : Handle) : Prop :=
  ∃ client, lobby.clients[place]? = some client ∧ handle ∈ client.accepted

/-- The clients are sound, and a slot belongs to one request. -/
structure Sound (lobby : Lobby State) : Prop where
  fresh : lobby.counter.slots.Fresh
  sound : ∀ (place : Nat) (client : Client), lobby.clients[place]? = some client →
    client.Sound lobby.counter.slots
  known : ∀ (place : Nat) handle, lobby.Accepted place handle →
    handle.slot < lobby.counter.slots.next
  apart : ∀ place handle other twin, lobby.Accepted place handle → lobby.Accepted other twin →
    handle.slot = twin.slot → place = other ∧ handle = twin
  given : ∀ handle ∈ lobby.handles, ∃ place, lobby.Accepted place handle

/-- What a move can make of a lobby. -/
inductive Change (lobby next : Lobby State) : Prop where
  | quiet
      (clients : next.clients = lobby.clients)
      (handles : next.handles ⊆ lobby.handles)
      (later : Slots.Later lobby.counter.slots next.counter.slots)
  | joined (connection : UInt32) (mode : Mode) (config : Config)
      (clients : next.clients =
        lobby.clients ++ [⟨⟨connection, mode, config, mode.start, none, none, 1, 1⟩, []⟩])
      (handles : next.handles = lobby.handles)
      (later : Slots.Later lobby.counter.slots next.counter.slots)
  | acted (place : Nat) (client : Client) (session : Session) (placed : List Handle)
      (seen : Slots)
      (present : lobby.clients[place]? = some client)
      (clients : next.clients = lobby.clients.set place ⟨session, placed ++ client.accepted⟩)
      (handles : next.handles ⊆ placed ++ lobby.handles)
      (early : Slots.Later lobby.counter.slots seen)
      (late : Slots.Later seen next.counter.slots)
      (progress : Session.Progress seen client.session session placed)
      (given : ∀ handle ∈ placed, handle.slot < next.counter.slots.next)
  | closed (place : Nat) (client : Client)
      (present : lobby.clients[place]? = some client)
      (clients : next.clients =
        lobby.clients.set place ⟨client.session.closed, client.accepted⟩)
      (handles : next.handles ⊆ lobby.handles)
      (later : Slots.Later (client.session.cancelPending lobby.counter.slots)
        next.counter.slots)

theorem visit_of_absent
    (absent : lobby.clients[place]? = none)
    (act : Session → Counter State → Step State Value)
    (given : Value → List Handle) :
    lobby.visit place act given = lobby := by
  rw [visit, absent]

theorem visit_of_present
    (present : lobby.clients[place]? = some client)
    (act : Session → Counter State → Step State Value)
    (given : Value → List Handle) :
    lobby.visit place act given =
      { counter := (act client.session lobby.counter).counter
        clients := lobby.clients.set place
          ⟨(act client.session lobby.counter).session,
            handlesOf given (act client.session lobby.counter).result ++ client.accepted⟩
        handles := handlesOf given (act client.session lobby.counter).result ++ lobby.handles } := by
  rw [visit, present]

/-- A client that the service refuses does not come in. -/
theorem join_of_error
    {mode : Mode}
    {config : Config}
    {error : Error}
    (answer : (service.connect mode lobby.counter.state).result = .error error) :
    lobby.join service mode config = { lobby with
      counter := (lobby.counter.accept (service.connect mode lobby.counter.state)).2 } := by
  simp only [join, Session.open_, Counter.accept, answer, Except.map]

theorem join_of_ok
    {mode : Mode}
    {config : Config}
    {connection : UInt32}
    (answer : (service.connect mode lobby.counter.state).result = .ok connection) :
    lobby.join service mode config = { lobby with
      counter := (lobby.counter.accept (service.connect mode lobby.counter.state)).2
      clients := lobby.clients ++
        [⟨⟨connection, mode, config, mode.start, none, none, 1, 1⟩, []⟩] } := by
  simp only [join, Session.open_, Counter.accept, answer, Except.map]

/-- Whatever the service answers, the counter takes it. -/
@[simp] theorem counter_join (service : Service State) (lobby : Lobby State) (mode : Mode)
    (config : Config) :
    (lobby.join service mode config).counter =
      (lobby.counter.accept (service.connect mode lobby.counter.state)).2 := by
  cases answer : (service.connect mode lobby.counter.state).result with
  | error error => rw [join_of_error answer]
  | ok connection => rw [join_of_ok answer]

/-- A visit during which an operation proceeds, after some handles were used up. -/
theorem change_visit
    {handles : List Handle}
    (act : Session → Counter State → Step State Value)
    (given : Value → List Handle)
    (fewer : handles ⊆ lobby.handles)
    (proceeds : ∀ session, Session.Proceeds given session lobby.counter
      (act session lobby.counter)) :
    Change lobby ({ lobby with handles := handles }.visit place act given) := by
  let spent : Lobby State := { lobby with handles := handles }
  cases present : spent.clients[place]? with
  | none =>
      rw [visit_of_absent present]
      exact .quiet rfl fewer (.refl _)
  | some client =>
      rw [visit_of_present present]
      obtain ⟨seen, early, late, progress, known⟩ := proceeds client.session
      refine .acted place client _ _ seen present rfl ?_ early late progress known
      intro handle member
      rcases List.mem_append.mp member with new | old
      · exact List.mem_append_left _ new
      · exact List.mem_append_right _ (fewer old)

/-- Closing a closed session changes nothing. -/
theorem visit_closing_of_closed
    (service : Service State)
    (present : lobby.clients[place]? = some client)
    (stored : client.session.storedPhase = .closed) :
    lobby.visit place (closing service) (fun _ => []) = lobby := by
  obtain ⟨inside, found⟩ := List.getElem?_eq_some_iff.mp present
  have kept : lobby.clients.set place client = lobby.clients := by
    rw [← found]
    exact List.set_getElem_self inside
  rw [visit_of_present present, closing, Session.close_of_closed stored]
  show { lobby with clients := lobby.clients.set place client } = lobby
  rw [kept]

/-- Closing another session leaves it closed, and its client has the same requests. -/
theorem visit_closing_of_ne
    (service : Service State)
    (present : lobby.clients[place]? = some client)
    (stored : client.session.storedPhase ≠ .closed) :
    lobby.visit place (closing service) (fun _ => []) =
      { counter := (client.session.close service lobby.counter).2
        clients := lobby.clients.set place ⟨client.session.closed, client.accepted⟩
        handles := lobby.handles } := by
  obtain ⟨closed, -⟩ := @Session.close_of_ne client.session State lobby.counter service stored
  rw [visit_of_present present, ← closed]
  rfl

theorem change_closing (service : Service State) (lobby : Lobby State) (place : Nat) :
    Change lobby (lobby.visit place (closing service) fun _ => []) := by
  cases present : lobby.clients[place]? with
  | none =>
      rw [visit_of_absent present]
      exact .quiet rfl (List.Subset.refl _) (.refl _)
  | some client =>
      by_cases stored : client.session.storedPhase = .closed
      · rw [visit_closing_of_closed service present stored]
        exact .quiet rfl (List.Subset.refl _) (.refl _)
      · rw [visit_closing_of_ne service present stored]
        exact .closed place client present rfl (List.Subset.refl _) (Session.close_of_ne stored).2

theorem change_join (service : Service State) (lobby : Lobby State) (mode : Mode)
    (config : Config) :
    Change lobby (lobby.join service mode config) := by
  have later := Session.later_accept lobby.counter (service.connect mode lobby.counter.state)
  cases answer : (service.connect mode lobby.counter.state).result with
  | error error =>
      rw [join_of_error answer]
      exact .quiet rfl (List.Subset.refl _) later
  | ok connection =>
      rw [join_of_ok answer]
      exact .joined connection mode config rfl rfl later

/-- Every move is one of these changes. -/
theorem change_step (sound : lobby.Sound) (move : Move Turn) :
    Change lobby (step service turns lobby move) := by
  cases move with
  | open_ mode config => exact change_join service lobby mode config
  | load place program =>
      exact change_visit (fun session => session.loadContainer service program) _
        (List.Subset.refl _) fun _ => Session.proceeds_loadContainer program lobby.counter
  | loadFile place contents =>
      exact change_visit (fun session => session.loadFile service contents) _
        (List.Subset.refl _) fun _ => Session.proceeds_loadFile contents lobby.counter
  | submit place inputs =>
      exact change_visit (fun session => session.submit service inputs) _
        (List.Subset.refl _) fun _ => Session.proceeds_submit inputs lobby.counter
  | compile place description =>
      exact change_visit (fun session => session.submitCompile service description) _
        (List.Subset.refl _) fun _ => Session.proceeds_submitCompile description lobby.counter
  | wait place handle timeout =>
      simp only [step]
      split
      · next given =>
        obtain ⟨owner, accepted⟩ := sound.given handle given
        exact change_visit (fun session => session.wait handle timeout) _ List.erase_subset
          fun _ => Session.proceeds_wait (sound.known owner handle accepted) timeout
      · exact .quiet rfl (List.Subset.refl _) (.refl _)
  | waitFor handle timeout =>
      simp only [step]
      split
      · next given =>
        obtain ⟨owner, accepted⟩ := sound.given handle given
        exact .quiet rfl List.erase_subset
          (Slots.later_wait (sound.known owner handle accepted) timeout)
      · exact .quiet rfl (List.Subset.refl _) (.refl _)
  | close place => exact change_closing service lobby place
  | turn turn => exact .quiet rfl (List.Subset.refl _) (Session.later_accept _ _)

/-- A client that acts is the only one that changes. -/
theorem getElem?_set_of_present
    {clients : List Client}
    (present : clients[place]? = some client)
    (changed : Client)
    (other : Nat) :
    (clients.set place changed)[other]? =
      if other = place then some changed else clients[other]? := by
  obtain ⟨inside, -⟩ := List.getElem?_eq_some_iff.mp present
  rw [List.getElem?_set]
  by_cases same : other = place
  · simp [same, inside]
  · simp [same, Ne.symm same]

/-- A client at a counter that somebody has joined was there before, or has just come. -/
theorem getElem?_append_singleton
    {clients : List Client}
    {newcomer : Client}
    (present : (clients ++ [newcomer])[place]? = some client) :
    clients[place]? = some client ∨ place = clients.length ∧ client = newcomer := by
  rw [List.getElem?_append] at present
  split at present
  · exact .inl present
  · next behind =>
    obtain ⟨first, found⟩ := List.getElem?_eq_some_iff.mp present
    have first : place - clients.length < 1 := first
    refine .inr ⟨by omega, ?_⟩
    exact List.mem_singleton.mp (List.mem_of_getElem? present)

theorem getElem?_append_of_some
    {clients : List Client}
    (present : clients[place]? = some client)
    (others : List Client) :
    (clients ++ others)[place]? = some client := by
  obtain ⟨inside, found⟩ := List.getElem?_eq_some_iff.mp present
  rw [List.getElem?_append_left inside, present]

/-- What a change makes of one client. -/
inductive Affects (lobby next : Lobby State) (client after : Client) : Prop where
  | kept
      (same : after = client)
  | acted (session : Session) (placed : List Handle) (seen : Slots)
      (early : Slots.Later lobby.counter.slots seen)
      (late : Slots.Later seen next.counter.slots)
      (progress : Session.Progress seen client.session session placed)
      (same : after = ⟨session, placed ++ client.accepted⟩)
  | closed
      (later : Slots.Later (client.session.cancelPending lobby.counter.slots)
        next.counter.slots)
      (same : after = ⟨client.session.closed, client.accepted⟩)

/-- Clients never leave, and a change concerns one of them at most. -/
theorem Change.exists_after
    (change : Change lobby next)
    (present : lobby.clients[place]? = some client) :
    ∃ after, next.clients[place]? = some after ∧ Affects lobby next client after := by
  cases change with
  | quiet clients handles later => exact ⟨client, clients ▸ present, .kept rfl⟩
  | joined connection mode config clients handles later =>
      exact ⟨client, clients ▸ getElem?_append_of_some present _, .kept rfl⟩
  | acted actor agent session placed seen found clients handles early late progress given =>
      rw [clients, getElem?_set_of_present found]
      split
      · next same =>
        cases same
        cases present.symm.trans found
        exact ⟨_, rfl, .acted session placed seen early late progress rfl⟩
      · exact ⟨client, present, .kept rfl⟩
  | closed actor agent found clients handles later =>
      rw [clients, getElem?_set_of_present found]
      split
      · next same =>
        cases same
        cases present.symm.trans found
        exact ⟨_, rfl, .closed later rfl⟩
      · exact ⟨client, present, .kept rfl⟩

/-- A client that is there after a change was there before, or has just come. -/
theorem Change.exists_before
    {after : Client}
    (change : Change lobby next)
    (present : next.clients[place]? = some after) :
    (∃ client, lobby.clients[place]? = some client ∧ Affects lobby next client after) ∨
      ∃ connection mode config,
        after = ⟨⟨connection, mode, config, mode.start, none, none, 1, 1⟩, []⟩ := by
  cases change with
  | quiet clients handles later =>
      rw [clients] at present
      exact .inl ⟨after, present, .kept rfl⟩
  | joined connection mode config clients handles later =>
      rw [clients] at present
      rcases getElem?_append_singleton present with old | ⟨-, rfl⟩
      · exact .inl ⟨after, old, .kept rfl⟩
      · exact .inr ⟨connection, mode, config, rfl⟩
  | acted actor agent session placed seen found clients handles early late progress given =>
      rw [clients, getElem?_set_of_present found] at present
      split at present
      · next same =>
        cases same
        cases present
        exact .inl ⟨agent, found, .acted session placed seen early late progress rfl⟩
      · exact .inl ⟨after, present, .kept rfl⟩
  | closed actor agent found clients handles later =>
      rw [clients, getElem?_set_of_present found] at present
      split at present
      · next same =>
        cases same
        cases present
        exact .inl ⟨agent, found, .closed later rfl⟩
      · exact .inl ⟨after, present, .kept rfl⟩

/-- What is final stays, whatever changes. -/
theorem get_of_change
    {number : Nat}
    (change : Change lobby next)
    (final : (lobby.counter.slots.get number).isFinal = true) :
    next.counter.slots.get number = lobby.counter.slots.get number := by
  cases change with
  | quiet clients handles later => exact later.final number final
  | joined connection mode config clients handles later => exact later.final number final
  | acted actor agent session placed seen found clients handles early late progress given =>
      exact (early.trans late).final number final
  | closed actor agent found clients handles later =>
      have kept := Session.cancelPending_of_isFinal agent.session final
      exact (later.final number (kept ▸ final)).trans kept

theorem accepted_of_clients
    {handle : Handle}
    (clients : next.clients = lobby.clients)
    (accepted : next.Accepted place handle) :
    lobby.Accepted place handle := by
  obtain ⟨client, present, member⟩ := accepted
  exact ⟨client, clients ▸ present, member⟩

theorem sound_empty (state : State) : Sound (empty state) where
  fresh := Slots.fresh_empty
  sound := nofun
  known := by
    rintro place handle ⟨client, present, -⟩
    cases present
  apart := by
    rintro place handle other twin ⟨client, present, -⟩
    cases present
  given := nofun

namespace Sound

/-- Time passes for all clients alike. -/
theorem quiet
    (sound : lobby.Sound)
    (clients : next.clients = lobby.clients)
    (handles : next.handles ⊆ lobby.handles)
    (later : Slots.Later lobby.counter.slots next.counter.slots) :
    next.Sound where
  fresh := sound.fresh.later later
  sound := by
    intro place client present
    rw [clients] at present
    exact (sound.sound place client present).later later
  known := by
    intro place handle accepted
    have known := sound.known place handle (accepted_of_clients clients accepted)
    exact Nat.lt_of_lt_of_le known later.next_le
  apart := by
    intro place handle other twin accepted second
    exact sound.apart place handle other twin (accepted_of_clients clients accepted)
      (accepted_of_clients clients second)
  given := by
    intro handle member
    obtain ⟨place, accepted⟩ := sound.given handle (handles member)
    exact ⟨place, accepted_of_clients clients.symm accepted⟩

/-- When a client acts, its accepted requests are those from before and those that it places. -/
theorem accepted_set_iff
    {session : Session}
    {placed : List Handle}
    (present : lobby.clients[place]? = some client)
    (clients : next.clients = lobby.clients.set place ⟨session, placed ++ client.accepted⟩)
    (other : Nat)
    (handle : Handle) :
    next.Accepted other handle ↔ lobby.Accepted other handle ∨ other = place ∧ handle ∈ placed := by
  unfold Accepted
  rw [clients]
  simp only [getElem?_set_of_present present]
  by_cases same : other = place
  · subst same
    simp [present, or_comm]
  · simp [same]

theorem acted
    {session : Session}
    {placed : List Handle}
    {seen : Slots}
    (sound : lobby.Sound)
    (present : lobby.clients[place]? = some client)
    (clients : next.clients = lobby.clients.set place ⟨session, placed ++ client.accepted⟩)
    (handles : next.handles ⊆ placed ++ lobby.handles)
    (early : Slots.Later lobby.counter.slots seen)
    (late : Slots.Later seen next.counter.slots)
    (progress : Session.Progress seen client.session session placed)
    (given : ∀ handle ∈ placed, handle.slot < next.counter.slots.next) :
    next.Sound := by
  have accepted_iff (other : Nat) (handle : Handle) := accepted_set_iff present clients other handle
  have later := early.trans late
  -- What is new has a slot behind all slots that were given out before.
  have apart : ∀ other twin handle, lobby.Accepted other twin → handle ∈ placed →
      twin.slot ≠ handle.slot := by
    intro other twin handle accepted member same
    have known := sound.known other twin accepted
    have behind := early.next_le
    rw [progress.placed_eq handle member] at same
    simp only at same
    omega
  constructor
  · exact sound.fresh.later later
  · intro other after present'
    rw [clients, getElem?_set_of_present present] at present'
    split at present'
    · cases present'
      have start := (sound.sound place client present).later early
      exact (start.progress (sound.fresh.later early) progress).later late
    · exact (sound.sound other after present').later later
  · intro other handle accepted
    rcases (accepted_iff other handle).mp accepted with old | ⟨-, new⟩
    · exact Nat.lt_of_lt_of_le (sound.known other handle old) later.next_le
    · exact given handle new
  · intro first handle second twin accepted again same
    rcases (accepted_iff first handle).mp accepted with old | ⟨here, new⟩ <;>
      rcases (accepted_iff second twin).mp again with old' | ⟨here', new'⟩
    · exact sound.apart first handle second twin old old' same
    · exact absurd same (apart first handle twin old new')
    · exact absurd same.symm (apart second twin handle old' new)
    · exact ⟨here.trans here'.symm,
        (progress.placed_eq handle new).trans (progress.placed_eq twin new').symm⟩
  · intro handle member
    rcases List.mem_append.mp (handles member) with new | old
    · exact ⟨place, (accepted_iff place handle).mpr (.inr ⟨rfl, new⟩)⟩
    · obtain ⟨other, accepted⟩ := sound.given handle old
      exact ⟨other, (accepted_iff other handle).mpr (.inl accepted)⟩

theorem joined
    {newcomer : Client}
    (sound : lobby.Sound)
    (opened : newcomer.Sound next.counter.slots)
    (unused : newcomer.accepted = [])
    (clients : next.clients = lobby.clients ++ [newcomer])
    (handles : next.handles = lobby.handles)
    (later : Slots.Later lobby.counter.slots next.counter.slots) :
    next.Sound := by
  have accepted_iff : ∀ place handle,
      next.Accepted place handle ↔ lobby.Accepted place handle := by
    intro place handle
    unfold Accepted
    rw [clients]
    constructor
    · rintro ⟨client, present, member⟩
      rcases getElem?_append_singleton present with old | ⟨-, rfl⟩
      · exact ⟨client, old, member⟩
      · rw [unused] at member
        cases member
    · rintro ⟨client, present, member⟩
      exact ⟨client, getElem?_append_of_some present _, member⟩
  constructor
  · exact sound.fresh.later later
  · intro place client present
    rw [clients] at present
    rcases getElem?_append_singleton present with old | ⟨-, rfl⟩
    · exact (sound.sound place client old).later later
    · exact opened
  · intro place handle accepted
    have known := sound.known place handle ((accepted_iff place handle).mp accepted)
    exact Nat.lt_of_lt_of_le known later.next_le
  · intro place handle other twin accepted again
    exact sound.apart place handle other twin ((accepted_iff place handle).mp accepted)
      ((accepted_iff other twin).mp again)
  · intro handle member
    rw [handles] at member
    obtain ⟨place, accepted⟩ := sound.given handle member
    exact ⟨place, (accepted_iff place handle).mpr accepted⟩

/-- A session that is closed gives up its own request and no other. -/
theorem closed
    (sound : lobby.Sound)
    (present : lobby.clients[place]? = some client)
    (clients : next.clients = lobby.clients.set place ⟨client.session.closed, client.accepted⟩)
    (handles : next.handles ⊆ lobby.handles)
    (later : Slots.Later (client.session.cancelPending lobby.counter.slots)
      next.counter.slots) :
    next.Sound := by
  have own := sound.sound place client present
  have accepted_iff : ∀ other handle,
      next.Accepted other handle ↔ lobby.Accepted other handle := by
    intro other handle
    simpa using @accepted_set_iff _ _ _ _ _ client.session.closed [] present clients other handle
  have next_le : lobby.counter.slots.next ≤ next.counter.slots.next := by
    have le := later.next_le
    rwa [Session.next_cancelPending] at le
  constructor
  · refine (Session.fresh_cancelPending sound.fresh ?_).later later
    intro handle pending
    exact sound.known place handle ⟨client, present, own.mem_of_pending pending⟩
  · intro other after present'
    rw [clients, getElem?_set_of_present present] at present'
    split at present'
    · cases present'
      exact own.closed later
    · next different =>
      refine Client.Sound.later ?_ later
      refine (sound.sound other after present').frame
        (fun number final => Session.cancelPending_of_isFinal _ final) ?_
      intro handle pending cancelled
      rwa [Session.cancelPending_of_ne] at cancelled
      intro twin mine same
      have theirs := (sound.sound other after present').mem_of_pending pending
      exact different (sound.apart other handle place twin ⟨after, present', theirs⟩
        ⟨client, present, own.mem_of_pending mine⟩ same).1
  · intro other handle accepted
    have known := sound.known other handle ((accepted_iff other handle).mp accepted)
    exact Nat.lt_of_lt_of_le known next_le
  · intro first handle second twin accepted again
    exact sound.apart first handle second twin ((accepted_iff first handle).mp accepted)
      ((accepted_iff second twin).mp again)
  · intro handle member
    obtain ⟨other, accepted⟩ := sound.given handle (handles member)
    exact ⟨other, (accepted_iff other handle).mpr accepted⟩

/-- Every change leaves the lobby sound. -/
theorem change (sound : lobby.Sound) (change : Change lobby next) : next.Sound := by
  cases change with
  | quiet clients handles later => exact sound.quiet clients handles later
  | joined connection mode config clients handles later =>
      exact sound.joined (.opened _ connection mode config) rfl clients handles later
  | acted place client session placed seen present clients handles early late progress given =>
      exact sound.acted present clients handles early late progress given
  | closed place client present clients handles later =>
      exact sound.closed present clients handles later

theorem step (sound : lobby.Sound) (move : Move Turn) :
    (Lobby.step service turns lobby move).Sound :=
  sound.change (change_step sound move)

theorem run (sound : lobby.Sound) (moves : List (Move Turn)) :
    (Lobby.run service turns lobby moves).Sound := by
  induction moves generalizing lobby with
  | nil => exact sound
  | cons move moves inductionHypothesis => exact inductionHypothesis (sound.step move)

end Sound

/-- A client stays true to what it was, whatever changes. -/
theorem follows_change
    (change : Change lobby next)
    (present : lobby.clients[place]? = some client) :
    ∃ after, next.clients[place]? = some after ∧
      client.Follows lobby.counter.slots next.counter.slots after := by
  obtain ⟨after, found, affects⟩ := change.exists_after present
  refine ⟨after, found, ?_⟩
  cases affects with
  | kept same =>
      rw [same]
      exact .of_kept (fun _ final => get_of_change change final) client
  | acted session placed seen early late progress same =>
      rw [same]
      exact (Client.Follows.of_kept early.final client).trans
        ((Client.Follows.of_progress progress).trans (.of_kept late.final _))
  | closed later same =>
      rw [same]
      exact .of_closed _ _ client

theorem follows_run
    (sound : lobby.Sound)
    (present : lobby.clients[place]? = some client)
    (moves : List (Move Turn)) :
    ∃ after, (run service turns lobby moves).clients[place]? = some after ∧
      client.Follows lobby.counter.slots (run service turns lobby moves).counter.slots after := by
  induction moves generalizing lobby client with
  | nil => exact ⟨client, present, .refl _ client⟩
  | cons move moves inductionHypothesis =>
      have change : Change lobby (step service turns lobby move) := change_step sound move
      obtain ⟨middle, found, first⟩ := follows_change change present
      obtain ⟨after, last, second⟩ := inductionHypothesis (sound.change change) found
      exact ⟨after, last, first.trans second⟩

/-- All clients number their requests. -/
def Numbered (count : Nat) (lobby : Lobby State) : Prop :=
  ∀ (place : Nat) (client : Client), lobby.clients[place]? = some client → client.Numbered count

theorem numbered_empty (state : State) : Numbered 0 (empty state) := by
  intro place client present
  cases present

theorem Numbered.change
    {count : Nat}
    (numbered : lobby.Numbered count)
    (change : Change lobby next) :
    next.Numbered (count + 1) := by
  intro place after present
  rcases change.exists_before present with
    ⟨client, before, affects⟩ | ⟨connection, mode, config, rfl⟩
  · have numbered := numbered place client before
    cases affects with
    | kept same => exact same ▸ numbered.mono (Nat.le_succ _)
    | acted session placed seen early late progress same =>
        rw [same]
        exact numbered.progress progress
    | closed later same =>
        rw [same]
        exact numbered.closed.mono (Nat.le_succ _)
  · exact .opened _ connection mode config

theorem Numbered.run
    {count : Nat}
    (numbered : lobby.Numbered count)
    (sound : lobby.Sound)
    (moves : List (Move Turn)) :
    (Lobby.run service turns lobby moves).Numbered (count + moves.length) := by
  induction moves generalizing lobby count with
  | nil => exact numbered
  | cons move moves inductionHypothesis =>
      have change : Change lobby (Lobby.step service turns lobby move) := change_step sound move
      have rest := inductionHypothesis (numbered.change change) (sound.change change)
      rwa [Nat.add_assoc, Nat.add_comm 1] at rest

/-- How a client and its session stand after some count of moves. -/
structure Disciplined (service : Service State) (lobby : Lobby State) (count : Nat)
    (client : Client) : Prop where
  pending_iff : client.session.phase lobby.counter.slots = .pending ↔
    ∃ handle, client.accepted.head? = some handle ∧ handle.IsOutstanding lobby.counter.slots
  alone : ∀ handle ∈ client.accepted.tail, ¬ handle.IsOutstanding lobby.counter.slots
  refuses : client.session.phase lobby.counter.slots ∈ [.pending, .failed, .closed] →
    client.session.Refuses service lobby.counter
  fits : client.session.Fits (client.session.phase lobby.counter.slots)
  numbered : client.Numbered count
  increasing : count < UInt64.size →
    client.accepted.Pairwise fun later earlier => earlier.request < later.request

theorem Sound.disciplined
    {count : Nat}
    (sound : lobby.Sound)
    (numbered : lobby.Numbered count)
    (present : lobby.clients[place]? = some client) :
    Disciplined service lobby count client where
  pending_iff := (sound.sound place client present).phase_eq_pending_iff
  alone := fun handle member =>
    Slot.isFinal_iff.mp ((sound.sound place client present).settled_of_mem_tail handle member)
  refuses := Session.refuses_of_phase
  fits := (sound.sound place client present).fits_phase
  numbered := numbered place client present
  increasing := (numbered place client present).increasing

/-- In every state that moves lead to, sessions are disciplined, and they stay true to it
whatever moves come next. -/
theorem sessions_disciplined
    {state : State}
    {moves : List (Move Turn)}
    (present : (run service turns (empty state) moves).clients[place]? = some client)
    (further : List (Move Turn)) :
    Disciplined service (run service turns (empty state) moves) moves.length client ∧
      ∃ after,
        (run service turns (empty state) (moves ++ further)).clients[place]? = some after ∧
        client.Follows (run service turns (empty state) moves).counter.slots
          (run service turns (empty state) (moves ++ further)).counter.slots after := by
  have sound : (run service turns (empty state) moves).Sound := (sound_empty state).run moves
  have numbered : (run service turns (empty state) moves).Numbered (0 + moves.length) :=
    (numbered_empty state).run (sound_empty state) moves
  rw [Nat.zero_add] at numbered
  refine ⟨sound.disciplined numbered present, ?_⟩
  rw [run, List.foldl_append]
  exact follows_run sound present further

/-- A description is compiled, and the session waits for the outcome. -/
def compiling : List (Move Nat) :=
  [.open_ .compileOnly .standard, .compile 0 [], .turn 0, .wait 0 ⟨0, 1⟩ 5000]

/-- The description is no network, so the session fails; it can still be closed. -/
theorem compiling_disciplined :
    ∃ client,
      (run Loopback.service Loopback.finish (empty (.ofBehavior .sound))
        compiling).clients[0]? = some client ∧
      Disciplined Loopback.service
        (run Loopback.service Loopback.finish (empty (.ofBehavior .sound)) compiling) 4 client := by
  have present : ∃ client,
      (run Loopback.service Loopback.finish (empty (.ofBehavior .sound))
        compiling).clients[0]? = some client := ⟨_, rfl⟩
  obtain ⟨client, present⟩ := present
  exact ⟨client, present, (sessions_disciplined present [.close 0]).1⟩

end Lobby
end Execution
end TileProgram
