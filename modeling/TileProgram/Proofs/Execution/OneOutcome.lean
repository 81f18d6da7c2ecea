import TileProgram.Proofs.Execution.Rendezvous

/-!
# Exactly one outcome for each request

Whatever the parties at a slot do, and in whatever order, at most one outcome
is stored, every party learns truthfully what became of its part, and a wait
ends in the way that the history determines.  As soon as there is something for
the waiter it does not sleep any more, and its next turn with the lock returns.
When nobody else acts a wait is a single look at the slot.
-/

namespace TileProgram
namespace Execution
namespace Rendezvous

/-- The steps that a wait has left when there is something for it. -/
def Place.remaining : Place → Nat
  | .roused _ => 4
  | .entering => 3
  | .checked _ => 3
  | .looking => 2
  | .holding _ => 1
  | .asleep => 0
  | .done _ => 0

namespace System

variable {request : UInt64} {greatest : Nat} {history : List Event} {system next : System}
  {call : Call} {place : Place}

/-- A lock that nobody holds lets the waiter in. -/
theorem enter_unheld
    (unvisited : ∀ visit, system.lock ≠ .visitor visit)
    (outside : system.lock ≠ .waiter)
    (call : Call)
    (place : Place) :
    system.enter call place = some ({ system with lock := .waiter }.moved call place) := by
  unfold enter
  cases held : system.lock with
  | free => rfl
  | visitor visit => exact absurd held (unvisited visit)
  | waiter => exact absurd held outside

/-- A wait that has something in its hands returns what a look at it gives. -/
theorem consider_settled
    {found : Slot}
    (settled : found ≠ .waiting) :
    ∃ outcome, (found.look request (milliseconds call.timeout) false).1 = some outcome ∧
      system.consider request call found = system.giveBack call found found.take outcome := by
  cases found with
  | waiting => exact absurd rfl settled
  | _ => exact ⟨_, rfl, rfl⟩

/-- A check that comes out late leaves a slot with something in it alone. -/
theorem giveUp_settled (settled : system.slot ≠ .waiting) :
    system.giveUp call = (system.moved call .looking, some (.late false)) := by
  have ready : system.slot.isReady = true := by
    cases slot : system.slot with
    | waiting => exact absurd slot settled
    | _ => rfl
  rw [giveUp, if_pos ready]

/-- A step of a wait that is not the last one: the lock is kept, and the slot
stands as it stood. -/
def Keeps (history : List Event) (call : Call) (place : Place) (next : System)
    (event : Option Event) : Prop :=
  ∃ later : Place, next.waiter = some ⟨call, later⟩ ∧ later.isDone = false ∧
    later.remaining + 1 = place.remaining ∧ next.lock = .waiter ∧
    standing (event.toList ++ history) = standing history

/-- When there is something for the waiter it goes on, and either keeps the lock
or returns what a look at the slot gives. -/
theorem proceed_settled
    (sound : Sound request history system)
    (present : system.waiter = some ⟨call, place⟩)
    (running : place.isDone = false)
    (settled : standing history ≠ .waiting)
    (unvisited : ∀ visit, system.lock ≠ .visitor visit) :
    ∃ next event, system.proceed request = some (next, event) ∧
      (Keeps history call place next event ∨
        place.remaining = 1 ∧ ∃ outcome, next.waiter = some ⟨call, .done outcome⟩ ∧
          ((standing history).look request (milliseconds call.timeout) false).1 =
            some outcome) := by
  have fits := sound.fits
  have holder := sound.holder
  rw [present] at fits holder
  have outside : place.holdsLock = false → system.lock ≠ .waiter := by
    intro without held
    obtain ⟨waiting, same, holds⟩ := holder.mp held
    cases same
    rw [without] at holds
    cases holds
  have inside : place.holdsLock = true → system.lock = .waiter :=
    fun holds => holder.mpr ⟨_, rfl, holds⟩
  unfold proceed
  rw [present]
  cases place with
  | entering =>
      have entered := enter_unheld unvisited (outside rfl) call .looking
      exact ⟨_, _, Option.map_eq_some_iff.mpr ⟨_, entered, rfl⟩,
        .inl ⟨.looking, rfl, rfl, rfl, rfl, rfl⟩⟩
  | looking =>
      exact ⟨_, _, rfl, .inl ⟨.holding system.slot, rfl, rfl, rfl, inside rfl, rfl⟩⟩
  | holding found =>
      obtain ⟨rfl, -⟩ := fits
      obtain ⟨outcome, looked, considered⟩ := @consider_settled request system call _ settled
      exact ⟨_, _, congrArg some considered, .inr ⟨rfl, outcome, rfl, looked⟩⟩
  | checked late =>
      cases late with
      | true =>
          have stands : system.slot = standing history := fits
          rw [← stands] at settled
          refine ⟨_, _, congrArg some (giveUp_settled settled), .inl ?_⟩
          refine ⟨.looking, rfl, rfl, rfl, inside rfl, ?_⟩
          show (standing history).expire = standing history
          rw [← stands]
          cases slot : system.slot with
          | waiting => exact absurd slot settled
          | _ => rfl
      | false => exact ⟨_, _, rfl, .inl ⟨.looking, rfl, rfl, rfl, inside rfl, rfl⟩⟩
  | asleep => exact absurd (fits.1.symm.trans fits.2) settled
  | roused late =>
      have entered := enter_unheld unvisited (outside rfl) call (.checked late)
      exact ⟨_, _, Option.map_eq_some_iff.mpr ⟨_, entered, rfl⟩,
        .inl ⟨.checked late, rfl, rfl, rfl, rfl, rfl⟩⟩
  | done outcome => cases running

/-- An action, and those after it. -/
theorem perform_cons
    {action : Action}
    {rest : List Action}
    {event : Option Event}
    {events : List Event}
    {last : System}
    (stepped : system.step request greatest action = some (next, event))
    (performed : perform request greatest rest next = some (last, events)) :
    perform request greatest (action :: rest) system = some (last, events ++ event.toList) := by
  simp only [perform, stepped, performed, Option.bind_eq_bind, Option.bind_some, Option.pure_def]

/-- The next turn of a waiter returns when there is something for it. -/
theorem returns_of_settled
    (sound : Sound request history system)
    (present : system.waiter = some ⟨call, place⟩)
    (running : place.isDone = false)
    (settled : standing history ≠ .waiting)
    (unvisited : ∀ visit, system.lock ≠ .visitor visit) :
    ∃ last events outcome,
      perform request greatest (List.replicate place.remaining .proceed) system =
        some (last, events) ∧
      last.waiter = some ⟨call, .done outcome⟩ ∧
      ((standing history).look request (milliseconds call.timeout) false).1 = some outcome := by
  -- The waiter keeps the lock from one step to the next, so nobody comes in between.
  generalize count : place.remaining = steps
  induction steps generalizing system history place with
  | zero =>
      obtain ⟨next, event, -, ⟨later, -, -, fewer, -⟩ | ⟨last, -⟩⟩ :=
        proceed_settled sound present running settled unvisited
      · omega
      · omega
  | succ steps inductionHypothesis =>
      obtain ⟨next, event, proceeded, moves⟩ :=
        proceed_settled sound present running settled unvisited
      have nextSound := sound_proceed sound proceeded
      rcases moves with ⟨later, present, running, fewer, held, stands⟩ | ⟨last, outcome, returned⟩
      · obtain ⟨final, events, outcome, performed, returned, looked⟩ :=
          inductionHypothesis nextSound present running (stands ▸ settled)
            (fun visit other => by rw [held] at other; cases other) (by omega)
        rw [stands] at looked
        exact ⟨final, events ++ event.toList, outcome, perform_cons proceeded performed, returned,
          looked⟩
      · have none : steps = 0 := by omega
        subst none
        exact ⟨next, [] ++ event.toList, outcome, perform_cons proceeded rfl, returned⟩

/-- A waiter for which there is something never sleeps again. -/
theorem awake_of_settled
    {actions : List Action}
    {events : List Event}
    (sound : Sound request history system)
    (settled : standing history ≠ .waiting)
    (performed : perform request greatest actions system = some (next, events))
    (call : Call) :
    next.waiter ≠ some ⟨call, .asleep⟩ := by
  intro asleep
  have later := sound_perform sound performed
  have fits := later.fits
  rw [asleep] at fits
  exact standing_ne_waiting (List.suffix_append events history) settled (fits.1.symm.trans fits.2)

end System

/-- What the history of a slot says about its request. -/
structure OneOutcome (request : UInt64) (history : List Event) : Prop where
  completed : ∀ outcome accepted earlier, .completed outcome accepted :: earlier <:+ history →
    (accepted = true ↔ ∀ event ∈ earlier, event.settles = false) ∧
      (accepted = true → standing (.completed outcome accepted :: earlier) = .ready outcome)
  dropped : ∀ accepted earlier, .dropped accepted :: earlier <:+ history →
    (accepted = true ↔ ∀ event ∈ earlier, event.settles = false) ∧
      (accepted = true →
        standing (.dropped accepted :: earlier) = .ready (.error (.device .dropped)))
  once : (stored history).length ≤ 1
  cancelled : ∀ effective earlier, .cancelled effective :: earlier <:+ history →
    (effective = true ↔ (standing earlier).isFinal = false)
  observed : ∀ status ready earlier, .observed status ready :: earlier <:+ history →
    (standing earlier).status = status ∧ (standing earlier).isReady = ready
  returned : ∀ found outcome earlier, .returned found outcome :: earlier <:+ history →
    Ends request earlier found outcome ∧ ∀ before other, .returned before other ∉ earlier
  final : ∀ earlier, earlier <:+ history → (standing earlier).isFinal = true →
    standing history = standing earlier

/-- How a slot and its waiter are at any time.  Whoever may look at the slot
sees it as it stands; a deadline counts as passed only when it has; and a waiter
for which there is something does not sleep and returns with its next turn. -/
structure Attended (request : UInt64) (greatest : Nat) (history : List Event) (system : System) :
    Prop where
  visible : system.lock ≠ .waiter → system.slot = standing history
  overdue : ∀ stillWaiting, .late stillWaiting ∈ history →
    ∃ waiting, system.waiter = some waiting ∧ waiting.call.isLate system.now = true
  awake : standing history ≠ .waiting → ∀ actions next events call,
    System.perform request greatest actions system = some (next, events) →
      next.waiter ≠ some ⟨call, .asleep⟩
  returns : standing history ≠ .waiting → ∀ call place,
    system.waiter = some ⟨call, place⟩ → place.isDone = false →
      (∀ visit, system.lock ≠ .visitor visit) →
        ∃ last events outcome,
          System.perform request greatest (List.replicate place.remaining .proceed) system =
            some (last, events) ∧
          last.waiter = some ⟨call, .done outcome⟩ ∧
          ((standing history).look request (milliseconds call.timeout) false).1 = some outcome

/-- A faithful history says what became of a request. -/
theorem oneOutcome_of_faithful
    {request : UInt64}
    {history : List Event}
    (faithful : Faithful request history) :
    OneOutcome request history where
  completed := by
    intro outcome accepted earlier suffix
    obtain ⟨answer, before⟩ := faithful_cons.mp (faithful.earlier suffix)
    exact deliver_first before answer
  dropped := by
    intro accepted earlier suffix
    obtain ⟨answer, before⟩ := faithful_cons.mp (faithful.earlier suffix)
    exact deliver_first before answer
  once := length_stored_le faithful
  cancelled := by
    intro effective earlier suffix
    have answer : (standing earlier).isCancellable = effective := faithful _ _ suffix
    rw [← answer]
    cases standing earlier <;> simp [Slot.isCancellable, Slot.isFinal]
  observed := fun status ready earlier suffix => faithful _ _ suffix
  returned := by
    intro found outcome earlier suffix
    obtain ⟨-, -, once⟩ := faithful _ _ suffix
    exact ⟨ends_of_faithful (faithful.earlier suffix), once⟩
  final := fun earlier suffix final => standing_of_final suffix final

/-- Exactly one outcome for each request, whatever happens in whatever order. -/
theorem exactly_one_outcome
    {request : UInt64}
    {greatest now : Nat}
    {actions : List Action}
    {system : System}
    {history : List Event}
    (performed : System.perform request greatest actions (.start now) = some (system, history)) :
    OneOutcome request history ∧ Attended request greatest history system := by
  have sound := System.sound_perform (System.sound_start request now) performed
  rw [List.append_nil] at sound
  refine ⟨oneOutcome_of_faithful sound.faithful, sound.slot_eq, sound.overdue, ?_, ?_⟩
  · exact fun settled actions next events call performed =>
      System.awake_of_settled sound settled performed call
  · exact fun settled call place present running unvisited =>
      System.returns_of_settled sound present running settled unvisited

/-- The caller waits for a millisecond and falls asleep; the request is completed
and looked at, and the waiter returns. -/
def meeting : List Action :=
  [ .call 1000000, .proceed, .proceed, .proceed, .pass 5, .ask (.complete (.ok ⟨1, [], []⟩)), .act,
    .ask .observe, .act, .proceed, .proceed, .proceed, .proceed ]

/-- All parties meet. -/
theorem meeting_outcome :
    ∃ system history, System.perform 1 1000000000 meeting (.start 0) = some (system, history) ∧
      OneOutcome 1 history ∧ Attended 1 1000000000 history system := by
  have performed : ∃ system history,
      System.perform 1 1000000000 meeting (.start 0) = some (system, history) := ⟨_, _, rfl⟩
  obtain ⟨system, history, performed⟩ := performed
  exact ⟨system, history, performed, exactly_one_outcome performed⟩

/-- An action of the waiter, or of nobody. -/
def Action.isSolitary : Action → Bool
  | .ask _ => false
  | .act => false
  | _ => true

namespace System

variable {request : UInt64} {greatest : Nat} {system next : System} {slot : Slot}
  {call : Call} {outcome : Outcome}

/-- What a wait has made of a slot when nobody else acts: it has at most given
it up, and when it has returned it has looked at it once. -/
def Alone (request : UInt64) (slot : Slot) (system : System) : Prop :=
  match system.waiter with
  | none => system.slot = slot
  | some ⟨call, place⟩ =>
      match place with
      | .holding found => found.expire = slot.expire ∧ system.slot = .waiting
      | .done outcome => (outcome, system.slot) = slot.wait request (milliseconds call.timeout)
      | _ => system.slot.expire = slot.expire

/-- A wait that puts back what it has taken has looked at the slot once. -/
theorem wait_of_look
    {found : Slot}
    {timeout : Nat}
    (same : found.expire = slot.expire)
    (settled : found ≠ .waiting)
    (looked : (found.look request timeout false).1 = some outcome) :
    (outcome, found.take) = slot.wait request timeout := by
  have kept : found.expire = found := by
    cases found with
    | waiting => exact absurd rfl settled
    | _ => rfl
  have once : slot.look request timeout true = (some outcome, found.take) := by
    rw [Slot.look_late, ← same, kept]
    exact Prod.ext looked (found.look_snd request timeout false)
  rw [Slot.wait, once]

/-- A wait that takes the lock changes nothing else. -/
theorem eq_of_enter
    {place : Place}
    (entered : system.enter call place = some next) :
    next = { system with lock := .waiter }.moved call place := by
  unfold enter at entered
  split at entered
  · exact (Option.some.inj entered).symm
  · cases entered

/-- A check that comes out late gives up the slot at most. -/
theorem alone_giveUp (same : system.slot.expire = slot.expire) :
    Alone request slot (system.giveUp call).1 := by
  unfold giveUp
  split
  · exact same
  · next unready =>
    cases found : system.slot with
    | waiting =>
        rw [found] at same
        exact same
    | _ => exact absurd (by rw [found]; rfl) unready

/-- A wait with the content of the slot in its hands stays alone. -/
theorem alone_consider
    {found : Slot}
    (same : found.expire = slot.expire)
    (emptied : system.slot = .waiting) :
    Alone request slot (system.consider request call found).1 := by
  by_cases waits : found = .waiting
  · subst waits
    rw [consider]
    split
    · exact (congrArg Slot.expire emptied).trans same
    · exact (congrArg Slot.expire emptied).trans same
  · obtain ⟨outcome, looked, considered⟩ := @consider_settled request system call found waits
    rw [considered]
    exact wait_of_look same waits looked

/-- Each step of a wait that is alone leaves it so. -/
theorem alone_proceed
    {event : Option Event}
    (alone : Alone request slot system)
    (proceeded : system.proceed request = some (next, event)) :
    Alone request slot next := by
  unfold Alone at alone
  cases advances_of_proceed proceeded with
  | entered present enters =>
      rw [present] at alone
      rw [eq_of_enter enters]
      exact alone
  | took present =>
      rw [present] at alone
      exact ⟨alone, rfl⟩
  | considered present =>
      rw [present] at alone
      exact alone_consider alone.1 alone.2
  | gaveUp present =>
      rw [present] at alone
      exact alone_giveUp alone
  | looksAgain present =>
      rw [present] at alone
      exact alone
  | reentered present enters =>
      rw [present] at alone
      rw [eq_of_enter enters]
      exact alone

/-- So does whatever happens next if nobody else acts. -/
theorem alone_step
    {action : Action}
    {event : Option Event}
    (solitary : action.isSolitary = true)
    (alone : Alone request slot system)
    (stepped : system.step request greatest action = some (next, event)) :
    Alone request slot next := by
  cases action with
  | pass duration =>
      cases stepped
      exact alone
  | ask visit => cases solitary
  | act => cases solitary
  | call timeout =>
      obtain ⟨called, calls, equal⟩ := Option.map_eq_some_iff.mp stepped
      cases equal
      unfold Rendezvous.System.call at calls
      unfold Alone at alone
      split at calls
      · next absent =>
        rw [absent] at alone
        cases calls
        exact congrArg Slot.expire alone
      · cases calls
  | proceed => exact alone_proceed alone stepped
  | rouse late =>
      obtain ⟨roused, rouses, equal⟩ := Option.map_eq_some_iff.mp stepped
      cases equal
      unfold rouse at rouses
      unfold Alone at alone
      split at rouses
      · next present =>
        rw [present] at alone
        split at rouses
        · cases rouses
        · cases rouses
          exact alone
      · cases rouses

/-- A wait is a single look at the slot if nobody else acts, however often it
wakes up before it returns. -/
theorem wait_of_solitary
    {actions : List Action}
    {events : List Event}
    (solitary : ∀ action ∈ actions, action.isSolitary = true)
    (absent : system.waiter = none)
    (performed : perform request greatest actions system = some (next, events))
    (returned : next.waiter = some ⟨call, .done outcome⟩) :
    (outcome, next.slot) = system.slot.wait request (milliseconds call.timeout) := by
  have alone : Alone request system.slot system := by
    unfold Alone
    rw [absent]
  generalize system.slot = slot at alone ⊢
  clear absent
  induction actions generalizing system events with
  | nil =>
      cases performed
      unfold Alone at alone
      rwa [returned] at alone
  | cons action rest inductionHypothesis =>
      rw [perform, Option.bind_eq_bind, Option.bind_eq_some_iff] at performed
      obtain ⟨⟨middle, event⟩, stepped, performed⟩ := performed
      obtain ⟨⟨last, later⟩, remaining, equal⟩ := Option.bind_eq_some_iff.mp performed
      cases equal
      obtain ⟨first, others⟩ := List.forall_mem_cons.mp solitary
      exact inductionHypothesis others remaining (alone_step first alone stepped)

end System
end Rendezvous
end Execution
end TileProgram
