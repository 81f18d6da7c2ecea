import TileProgram.Execution.Completion

/-!
# Parties that meet at a slot

A service completes a request or drops its completer, the caller waits, and
others cancel the request or look at it.  They act in any order.  A lock guards
the slot; it has one holder at a time, and only a holder reads or writes.

A wait takes the content out of the slot, looks at it and puts it back.  In
between the slot seems to be waiting.  As long as there is nothing for it the
waiter sleeps and leaves the lock to others; it may wake up for no reason.
-/

namespace TileProgram
namespace Execution

/-- Whether a cancellation changes a slot. -/
def Slot.isCancellable : Slot → Bool
  | .waiting => true
  | .ready _ => true
  | _ => false

namespace Rendezvous

/-- What a completer that is dropped without being used delivers. -/
def droppedOutcome : Outcome := .error (.device .dropped)

/-- What somebody other than the waiter takes the lock for. -/
inductive Visit where
  | complete (outcome : Outcome)
  | dropCompleter
  | cancel
  | observe

/-- Who holds the lock. -/
inductive Lock where
  | free
  | visitor (visit : Visit)
  | waiter

/-- A call of a wait: its timeout in nanoseconds, and the instant from which on it is late. -/
structure Call where
  timeout : Nat
  deadline : Option Nat
  deriving DecidableEq

/-- Where a wait stands.  At the places `looking`, `holding` and `checked` it holds the lock. -/
inductive Place where
  | entering
  | looking
  | holding (found : Slot)
  | checked (late : Bool)
  | asleep
  | roused (late : Bool)
  | done (outcome : Outcome)

/-- A wait that has been called. -/
structure Waiting where
  call : Call
  place : Place

/-- What took effect: what a party did, and what it was told. -/
inductive Event where
  | completed (outcome : Outcome) (accepted : Bool)
  | dropped (accepted : Bool)
  | cancelled (effective : Bool)
  | observed (status : SlotStatus) (ready : Bool)
  | called (timeout : Nat)
  | late (stillWaiting : Bool)
  | returned (found : Slot) (outcome : Outcome)

/-- A slot with its lock, the clock, and how far the parties are. -/
structure System where
  now : Nat
  slot : Slot
  lock : Lock
  unused : Bool
  waiter : Option Waiting

/-- What may happen next. -/
inductive Action where
  | pass (duration : Nat)
  | ask (visit : Visit)
  | act
  | call (timeout : Nat)
  | proceed
  | rouse (late : Bool)

namespace Call

/-- A call at an instant; a deadline behind the greatest instant is none. -/
def start (greatest now timeout : Nat) : Call :=
  ⟨timeout, if now + timeout ≤ greatest then some (now + timeout) else none⟩

/-- Whether the deadline has passed. -/
def isLate (call : Call) (now : Nat) : Bool :=
  call.deadline.any fun deadline => deadline ≤ now

end Call

/-- A timeout as it is reported: in whole milliseconds, the greatest number if it does not fit. -/
def milliseconds (timeout : Nat) : Nat :=
  min (timeout / 1000000) (UInt64.size - 1)

namespace Visit

/-- Whether a visit uses up the completer. -/
def usesCompleter : Visit → Bool
  | .complete _ => true
  | .dropCompleter => true
  | _ => false

/-- What a visit does: the slot after it, whether the waiter is notified, and what took effect. -/
def act (slot : Slot) : Visit → Slot × Bool × Event
  | .complete outcome =>
      let delivered := slot.deliver outcome
      (delivered.2, delivered.1, .completed outcome delivered.1)
  | .dropCompleter =>
      let delivered := slot.deliver droppedOutcome
      (delivered.2, delivered.1, .dropped delivered.1)
  | .cancel => (slot.cancel, slot.isCancellable, .cancelled slot.isCancellable)
  | .observe => (slot, false, .observed slot.status slot.isReady)

end Visit

namespace System

/-- A new slot, with its completer and its handle. -/
def start (now : Nat) : System :=
  ⟨now, .waiting, .free, true, none⟩

/-- The same system with its waiter at another place. -/
def moved (system : System) (call : Call) (place : Place) : System :=
  { system with waiter := some ⟨call, place⟩ }

/-- Wakes up a waiter that sleeps. -/
def notify (system : System) : System :=
  match system.waiter with
  | some ⟨call, .asleep⟩ => system.moved call (.roused false)
  | _ => system

/-- A visitor takes the lock, if it is free; the completer is used at most once. -/
def ask (system : System) (visit : Visit) : Option System :=
  match system.lock with
  | .free =>
      if visit.usesCompleter && !system.unused then none
      else
        some
          { system with
            lock := .visitor visit
            unused := system.unused && !visit.usesCompleter }
  | _ => none

/-- A visitor that holds the lock does what it came for and leaves. -/
def act (system : System) : Option (System × Event) :=
  match system.lock with
  | .visitor visit =>
      let (slot, wakes, event) := visit.act system.slot
      let after := { system with slot := slot, lock := .free }
      some (if wakes then after.notify else after, event)
  | _ => none

/-- The handle is waited for; it can be used once. -/
def call (greatest : Nat) (system : System) (timeout : Nat) : Option System :=
  match system.waiter with
  | none => some (system.moved (.start greatest system.now timeout) .entering)
  | some _ => none

/-- The condition variable lets a sleeping waiter go, late or for no reason. -/
def rouse (system : System) (late : Bool) : Option System :=
  match system.waiter with
  | some ⟨call, .asleep⟩ =>
      if late && !call.isLate system.now then none else some (system.moved call (.roused late))
  | _ => none

/-- The waiter takes the lock, if it is free, and goes on. -/
def enter (system : System) (call : Call) (place : Place) : Option System :=
  match system.lock with
  | .free => some ({ system with lock := .waiter }.moved call place)
  | _ => none

/-- The waiter puts a content into the slot, leaves the lock and returns an outcome. -/
def giveBack (system : System) (call : Call) (found slot : Slot) (outcome : Outcome) :
    System × Option Event :=
  ({ system with slot := slot, lock := .free }.moved call (.done outcome),
    some (.returned found outcome))

/-- The next step of a wait that has the content of the slot in its hands. -/
def consider (request : UInt64) (system : System) (call : Call) :
    Slot → System × Option Event
  | .waiting =>
      if call.isLate system.now then (system.moved call (.checked true), none)
      else ({ system with lock := .free }.moved call .asleep, none)
  | .ready outcome =>
      system.giveBack call (.ready outcome) (.taken (Slot.succeeds outcome)) outcome
  | .timedOut =>
      system.giveBack call .timedOut .timedOut (.error (.timeout (milliseconds call.timeout)))
  | .cancelled => system.giveBack call .cancelled .cancelled (.error (.cancelled request))
  | .taken succeeded =>
      system.giveBack call (.taken succeeded) (.taken succeeded)
        (.error (.invalidState .consumed))

/-- After a check of the deadline that came out late, a slot that is still waiting is given up. -/
def giveUp (system : System) (call : Call) : System × Option Event :=
  if system.slot.isReady then (system.moved call .looking, some (.late false))
  else ({ system with slot := .timedOut }.moved call .looking, some (.late true))

/-- The next step of a wait. -/
def proceed (request : UInt64) (system : System) : Option (System × Option Event) :=
  match system.waiter with
  | none => none
  | some ⟨call, place⟩ =>
      match place with
      | .entering => (system.enter call .looking).map fun next => (next, none)
      | .looking =>
          some ({ system with slot := .waiting }.moved call (.holding system.slot), none)
      | .holding found => some (system.consider request call found)
      | .checked true => some (system.giveUp call)
      | .checked false => some (system.moved call .looking, none)
      | .asleep => none
      | .roused late => (system.enter call (.checked late)).map fun next => (next, none)
      | .done _ => none

/-- What an action makes of a system, and what takes effect by it; nothing if it is not possible. -/
def step (request : UInt64) (greatest : Nat) (system : System) :
    Action → Option (System × Option Event)
  | .pass duration => some ({ system with now := system.now + duration }, none)
  | .ask visit => (system.ask visit).map fun next => (next, none)
  | .act => system.act.map fun (next, event) => (next, some event)
  | .call timeout =>
      (system.call greatest timeout).map fun next => (next, some (.called timeout))
  | .proceed => system.proceed request
  | .rouse late => (system.rouse late).map fun next => (next, none)

/-- Actions one after another, and what takes effect by them, latest first. -/
def perform (request : UInt64) (greatest : Nat) :
    List Action → System → Option (System × List Event)
  | [], system => some (system, [])
  | action :: rest, system => do
      let (next, event) ← system.step request greatest action
      let (last, events) ← perform request greatest rest next
      return (last, events ++ event.toList)

end System
end Rendezvous
end Execution
end TileProgram
