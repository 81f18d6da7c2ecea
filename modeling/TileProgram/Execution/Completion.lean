import TileProgram.Execution.Error
import TileProgram.Execution.Surface

/-!
# Completion slots

Every request has a slot that takes one outcome: the service delivers it, the
waiter gives up, or the session cancels it.  Whichever comes first counts;
what is delivered later is dropped.

A slot changes in three ways, each in one step: a delivery, a cancellation,
and one look of the waiter.  A wait is a row of looks; the last one may find
the deadline passed.
-/

namespace TileProgram
namespace Execution

/-- What a finished request hands back. -/
structure Output where
  requestId : UInt64
  inputs : List Surface
  outputs : List Surface
  deriving DecidableEq

/-- How a request ends. -/
abbrev Outcome := Except Error Output

/-- Where the one outcome of a request stands. -/
inductive Slot where
  | waiting
  | ready (outcome : Outcome)
  | taken (succeeded : Bool)
  | timedOut
  | cancelled

/-- A slot as a session sees it. -/
inductive SlotStatus where
  | pending
  | succeeded
  | failed
  | cancelled
  deriving DecidableEq

namespace Slot

/-- Whether an outcome has arrived or will never be taken. -/
def isReady : Slot → Bool
  | .waiting => false
  | _ => true

/-- Stores an outcome if none came before, and says whether it did. -/
def deliver (slot : Slot) (outcome : Outcome) : Bool × Slot :=
  match slot with
  | .waiting => (true, .ready outcome)
  | other => (false, other)

/-- Gives up a request whose outcome nobody has taken. -/
def cancel : Slot → Slot
  | .waiting => .cancelled
  | .ready _ => .cancelled
  | other => other

/-- An outcome counts as pending until it is taken. -/
def status : Slot → SlotStatus
  | .waiting => .pending
  | .ready _ => .pending
  | .taken true => .succeeded
  | .taken false => .failed
  | .timedOut => .failed
  | .cancelled => .cancelled

/-- Whether an outcome is a success. -/
def succeeds : Outcome → Bool
  | .ok _ => true
  | .error _ => false

/-- One look of a waiter: the answer, if waiting ends here, and the slot after it. -/
def look (request : UInt64) (timeout : Nat) (expired : Bool) (slot : Slot) :
    Option Outcome × Slot :=
  match slot with
  | .waiting =>
      if expired then (some (.error (.timeout timeout)), .timedOut) else (none, .waiting)
  | .ready outcome => (some outcome, .taken (succeeds outcome))
  | .taken succeeded => (some (.error (.invalidState .consumed)), .taken succeeded)
  | .timedOut => (some (.error (.timeout timeout)), .timedOut)
  | .cancelled => (some (.error (.cancelled request)), .cancelled)

/-- A wait during which nothing else happens ends with the look that finds the deadline passed. -/
def wait (request : UInt64) (timeout : Nat) (slot : Slot) : Outcome × Slot :=
  match slot.look request timeout true with
  | (some outcome, next) => (outcome, next)
  | (none, next) => (.error (.timeout timeout), next)

end Slot

/-- The slot of a request, held by its waiter or by the service that is to complete it. -/
structure Handle where
  slot : Nat
  request : UInt64
  deriving DecidableEq

/-- An outcome on its way to a slot. -/
structure Delivery where
  slot : Nat
  outcome : Outcome

/-- All slots by number, as the states they have taken on, latest first; a slot that was never
touched is waiting. -/
structure Slots where
  next : Nat
  history : List (Nat × Slot)

namespace Slots

/-- No request has been made. -/
def empty : Slots := ⟨0, []⟩

/-- The present state of a slot. -/
def get (slots : Slots) (number : Nat) : Slot :=
  (slots.history.lookup number).getD .waiting

/-- Replaces the state of a slot. -/
def put (slots : Slots) (number : Nat) (slot : Slot) : Slots :=
  { slots with history := (number, slot) :: slots.history }

/-- A new slot for a request. -/
def allot (slots : Slots) (request : UInt64) : Handle × Slots :=
  (⟨slots.next, request⟩, { slots with next := slots.next + 1 })

/-- Delivers an outcome, and says whether it was the first. -/
def deliver (slots : Slots) (delivery : Delivery) : Bool × Slots :=
  let (accepted, slot) := (slots.get delivery.slot).deliver delivery.outcome
  (accepted, slots.put delivery.slot slot)

/-- Delivers several outcomes in order. -/
def deliverAll (slots : Slots) (deliveries : List Delivery) : Slots :=
  deliveries.foldl (fun slots delivery => (slots.deliver delivery).2) slots

/-- Gives up the request of a slot. -/
def cancel (slots : Slots) (number : Nat) : Slots :=
  slots.put number (slots.get number).cancel

/-- Waits for the outcome of a handle. -/
def wait (slots : Slots) (handle : Handle) (timeout : Nat) : Outcome × Slots :=
  let (outcome, slot) := (slots.get handle.slot).wait handle.request timeout
  (outcome, slots.put handle.slot slot)

@[simp] theorem get_put_self (slots : Slots) (number : Nat) (slot : Slot) :
    (slots.put number slot).get number = slot := by
  simp [get, put]

/-- Replacing one slot leaves the others as they are. -/
theorem get_put_of_ne (slots : Slots) {number other : Nat} (slot : Slot)
    (different : other ≠ number) :
    (slots.put number slot).get other = slots.get other := by
  have unequal : (other == number) = false := by simpa using different
  simp [get, put, List.lookup_cons, unequal]

@[simp] theorem get_allot (slots : Slots) (request : UInt64) (number : Nat) :
    (slots.allot request).2.get number = slots.get number := rfl

end Slots
end Execution
end TileProgram
