import TileProgram.Container.Basic
import TileProgram.Execution.Completion
import TileProgram.Execution.Request

/-!
# Services

A service owns a device.  It opens connections, loads programs and takes
requests; every answer is a result together with the outcomes that it delivers
on the way.  A service that refuses a request, or that forgets one, delivers
the fault `dropped` to the slot of that request.

A counter joins a service with the slots of all requests that were made to it.
-/

namespace TileProgram
namespace Execution

/-- The answer of a service: a result, its next state, and what it delivers. -/
structure Reply (State Value : Type) where
  result : Except Error Value
  state : State
  deliveries : List Delivery

/-- What a service can be asked, whatever its own state is. -/
structure Service (State : Type) where
  connect : Mode → State → Reply State UInt32
  load : UInt32 → Container → State → Reply State UInt32
  submit : UInt32 → Bytes → List Surface → List Surface → Nat → State → Reply State Unit
  compile : UInt32 → Bytes → Surface → Nat → State → Reply State Unit
  release : UInt32 → State → Reply State Unit

/-- A service in some state, with the slots of the requests made to it. -/
structure Counter (State : Type) where
  state : State
  slots : Slots

namespace Counter

/-- A service that nobody has asked anything. -/
def fresh (state : State) : Counter State :=
  ⟨state, .empty⟩

/-- Takes an answer of the service: its deliveries reach their slots. -/
def accept (counter : Counter State) (reply : Reply State Value) :
    Except Error Value × Counter State :=
  (reply.result, ⟨reply.state, counter.slots.deliverAll reply.deliveries⟩)

/-- A new slot for a request. -/
def allot (counter : Counter State) (request : UInt64) : Handle × Counter State :=
  let (handle, slots) := counter.slots.allot request
  (handle, { counter with slots := slots })

/-- Waits for the outcome of a handle. -/
def wait (counter : Counter State) (handle : Handle) (timeout : Nat) :
    Outcome × Counter State :=
  let (outcome, slots) := counter.slots.wait handle timeout
  (outcome, { counter with slots := slots })

end Counter
end Execution
end TileProgram
