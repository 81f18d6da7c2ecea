import TileProgram.Execution.Loopback

/-!
# Calls to the software service

The software service can also be called directly, by anybody and in any order.
Whoever wants to make a request gets a slot first, and hands its completer over
with the request; a completer is handed over once.  The one who has it can also
use it up himself.  Meanwhile the service finishes requests in its queue, and
slots are waited for or given up.
-/

namespace TileProgram
namespace Execution

/-- What happens next to a software service and the slots of its requests. -/
inductive Call where
  | connect (mode : Mode)
  | load (connection : UInt32) (program : Container)
  | channel (request : UInt64)
  | submit (connection : UInt32) (raw : Bytes) (inputs outputs : List Surface) (slot : Nat)
  | compile (connection : UInt32) (raw : Bytes) (description : Surface) (slot : Nat)
  | release (connection : UInt32)
  | finish (place : Nat)
  | complete (slot : Nat) (outcome : Outcome)
  | wait (handle : Handle) (timeout : Nat)
  | cancel (slot : Nat)

/-- Whether a call makes the service give out a number if it succeeds. -/
def Call.isNumbered : Call → Bool
  | .connect _ => true
  | .load _ _ => true
  | _ => false

/-- A software service with the slots of its requests, and the slots whose completer has not been
handed over. -/
structure Desk where
  counter : Counter Loopback
  completers : List Nat

namespace Desk

/-- A service that nobody has called. -/
def empty (behavior : Behavior) : Desk :=
  ⟨.fresh (.ofBehavior behavior), []⟩

/-- Takes an answer of the service. -/
def take (desk : Desk) (reply : Reply Loopback Value) : Desk :=
  { desk with counter := (desk.counter.accept reply).2 }

/-- Hands a completer over; one that is not there cannot be. -/
def handOver (desk : Desk) (slot : Nat) (ask : Loopback → Reply Loopback Unit) : Desk :=
  if slot ∈ desk.completers then
    { desk with completers := desk.completers.erase slot }.take (ask desk.counter.state)
  else desk

/-- What a call makes of a service and its slots. -/
def step (desk : Desk) : Call → Desk
  | .connect mode => desk.take (Loopback.connect mode desk.counter.state)
  | .load connection program => desk.take (Loopback.load connection program desk.counter.state)
  | .channel request =>
      let (handle, counter) := desk.counter.allot request
      ⟨counter, desk.completers ++ [handle.slot]⟩
  | .submit connection raw inputs outputs slot =>
      desk.handOver slot (Loopback.submit connection raw inputs outputs slot)
  | .compile connection raw description slot =>
      desk.handOver slot (Loopback.compile connection raw description slot)
  | .release connection => desk.take (Loopback.release connection desk.counter.state)
  | .finish place => desk.take (Loopback.finish place desk.counter.state)
  | .complete slot outcome =>
      desk.handOver slot fun service => ⟨.ok (), service, [⟨slot, outcome⟩]⟩
  | .wait handle timeout => { desk with counter := (desk.counter.wait handle timeout).2 }
  | .cancel slot =>
      { desk with counter := ⟨desk.counter.state, desk.counter.slots.cancel slot⟩ }

/-- Calls one after another. -/
def run (desk : Desk) (calls : List Call) : Desk :=
  calls.foldl step desk

end Desk
end Execution
end TileProgram
