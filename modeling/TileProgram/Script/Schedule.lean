import TileProgram.Script.Execute

/-!
# Scripts with jobs

The strands of a script and of its jobs go on in turns, the one whose moment
comes first before the others.  They all are run up to their ends, but those
that do not hold the stream in which one is interested are left when the script
has ended.
-/

namespace TileProgram
namespace Script

open Files (Action)

/-- A strand that waits, with what only it knows: its part of the state and the steps that it may take.  One of the strands ends with a value. -/
structure Waiting (Value : Type) where
  wake : Wake
  shell : Shell
  steps : Nat
  next : State → Strand State (Option Value × State)

namespace Waiting

/-- How long it takes until a strand that waits for ends notices a signal. -/
def callTime : Nat := 100

/-- Whether a strand can write to a stream. -/
def holds (waiting : Waiting Value) (stream : Nat) : Bool :=
  waiting.shell.channels.any fun entry => entry.2 == stream

/-- The moment at which a strand can go on, if what it waits for has come. -/
def moment? (state : State) (others : List (Waiting Value)) (waiting : Waiting Value) :
    Option Nat :=
  match waiting.wake with
  | .moment time => some time
  | .ends processes =>
      let areDone := processes.all fun process => (state.ended.lookup process).isSome
      let call? := state.pending.find? fun sending => sending.process == waiting.shell.own
      if areDone then some state.clock else call?.map fun sending => sending.moment + callTime
  | .release stream => if others.any (·.holds stream) then none else some state.clock

/-- The strand of a job that has been started. -/
def ofStart (runner : Runner) (moment steps : Nat) (start : Start) : Waiting Value :=
  let fail : Running Unit := do
    Running.end_ start.process (.killed 11)
    Running.leave start.process
  { wake := .moment moment, shell := start.shell, steps := steps
    next := fun state => do
      let (result, state) ← (runJob runner start.process start.body).run.run state
      match result with
      | .ok () => return (none, state)
      | .error _ => return (none, (← fail.run.run state).2) }

end Waiting

/-- The first strand that can go on before all others, with its moment and the others. -/
def firstToGo (state : State) (passed : List (Waiting Value)) :
    List (Waiting Value) → Option (Nat × Waiting Value × List (Waiting Value))
  | [] => none
  | waiting :: rest =>
      let later := firstToGo state (passed ++ [waiting]) rest
      match waiting.moment? state (passed ++ rest), later with
      | none, _ => later
      | some moment, none => some (moment, waiting, passed ++ rest)
      | some moment, some (other, found) =>
          if other < moment then some (other, found) else some (moment, waiting, passed ++ rest)

/-- How long it takes until a job begins. -/
def jobTime : Nat := 150

/-- Lets strands go on in turns, until there is a value and nobody holds a stream any more. -/
def takeTurns (runner : Runner) (stream : Nat) (turns : Nat) (waiting : List (Waiting Value))
    (value : Option Value) (state : State) : Action (Option Value × State) :=
  match turns with
  | 0 => return (value, state)
  | left + 1 => do
      if value.isSome && !waiting.any (·.holds stream) then return (value, state)
      match firstToGo state [] waiting with
      | none => return (value, state)
      | some (moment, chosen, others) => do
          let given :=
            { state with
              shell := chosen.shell, steps := chosen.steps, clock := max state.clock moment
              isAlone := others.isEmpty, started := [] }
          let (found, paused, state) ← match ← (chosen.next given).proceed with
            | .inl (found, state) => pure (found, [], state)
            | .inr (wake, state, next) =>
                pure (none, [⟨wake, state.shell, state.steps, next⟩], state)
          let begun := state.started.reverse.map
            (Waiting.ofStart runner (state.clock + jobTime) state.steps)
          takeTurns runner stream left (others ++ begun ++ paused) (value <|> found) state

/-- How many turns there can be. -/
def turnLimit : Nat := 100000

/-- Runs something with all jobs that it starts; nothing if that does not come to an end. -/
def runWithJobs (runner : Runner) (stream : Nat) (running : Running Value) (state : State) :
    Action (Option (Except Leaving Value) × State) :=
  let first : Waiting (Except Leaving Value) :=
    { wake := .moment 0, shell := state.shell, steps := state.steps
      next := fun state => do
        let (result, state) ← running.run.run state
        return (some result, state) }
  takeTurns runner stream turnLimit [first] none state

end Script
end TileProgram
