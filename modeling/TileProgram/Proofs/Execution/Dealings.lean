import TileProgram.Proofs.Execution.Progress
import TileProgram.Proofs.Execution.Tables

/-!
# What sessions do to the software service

No operation of a session but closing it closes a connection, and no operation
gives out more than one number.  So the connection of a session stays in the table
of the service, and so does the program that the session holds, as long as numbers
are not given out again.
-/

namespace TileProgram
namespace Execution

namespace Session

variable {session next : Session} {service after : Loopback} {counter : Counter Loopback}
  {count issues limit : Nat} {slots : Slots} {placed : List Handle}

/-- A session keeps its connection and its mode, and is not opened again. -/
structure Continues (session next : Session) : Prop where
  connection : next.connection = session.connection
  mode : next.mode = session.mode
  opened : next.storedPhase ≠ .closed → session.storedPhase ≠ .closed

theorem Progress.continues (progress : Progress slots session next placed) :
    Continues session next := by
  cases progress with
  | kept => exact ⟨rfl, rfl, id⟩
  | settled => exact ⟨rfl, rfl, opened_of_phase⟩
  | counted surfaces => exact ⟨rfl, rfl, opened_of_phase⟩
  | loaded program mode ready =>
      exact ⟨rfl, rfl, fun _ => opened_of_mem ready (by decide)⟩
  | placed surfaces ready =>
      have opened : session.phase slots ≠ .closed := by
        intro closed
        simp [closed, submitPhases, compilePhases] at ready
      exact ⟨rfl, rfl, fun _ => opened_of_phase opened⟩

/-- The service has the connection of a session that is not closed, and its program. -/
structure Known (service : Loopback) (session : Session) : Prop where
  connection : session.storedPhase ≠ .closed →
    ⟨session.connection, session.mode⟩ ∈ service.connections
  program : ∀ program, session.program = some program →
    ⟨program.id, session.connection⟩ ∈ service.programs

/-- An operation of a session makes the service grow, and what the session holds then was
held before or is now in the table. -/
structure Deals (limit : Nat) (session : Session) (service : Loopback) (next : Session)
    (after : Loopback) : Prop where
  grows : ∃ issues ≤ limit, Loopback.Grows service issues after
  program : next.program = session.program ∨ ∃ program, next.program = some program ∧
    ⟨program.id, session.connection⟩ ∈ after.programs

theorem Deals.of_program (program : next.program = session.program) :
    Deals limit session service next service :=
  ⟨⟨0, Nat.zero_le limit, .refl service⟩, .inl program⟩

theorem Deals.kept : Deals limit session service session service :=
  .of_program (Eq.refl session.program)

theorem Deals.settled : Deals limit session service (session.settle slots) service :=
  .of_program (program_settle session slots)

/-- A program that is put before the service is in the table when it is loaded. -/
theorem deals_load (session : Session) (program : Container) (counter : Counter Loopback) :
    Deals 1 session counter.state
      (session.load Loopback.service program counter).session
      (session.load Loopback.service program counter).counter.state := by
  have grows := Loopback.grows_load session.connection program counter.state
  cases answer : (Loopback.service.load session.connection program counter.state).result with
  | error error =>
      rw [load_of_error answer]
      exact ⟨grows, .inl rfl⟩
  | ok id =>
      rw [load_of_ok answer]
      exact ⟨grows, .inr ⟨_, rfl, Loopback.mem_of_load answer⟩⟩

theorem deals_loadContainer (session : Session) (program : Container)
    (counter : Counter Loopback) :
    Deals 1 session counter.state
      (session.loadContainer Loopback.service program counter).session
      (session.loadContainer Loopback.service program counter).counter.state := by
  cases gated_loadContainer Loopback.service session program counter with
  | kept error failed run =>
      rw [run]
      exact .kept
  | settled error failed run =>
      rw [run]
      exact .settled
  | passed _ checked run =>
      have deals := deals_load (session.settle counter.slots) program counter
      rw [run]
      exact ⟨deals.grows, deals.program⟩

theorem deals_loadFile (session : Session) (contents : Except Files.Failure Bytes)
    (counter : Counter Loopback) :
    Deals 1 session counter.state
      (session.loadFile Loopback.service contents counter).session
      (session.loadFile Loopback.service contents counter).counter.state := by
  rcases loadFile_cases Loopback.service session contents counter with
    ⟨error, run⟩ | ⟨program, run⟩
  · rw [run]
    exact .kept
  · rw [run]
    exact deals_loadContainer session program counter

/-- A request that is put before the service leaves the program of the session alone. -/
theorem deals_place
    {ask : Bytes → Nat → Loopback → Reply Loopback Unit}
    (grows : ∀ raw slot, Loopback.Grows counter.state 0 (ask raw slot counter.state).state)
    (kept : next.program = session.program)
    (request : Request) :
    Deals 0 session counter.state (next.place request ask counter).session
      (next.place request ask counter).counter.state := by
  have grows (raw : Bytes) := grows raw counter.slots.next
  cases asked_place request ask next counter with
  | unwritten error failed run =>
      rw [run]
      exact .of_program kept
  | refused raw error written answer run =>
      rw [run]
      exact ⟨⟨0, Nat.le_refl 0, grows raw⟩, .inl kept⟩
  | accepted raw written answer run =>
      rw [run]
      exact ⟨⟨0, Nat.le_refl 0, grows raw⟩, .inl kept⟩

theorem deals_submit (session : Session) (inputs : List Surface) (counter : Counter Loopback) :
    Deals 0 session counter.state
      (session.submit Loopback.service inputs counter).session
      (session.submit Loopback.service inputs counter).counter.state := by
  cases gated_submit Loopback.service session inputs counter with
  | kept error failed run =>
      rw [run]
      exact .kept
  | settled error failed run =>
      rw [run]
      exact .settled
  | passed program checked run =>
      rw [run]
      refine deals_place (fun raw slot => ?_) ?_ _
      · exact Loopback.grows_submit ..
      · rfl

theorem deals_submitCompile (session : Session) (description : Bytes)
    (counter : Counter Loopback) :
    Deals 0 session counter.state
      (session.submitCompile Loopback.service description counter).session
      (session.submitCompile Loopback.service description counter).counter.state := by
  cases gated_submitCompile Loopback.service session description counter with
  | kept error failed run =>
      rw [run]
      exact .kept
  | settled error failed run =>
      rw [run]
      exact .settled
  | passed _ checked run =>
      rw [run]
      refine deals_place (fun raw slot => ?_) ?_ _
      · exact Loopback.grows_compile ..
      · rfl

theorem deals_wait (session : Session) (handle : Handle) (timeout : Nat)
    (counter : Counter Loopback) :
    Deals 0 session counter.state (session.wait handle timeout counter).session
      (session.wait handle timeout counter).counter.state := by
  unfold wait
  split
  · exact .settled
  · exact .kept

/-- A session that goes on is still known when the service has grown. -/
theorem Known.deals
    (known : session.Known service)
    (issued : service.Issued count)
    (continues : Continues session next)
    (deals : Deals limit session service next after)
    (room : count + limit < UInt32.size) :
    next.Known after := by
  obtain ⟨issues, le, grows⟩ := deals.grows
  have room : count + issues < UInt32.size := by omega
  constructor
  · intro opened
    rw [continues.connection, continues.mode]
    exact issued.connection_grows grows room (known.connection (continues.opened opened))
  · intro program held
    rw [continues.connection]
    rcases deals.program with same | ⟨loaded, held', present⟩
    · exact issued.program_grows grows room (known.program program (same ▸ held))
    · cases held.symm.trans held'
      exact present

/-- A session that does nothing is still known when the service has grown. -/
theorem Known.grows
    (known : session.Known service)
    (issued : service.Issued count)
    (grows : Loopback.Grows service issues after)
    (room : count + issues < UInt32.size) :
    session.Known after where
  connection := fun opened => issued.connection_grows grows room (known.connection opened)
  program := fun program held => issued.program_grows grows room (known.program program held)

/-- A session is still known when the connection of another one is closed. -/
theorem Known.release
    {id : UInt32}
    (known : session.Known service)
    (other : session.connection ≠ id) :
    session.Known (Loopback.release id service).state := by
  by_cases isOpen : service.IsOpen id
  · rw [Loopback.release_of_isOpen isOpen]
    constructor
    · intro opened
      exact List.mem_filter.mpr ⟨known.connection opened, by simpa⟩
    · intro program held
      exact List.mem_filter.mpr ⟨known.program program held, by simpa⟩
  · rw [Loopback.release_of_not_isOpen isOpen]
    exact known

/-- A closed session has nothing at the service. -/
theorem known_closed (service : Loopback) (session : Session) : session.closed.Known service where
  connection := fun opened => absurd rfl opened
  program := nofun

/-- Closing releases the connection of the session. -/
theorem state_close (opened : session.storedPhase ≠ .closed) (counter : Counter Loopback) :
    (session.close Loopback.service counter).2.state =
      (Loopback.release session.connection counter.state).state := by
  rw [close, if_neg opened]
  cases session.pending <;> rfl

end Session
end Execution
end TileProgram
