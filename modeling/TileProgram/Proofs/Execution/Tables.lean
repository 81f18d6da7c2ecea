import Mathlib.Data.List.Nodup
import TileProgram.Execution.Loopback
import TileProgram.Proofs.Outcome

/-!
# The tables of the software service

A call adds an entry to one of the tables, or takes a connection away with all
that belongs to it.  So numbers stay different from each other, and whatever is
in the tables belongs to an open connection.  As long as numbers are not given
out a second time, programs belong to connections that may run them.
-/

namespace TileProgram
namespace Execution
namespace Loopback

/-- An open connection has a number. -/
def IsOpen (service : Loopback) (id : UInt32) : Prop :=
  id ∈ service.connections.map Connection.id

/-- What a call that closes no connection makes of a service, and how many numbers it gives
out. -/
inductive Grows (service : Loopback) : Nat → Loopback → Prop where
  | queued (queue : List Delivery) : Grows service 0 { service with queue := queue }
  | parked (id : UInt32) (slot : Nat) (isOpen : service.IsOpen id) :
      Grows service 0 { service with parked := service.parked ++ [⟨id, slot⟩] }
  | connected (mode : Mode) : Grows service 1 (service.connected mode)
  | loaded (id : UInt32) (isOpen : ⟨id, .programExecution⟩ ∈ service.connections) :
      Grows service 1 (service.loaded id)

variable {service after : Loopback} {id : UInt32} {wanted : Mode} {operation : Operation}
  {count issues : Nat}

theorem Grows.refl (service : Loopback) : Grows service 0 service :=
  .queued service.queue

theorem isOpen_of_mem
    {mode : Mode}
    (present : ⟨id, mode⟩ ∈ service.connections) :
    service.IsOpen id :=
  List.mem_map.mpr ⟨_, present, rfl⟩

/-- A connection that is found is in the table. -/
theorem mem_of_connection?
    {connection : Connection}
    (found : service.connection? id = some connection) :
    connection ∈ service.connections ∧ connection.id = id :=
  ⟨List.mem_of_find?_eq_some found, by simpa using List.find?_some found⟩

theorem connection?_eq_none_iff :
    service.connection? id = none ↔ ¬ service.IsOpen id := by
  simp [connection?, IsOpen]

/-- A connection that passes the check is open in the mode that was wanted. -/
theorem mem_of_checkMode (passed : service.checkMode id wanted operation = .ok ()) :
    ⟨id, wanted⟩ ∈ service.connections := by
  unfold checkMode at passed
  split at passed
  · cases passed
  · next connection found =>
    obtain ⟨present, rfl⟩ := mem_of_connection? found
    by_cases fits : connection.mode = wanted
    · rw [← fits]
      exact present
    · rw [if_neg fits] at passed
      cases passed

/-- A connection that is not open does not pass. -/
theorem checkMode_of_not_isOpen (closed : ¬ service.IsOpen id) :
    service.checkMode id wanted operation = .error (.invalidState (.notOpen id)) := by
  rw [checkMode, connection?_eq_none_iff.mpr closed]

theorem owns_iff {program : UInt32} :
    service.owns id program = true ↔ ⟨program, id⟩ ∈ service.programs := by
  rw [owns, List.any_eq_true]
  constructor
  · rintro ⟨loaded, present, same⟩
    obtain ⟨number, owner⟩ := loaded
    simp only [Bool.and_eq_true, beq_iff_eq] at same
    obtain ⟨rfl, rfl⟩ := same
    exact present
  · intro present
    exact ⟨_, present, by simp⟩

/-- A request that is accepted is kept for an open connection. -/
theorem grows_keep
    (isOpen : service.IsOpen id)
    (slot : Nat)
    (outcome : Outcome) :
    Grows service 0 (service.keep id slot outcome).state := by
  unfold keep
  split
  · exact .parked id slot isOpen
  · exact .queued _

theorem grows_connect (mode : Mode) (service : Loopback) :
    ∃ issues ≤ 1, Grows service issues (connect mode service).state := by
  unfold connect
  split
  · exact ⟨0, Nat.zero_le 1, .refl service⟩
  · split
    · exact ⟨0, Nat.zero_le 1, .refl service⟩
    · exact ⟨1, Nat.le_refl 1, .connected mode⟩

theorem grows_load (id : UInt32) (program : Container) (service : Loopback) :
    ∃ issues ≤ 1, Grows service issues (load id program service).state := by
  unfold load
  split
  · exact ⟨0, Nat.zero_le 1, .refl service⟩
  · next passed => exact ⟨1, Nat.le_refl 1, .loaded id (mem_of_checkMode passed)⟩

/-- A connection that is opened gets the next number. -/
theorem connect_eq_ok
    {mode : Mode}
    (opened : (connect mode service).result = .ok id) :
    id = service.nextId ∧ (connect mode service).state = service.connected mode := by
  unfold connect at opened ⊢
  split at opened
  · cases opened
  · split at opened
    · cases opened
    · next reachable entitled =>
      rw [if_neg reachable, if_neg entitled]
      cases opened
      exact ⟨rfl, rfl⟩

/-- A program that is loaded belongs to the connection that it was loaded through. -/
theorem mem_of_load
    {program : Container}
    {number : UInt32}
    (loaded : (load id program service).result = .ok number) :
    ⟨number, id⟩ ∈ (load id program service).state.programs := by
  unfold load at loaded ⊢
  cases passed : service.checkMode id .programExecution .load with
  | error error =>
      simp only [passed] at loaded
      cases loaded
  | ok =>
      simp only [passed] at loaded ⊢
      cases loaded
      exact List.mem_append_right _ (List.mem_singleton.mpr rfl)

/-- What the checks of a request to run a program come to. -/
theorem checkSubmit_eq_ok_iff
    {raw : Bytes}
    {inputs outputs : List Surface}
    {request : Request} :
    service.checkSubmit id raw inputs outputs = .ok request ↔
      service.checkMode id .programExecution .submit = .ok () ∧
      Request.decode raw = .ok request ∧ request.isCompile = false ∧
      ⟨request.program, id⟩ ∈ service.programs ∧
      checkSurfaces .input request.inputs inputs = .ok () ∧
      checkSurfaces .output request.outputs outputs = .ok () := by
  unfold checkSubmit
  simp only [Outcome.seq_eq_ok, Outcome.exists_unit, Outcome.guard_eq_ok, Outcome.pure_eq_ok,
    Bool.not_eq_true, Bool.not_eq_eq_eq_not, Bool.not_true, Bool.not_eq_false, owns_iff]
  constructor
  · rintro ⟨passed, decoded, read, runs, owned, inputs, outputs, rfl⟩
    exact ⟨passed, read, runs, owned, inputs, outputs⟩
  · rintro ⟨passed, read, runs, owned, inputs, outputs⟩
    exact ⟨passed, request, read, runs, owned, inputs, outputs, rfl⟩

/-- What the checks of a request to compile a description come to. -/
theorem checkCompile_eq_ok_iff
    {raw : Bytes}
    {description : Surface}
    {request : Request} :
    service.checkCompile id raw description = .ok request ↔
      service.checkMode id .compileOnly .compile = .ok () ∧
      Request.decode raw = .ok request ∧ request.isCompile = true ∧
      checkSurfaces .input request.inputs [description] = .ok () := by
  unfold checkCompile
  simp only [Outcome.seq_eq_ok, Outcome.exists_unit, Outcome.guard_eq_ok, Outcome.pure_eq_ok,
    Bool.not_eq_eq_eq_not, Bool.not_true, Bool.not_eq_false]
  constructor
  · rintro ⟨passed, decoded, read, compiles, inputs, rfl⟩
    exact ⟨passed, read, compiles, inputs⟩
  · rintro ⟨passed, read, compiles, inputs⟩
    exact ⟨passed, request, read, compiles, inputs, rfl⟩

@[simp] theorem result_keep (service : Loopback) (id : UInt32) (slot : Nat) (outcome : Outcome) :
    (service.keep id slot outcome).result = .ok () := by
  unfold keep
  split <;> rfl

/-- A request that passes its checks is accepted. -/
theorem result_submit
    {raw : Bytes}
    {inputs outputs : List Surface}
    {request : Request}
    (checked : service.checkSubmit id raw inputs outputs = .ok request)
    (slot : Nat) :
    (submit id raw inputs outputs slot service).result = .ok () := by
  rw [submit, checked]
  exact result_keep ..

theorem result_compile
    {raw : Bytes}
    {description : Surface}
    {request : Request}
    (checked : service.checkCompile id raw description = .ok request)
    (slot : Nat) :
    (compile id raw description slot service).result = .ok () := by
  rw [compile, checked]
  exact result_keep ..

/-- At most the request that was made is parked. -/
theorem parked_keep (service : Loopback) (id : UInt32) (slot : Nat) (outcome : Outcome) :
    (service.keep id slot outcome).state.parked = service.parked ∨
      (service.keep id slot outcome).state.parked = service.parked ++ [⟨id, slot⟩] := by
  unfold keep
  split
  · exact .inr rfl
  · exact .inl rfl

theorem parked_submit (id : UInt32) (raw : Bytes) (inputs outputs : List Surface) (slot : Nat)
    (service : Loopback) :
    (submit id raw inputs outputs slot service).state.parked = service.parked ∨
      (submit id raw inputs outputs slot service).state.parked =
        service.parked ++ [⟨id, slot⟩] := by
  unfold submit
  split
  · exact .inl rfl
  · exact parked_keep ..

theorem parked_compile (id : UInt32) (raw : Bytes) (description : Surface) (slot : Nat)
    (service : Loopback) :
    (compile id raw description slot service).state.parked = service.parked ∨
      (compile id raw description slot service).state.parked = service.parked ++ [⟨id, slot⟩] := by
  unfold compile
  split
  · exact .inl rfl
  · exact parked_keep ..

@[simp] theorem parked_connect (mode : Mode) (service : Loopback) :
    (connect mode service).state.parked = service.parked := by
  unfold connect
  split
  · rfl
  · split <;> rfl

@[simp] theorem parked_load (id : UInt32) (program : Container) (service : Loopback) :
    (load id program service).state.parked = service.parked := by
  unfold load
  split <;> rfl

theorem parked_release (id : UInt32) (service : Loopback) :
    (release id service).state.parked.Sublist service.parked := by
  unfold release
  split
  · exact List.Sublist.refl _
  · exact List.filter_sublist

theorem grows_submit (id : UInt32) (raw : Bytes) (inputs outputs : List Surface) (slot : Nat)
    (service : Loopback) :
    Grows service 0 (submit id raw inputs outputs slot service).state := by
  unfold submit
  split
  · exact .refl service
  · next checked =>
    obtain ⟨passed, -⟩ := checkSubmit_eq_ok_iff.mp checked
    exact grows_keep (isOpen_of_mem (mem_of_checkMode passed)) slot _

theorem grows_compile (id : UInt32) (raw : Bytes) (description : Surface) (slot : Nat)
    (service : Loopback) :
    Grows service 0 (compile id raw description slot service).state := by
  unfold compile
  split
  · exact .refl service
  · next checked =>
    obtain ⟨passed, -⟩ := checkCompile_eq_ok_iff.mp checked
    exact grows_keep (isOpen_of_mem (mem_of_checkMode passed)) slot _

theorem grows_finish (place : Nat) (service : Loopback) :
    Grows service 0 (finish place service).state :=
  .queued _

/-- Closing a connection takes it away, whether it is open or not. -/
theorem release_of_not_isOpen (closed : ¬ service.IsOpen id) :
    release id service = service.reply (.ok ()) := by
  rw [release, connection?_eq_none_iff.mpr closed]
  rfl

theorem release_of_isOpen (isOpen : service.IsOpen id) :
    release id service =
      ⟨.ok (), service.without id,
        (service.parked.filter fun request => request.owner == id).map fun request =>
          ⟨request.slot, .error (.device .dropped)⟩⟩ := by
  have found : (service.connection? id).isNone = false := by
    rw [Option.isNone_eq_false_iff, Option.isSome_iff_ne_none, Ne, connection?_eq_none_iff]
    exact not_not.mpr isOpen
  rw [release, found]
  rfl

@[simp] theorem lastId_release (id : UInt32) (service : Loopback) :
    (release id service).state.lastId = service.lastId := by
  unfold release
  split <;> rfl

/-- An entry that takes the place of the one with its number has a number of its own. -/
theorem nodup_replaced
    {α : Type}
    {entries : List α}
    {key : α → UInt32}
    (distinct : (entries.map key).Nodup)
    (entry : α) :
    ((entries.filter (fun other => key other != key entry) ++ [entry]).map key).Nodup := by
  rw [List.map_append]
  refine List.Nodup.append (distinct.sublist (List.filter_sublist.map key))
    (List.nodup_singleton _) ?_
  simp

/-- Numbers are different, and programs and parked requests belong to open connections. -/
structure Tidy (service : Loopback) : Prop where
  connections : (service.connections.map Connection.id).Nodup
  programs : (service.programs.map LoadedProgram.id).Nodup
  owners : ∀ program ∈ service.programs, service.IsOpen program.owner
  parked : ∀ request ∈ service.parked, service.IsOpen request.owner

theorem tidy_ofBehavior (behavior : Behavior) : Tidy (ofBehavior behavior) :=
  ⟨.nil, .nil, nofun, nofun⟩

/-- Connections stay open when another one is opened, even in the place of one of them. -/
theorem IsOpen.connected (isOpen : service.IsOpen id) (mode : Mode) :
    (service.connected mode).IsOpen id := by
  obtain ⟨connection, present, rfl⟩ := List.mem_map.mp isOpen
  by_cases replaced : connection.id = service.nextId
  · simp [IsOpen, Loopback.connected, replaced]
  · exact List.mem_map.mpr
      ⟨connection, List.mem_append_left _ (List.mem_filter.mpr ⟨present, by simpa⟩), rfl⟩

/-- Connections other than the one that is closed stay open. -/
theorem IsOpen.without
    {closed : UInt32}
    (isOpen : service.IsOpen id)
    (other : id ≠ closed) :
    (service.without closed).IsOpen id := by
  obtain ⟨connection, present, rfl⟩ := List.mem_map.mp isOpen
  exact List.mem_map.mpr ⟨connection, List.mem_filter.mpr ⟨present, by simpa⟩, rfl⟩

namespace Tidy

theorem grows (tidy : service.Tidy) (grows : Grows service issues after) : after.Tidy := by
  cases grows with
  | queued queue => exact ⟨tidy.connections, tidy.programs, tidy.owners, tidy.parked⟩
  | parked id slot isOpen =>
      refine ⟨tidy.connections, tidy.programs, tidy.owners, ?_⟩
      intro request member
      rcases List.mem_append.mp member with old | new
      · exact tidy.parked request old
      · rw [List.mem_singleton.mp new]
        exact isOpen
  | connected mode =>
      exact {
        connections := nodup_replaced tidy.connections ⟨service.nextId, mode⟩
        programs := tidy.programs
        owners := fun program member => (tidy.owners program member).connected mode
        parked := fun request member => (tidy.parked request member).connected mode }
  | loaded id isOpen =>
      refine ⟨tidy.connections, nodup_replaced tidy.programs ⟨service.nextId, _⟩, ?_, tidy.parked⟩
      intro program member
      rcases List.mem_append.mp member with old | new
      · exact tidy.owners program (List.mem_of_mem_filter old)
      · rw [List.mem_singleton.mp new]
        exact isOpen_of_mem isOpen

theorem without (tidy : service.Tidy) (id : UInt32) : (service.without id).Tidy where
  connections := tidy.connections.sublist (List.filter_sublist.map _)
  programs := tidy.programs.sublist (List.filter_sublist.map _)
  owners := by
    intro program member
    obtain ⟨present, other⟩ := List.mem_filter.mp member
    exact (tidy.owners program present).without (by simpa using other)
  parked := by
    intro request member
    obtain ⟨present, other⟩ := List.mem_filter.mp member
    exact (tidy.parked request present).without (by simpa using other)

theorem release (tidy : service.Tidy) (id : UInt32) : (Loopback.release id service).state.Tidy := by
  by_cases isOpen : service.IsOpen id
  · rw [release_of_isOpen isOpen]
    exact tidy.without id
  · rw [release_of_not_isOpen isOpen]
    exact tidy

/-- An open connection is found by its number. -/
theorem connection?_eq
    (tidy : service.Tidy)
    {connection : Connection}
    (present : connection ∈ service.connections) :
    service.connection? connection.id = some connection := by
  cases found : service.connection? connection.id with
  | none =>
      exact absurd (List.mem_map.mpr ⟨connection, present, rfl⟩) (connection?_eq_none_iff.mp found)
  | some other =>
      obtain ⟨listed, same⟩ := mem_of_connection? found
      rw [List.inj_on_of_nodup_map tidy.connections listed present same]

/-- An open connection passes a check exactly if its mode is the one that is wanted. -/
theorem checkMode_of_mem
    (tidy : service.Tidy)
    {mode : Mode}
    (present : ⟨id, mode⟩ ∈ service.connections)
    (wanted : Mode)
    (operation : Operation) :
    service.checkMode id wanted operation =
      if mode = wanted then .ok () else .error (.modeMismatch operation mode) := by
  rw [checkMode, tidy.connection?_eq present]

/-- A program belongs to one connection only. -/
theorem owner_unique
    (tidy : service.Tidy)
    {program : LoadedProgram}
    (present : program ∈ service.programs)
    (owned : ⟨program.id, id⟩ ∈ service.programs) :
    program.owner = id := by
  rw [List.inj_on_of_nodup_map tidy.programs present owned rfl]

end Tidy

/-- No more than a count of numbers were given out, and all numbers are among them. -/
structure Issued (count : Nat) (service : Loopback) : Prop where
  last : service.lastId.toNat ≤ count
  connections : ∀ connection ∈ service.connections, connection.id ≤ service.lastId
  programs : ∀ program ∈ service.programs, program.id ≤ service.lastId

theorem issued_ofBehavior (behavior : Behavior) : Issued 0 (ofBehavior behavior) :=
  ⟨Nat.le_refl 0, nofun, nofun⟩

namespace Issued

theorem mono
    {later : Nat}
    (issued : service.Issued count)
    (le : count ≤ later) :
    service.Issued later :=
  { issued with last := Nat.le_trans issued.last le }

/-- As long as numbers do not run out, the next one is greater than those that were given out. -/
theorem lt_nextId
    (issued : service.Issued count)
    (room : count + 1 < UInt32.size)
    (old : id ≤ service.lastId) :
    id < service.nextId := by
  have bound := issued.last
  have old := UInt32.le_iff_toNat_le.mp old
  have size : UInt32.size = 2 ^ 32 := rfl
  rw [UInt32.lt_iff_toNat_lt, nextId, UInt32.toNat_add, UInt32.toNat_one,
    Nat.mod_eq_of_lt (by omega)]
  omega

theorem toNat_nextId_le (service : Loopback) : service.nextId.toNat ≤ service.lastId.toNat + 1 := by
  rw [nextId, UInt32.toNat_add]
  exact Nat.mod_le _ _

theorem grows
    (issued : service.Issued count)
    (grows : Grows service issues after)
    (room : count + issues < UInt32.size) :
    after.Issued (count + issues) := by
  have next := Nat.le_trans (toNat_nextId_le service) (Nat.add_le_add_right issued.last 1)
  cases grows with
  | queued queue => exact ⟨issued.last, issued.connections, issued.programs⟩
  | parked id slot isOpen => exact ⟨issued.last, issued.connections, issued.programs⟩
  | connected mode =>
      refine ⟨next, ?_, fun program member =>
        UInt32.le_of_lt (issued.lt_nextId room (issued.programs program member))⟩
      intro connection member
      rcases List.mem_append.mp member with old | new
      · have old := issued.connections connection (List.mem_of_mem_filter old)
        exact UInt32.le_of_lt (issued.lt_nextId room old)
      · rw [List.mem_singleton.mp new]
        exact UInt32.le_refl _
  | loaded id isOpen =>
      refine ⟨next, fun connection member =>
        UInt32.le_of_lt (issued.lt_nextId room (issued.connections connection member)), ?_⟩
      intro program member
      rcases List.mem_append.mp member with old | new
      · have old := issued.programs program (List.mem_of_mem_filter old)
        exact UInt32.le_of_lt (issued.lt_nextId room old)
      · rw [List.mem_singleton.mp new]
        exact UInt32.le_refl _

theorem lastId_le
    (issued : service.Issued count)
    (grows : Grows service issues after)
    (room : count + issues < UInt32.size) :
    service.lastId ≤ after.lastId := by
  cases grows with
  | queued queue => exact UInt32.le_refl _
  | parked id slot isOpen => exact UInt32.le_refl _
  | connected mode => exact UInt32.le_of_lt (issued.lt_nextId room (UInt32.le_refl _))
  | loaded id isOpen => exact UInt32.le_of_lt (issued.lt_nextId room (UInt32.le_refl _))

theorem without (issued : service.Issued count) (id : UInt32) :
    (service.without id).Issued count where
  last := issued.last
  connections := fun connection member =>
    issued.connections connection (List.mem_of_mem_filter member)
  programs := fun program member => issued.programs program (List.mem_of_mem_filter member)

theorem release (issued : service.Issued count) (id : UInt32) :
    (Loopback.release id service).state.Issued count := by
  by_cases isOpen : service.IsOpen id
  · rw [release_of_isOpen isOpen]
    exact issued.without id
  · rw [release_of_not_isOpen isOpen]
    exact issued

/-- A connection keeps its mode as long as its number is not given out again. -/
theorem connection_grows
    (issued : service.Issued count)
    (grows : Grows service issues after)
    (room : count + issues < UInt32.size)
    {connection : Connection}
    (present : connection ∈ service.connections) :
    connection ∈ after.connections := by
  cases grows with
  | queued queue => exact present
  | parked id slot isOpen => exact present
  | loaded id isOpen => exact present
  | connected mode =>
      have other := UInt32.ne_of_lt (issued.lt_nextId room (issued.connections connection present))
      exact List.mem_append_left _ (List.mem_filter.mpr ⟨present, by simpa⟩)

/-- A program keeps its owner as long as its number is not given out again. -/
theorem program_grows
    (issued : service.Issued count)
    (grows : Grows service issues after)
    (room : count + issues < UInt32.size)
    {program : LoadedProgram}
    (present : program ∈ service.programs) :
    program ∈ after.programs := by
  cases grows with
  | queued queue => exact present
  | parked id slot isOpen => exact present
  | connected mode => exact present
  | loaded id isOpen =>
      have other := UInt32.ne_of_lt (issued.lt_nextId room (issued.programs program present))
      exact List.mem_append_left _ (List.mem_filter.mpr ⟨present, by simpa⟩)

end Issued

/-- All programs belong to connections that may run them. -/
def Executing (service : Loopback) : Prop :=
  ∀ program ∈ service.programs, ⟨program.owner, .programExecution⟩ ∈ service.connections

namespace Executing

theorem grows
    (executing : service.Executing)
    (issued : service.Issued count)
    (grows : Grows service issues after)
    (room : count + issues < UInt32.size) :
    after.Executing := by
  intro program member
  cases grows with
  | queued queue => exact executing program member
  | parked id slot isOpen => exact executing program member
  | connected mode => exact issued.connection_grows (.connected mode) room (executing program member)
  | loaded id isOpen =>
      rcases List.mem_append.mp member with old | new
      · exact executing program (List.mem_of_mem_filter old)
      · rw [List.mem_singleton.mp new]
        exact isOpen

theorem release (executing : service.Executing) (id : UInt32) :
    (Loopback.release id service).state.Executing := by
  by_cases isOpen : service.IsOpen id
  · rw [release_of_isOpen isOpen]
    intro program member
    obtain ⟨present, other⟩ := List.mem_filter.mp member
    exact List.mem_filter.mpr ⟨executing program present, other⟩
  · rw [release_of_not_isOpen isOpen]
    exact executing

end Executing
end Loopback
end Execution
end TileProgram
