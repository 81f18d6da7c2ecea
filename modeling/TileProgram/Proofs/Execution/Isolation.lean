import Mathlib.Data.List.Perm.Subperm
import TileProgram.Execution.Desk
import TileProgram.Proofs.Endings
import TileProgram.Proofs.Execution.Slots
import TileProgram.Proofs.Execution.Tables

/-!
# Connections are kept apart

Whatever is called, and in whatever order, programs and parked requests belong to
open connections.  A connection cannot run the program of another one, and closing
it takes away what belongs to it, tells the requests that it drops so, and leaves
everything else alone.  For the last, no slot may stand for two requests: a completer
that is handed over once is the reason.
-/

namespace TileProgram
namespace Execution

namespace Slots

variable {slots : Slots} {number : Nat}

/-- What is delivered to others does not concern a slot. -/
theorem get_deliverAll_of_forall_ne
    {deliveries : List Delivery}
    (others : ∀ delivery ∈ deliveries, number ≠ delivery.slot) :
    (slots.deliverAll deliveries).get number = slots.get number := by
  induction deliveries generalizing slots with
  | nil => rfl
  | cons delivery rest inductionHypothesis =>
      obtain ⟨other, others⟩ := List.forall_mem_cons.mp others
      exact (inductionHypothesis others).trans
        ((get_deliver slots delivery number).trans (if_neg other))

/-- One outcome that is delivered to many slots reaches each that is still waiting. -/
theorem get_deliverAll_of_mem
    {numbers : List Nat}
    (outcome : Outcome)
    (member : number ∈ numbers) :
    (slots.deliverAll (numbers.map fun slot => ⟨slot, outcome⟩)).get number =
      ((slots.get number).deliver outcome).2 := by
  induction numbers generalizing slots with
  | nil => cases member
  | cons first rest inductionHypothesis =>
      have here := get_deliver slots ⟨first, outcome⟩ number
      have again : ∀ slot : Slot, ((slot.deliver outcome).2.deliver outcome).2 =
          (slot.deliver outcome).2 := by
        intro slot
        cases slot <;> rfl
      by_cases later : number ∈ rest
      · refine (inductionHypothesis later).trans ?_
        rw [here]
        split
        · exact again _
        · rfl
      · have same : number = first := by simpa [later] using member
        have others : ∀ delivery ∈ rest.map (fun slot => (⟨slot, outcome⟩ : Delivery)),
            number ≠ delivery.slot := by
          intro delivery delivered
          obtain ⟨slot, present, rfl⟩ := List.mem_map.mp delivered
          rintro rfl
          exact later present
        exact (get_deliverAll_of_forall_ne others).trans (here.trans (if_pos same))

end Slots

namespace Loopback

variable {service : Loopback} {connection : UInt32} {request : Request}

/-- Why a request to run a program of another connection is refused. -/
inductive Refusal (service : Loopback) (connection : UInt32) (request : Request) : Error → Prop where
  | closed (isClosed : ¬ service.IsOpen connection) :
      Refusal service connection request (.invalidState (.notOpen connection))
  | compiling (isOpen : ⟨connection, .compileOnly⟩ ∈ service.connections) :
      Refusal service connection request (.modeMismatch .submit .compileOnly)
  | notToRun (isOpen : ⟨connection, .programExecution⟩ ∈ service.connections)
      (compiles : request.isCompile = true) :
      Refusal service connection request (.device .compileForExecution)
  | foreign (isOpen : ⟨connection, .programExecution⟩ ∈ service.connections)
      (runs : request.isCompile = false) :
      Refusal service connection request (.invalidState (.notLoaded request.program))

/-- The checks find that a program belongs to somebody else. -/
theorem checkSubmit_of_foreign
    {raw : Bytes}
    (tidy : service.Tidy)
    (read : Request.decode raw = .ok request)
    (foreign : ⟨request.program, connection⟩ ∉ service.programs)
    (inputs outputs : List Surface) :
    ∃ error, service.checkSubmit connection raw inputs outputs = .error error ∧
      Refusal service connection request error := by
  by_cases isOpen : service.IsOpen connection
  · obtain ⟨⟨id, mode⟩, present, rfl⟩ := List.mem_map.mp isOpen
    have passed := tidy.checkMode_of_mem present .programExecution .submit
    unfold checkSubmit
    cases mode with
    | compileOnly =>
        refine ⟨_, ?_, .compiling present⟩
        rw [passed]
        rfl
    | programExecution =>
        have owned : service.owns id request.program = false := by
          rw [← Bool.not_eq_true, owns_iff]
          exact foreign
        cases compiles : request.isCompile with
        | true =>
            refine ⟨_, ?_, .notToRun present compiles⟩
            rw [passed, read]
            simp only [if_true, Outcome.ok_bind, compiles]
            rfl
        | false =>
            refine ⟨_, ?_, .foreign present compiles⟩
            rw [passed, read]
            simp only [if_true, Outcome.ok_bind, compiles, owned]
            rfl
  · refine ⟨_, ?_, .closed isOpen⟩
    rw [checkSubmit, checkMode_of_not_isOpen isOpen]
    rfl

end Loopback

namespace Desk

variable {desk next : Desk} {count slot : Nat} {connection : UInt32} {calls : List Call}

/-- The slots that a request may still be parked for, or is. -/
def held (desk : Desk) : List Nat :=
  desk.counter.state.parked.map ParkedRequest.slot ++ desk.completers

/-- The tables are tidy, and every slot that was given out stands for one request. -/
structure Sound (desk : Desk) : Prop where
  tidy : desk.counter.state.Tidy
  apart : desk.held.Nodup
  given : ∀ slot ∈ desk.held, slot < desk.counter.slots.next

theorem sound_empty (behavior : Behavior) : Sound (empty behavior) :=
  ⟨Loopback.tidy_ofBehavior behavior, .nil, nofun⟩

/-- What a call makes of the state of the service: it grows, or a connection is released. -/
theorem state_step (desk : Desk) (call : Call) :
    (∃ issues ≤ if call.isNumbered then 1 else 0,
        Loopback.Grows desk.counter.state issues (desk.step call).counter.state) ∨
      ∃ id, (desk.step call).counter.state = (Loopback.release id desk.counter.state).state := by
  have kept : ∃ issues ≤ 0, Loopback.Grows desk.counter.state issues desk.counter.state :=
    ⟨0, Nat.le_refl 0, .refl _⟩
  have handedOver : ∀ (slot : Nat) (ask : Loopback → Reply Loopback Unit),
      Loopback.Grows desk.counter.state 0 (ask desk.counter.state).state →
      ∃ issues ≤ 0,
        Loopback.Grows desk.counter.state issues (desk.handOver slot ask).counter.state := by
    intro slot ask grows
    unfold handOver
    split
    · exact ⟨0, Nat.le_refl 0, grows⟩
    · exact kept
  cases call with
  | connect mode => exact .inl (Loopback.grows_connect mode _)
  | load connection program => exact .inl (Loopback.grows_load connection program _)
  | channel request => exact .inl kept
  | submit connection raw inputs outputs slot =>
      exact .inl (handedOver slot _ (Loopback.grows_submit ..))
  | compile connection raw description slot =>
      exact .inl (handedOver slot _ (Loopback.grows_compile ..))
  | release connection => exact .inr ⟨connection, rfl⟩
  | finish place => exact .inl ⟨0, Nat.le_refl 0, Loopback.grows_finish place _⟩
  | complete slot outcome => exact .inl (handedOver slot _ (.refl _))
  | wait handle timeout => exact .inl kept
  | cancel slot => exact .inl kept

namespace Sound

/-- Slots that are held among others that were are still different. -/
theorem of_subperm
    (sound : desk.Sound)
    (tidy : next.counter.state.Tidy)
    (held : next.held.Subperm desk.held)
    (le : desk.counter.slots.next ≤ next.counter.slots.next) :
    next.Sound where
  tidy := tidy
  apart := by
    obtain ⟨kept, perm, sublist⟩ := held
    exact perm.nodup_iff.mp (sound.apart.sublist sublist)
  given := fun slot member => Nat.lt_of_lt_of_le (sound.given slot (held.subset member)) le

/-- An answer of the service that parks nothing. -/
theorem take
    {Value : Type}
    {reply : Reply Loopback Value}
    (sound : desk.Sound)
    (tidy : reply.state.Tidy)
    (parked : reply.state.parked.Sublist desk.counter.state.parked) :
    (desk.take reply).Sound := by
  refine sound.of_subperm tidy ?_ (Slots.later_deliverAll _ _).next_le
  exact ((parked.map _).append (List.Sublist.refl _)).subperm

/-- A completer that is handed over is held by the service or by nobody. -/
theorem handOver
    {ask : Loopback → Reply Loopback Unit}
    (sound : desk.Sound)
    (tidy : (ask desk.counter.state).state.Tidy)
    (id : UInt32)
    (parked : (ask desk.counter.state).state.parked = desk.counter.state.parked ∨
      (ask desk.counter.state).state.parked = desk.counter.state.parked ++ [⟨id, slot⟩]) :
    (desk.handOver slot ask).Sound := by
  unfold Desk.handOver
  split
  · next present =>
    refine sound.of_subperm tidy ?_ (Slots.later_deliverAll _ _).next_le
    unfold held
    rcases parked with same | more
    · rw [Desk.take, Counter.accept, same]
      exact ((List.Sublist.refl _).append List.erase_sublist).subperm
    · rw [Desk.take, Counter.accept, more, List.map_append, List.append_assoc]
      exact ((List.perm_cons_erase present).symm.append_left _).subperm
  · exact sound

/-- A slot that is given out is a new one. -/
theorem channel (sound : desk.Sound) (request : UInt64) : (desk.step (.channel request)).Sound := by
  have held : (desk.step (.channel request)).held = desk.held ++ [desk.counter.slots.next] :=
    (List.append_assoc ..).symm
  refine ⟨sound.tidy, ?_, ?_⟩
  · rw [held]
    refine List.Nodup.append sound.apart (List.nodup_singleton _) ?_
    intro slot old new
    have given := sound.given slot old
    rw [List.mem_singleton.mp new] at given
    exact Nat.lt_irrefl _ given
  · rw [held]
    intro slot member
    rcases List.mem_append.mp member with old | new
    · exact Nat.lt_succ_of_lt (sound.given slot old)
    · rw [List.mem_singleton.mp new]
      exact Nat.lt_succ_self _

theorem step (sound : desk.Sound) (call : Call) : (desk.step call).Sound := by
  have tidy : (desk.step call).counter.state.Tidy := by
    rcases state_step desk call with ⟨issues, -, grows⟩ | ⟨id, released⟩
    · exact sound.tidy.grows grows
    · exact released ▸ sound.tidy.release id
  cases call with
  | connect mode => exact sound.take tidy (by rw [Loopback.parked_connect])
  | load connection program => exact sound.take tidy (by rw [Loopback.parked_load])
  | channel request => exact sound.channel request
  | submit connection raw inputs outputs slot =>
      exact sound.handOver (sound.tidy.grows (Loopback.grows_submit ..)) connection
        (Loopback.parked_submit ..)
  | compile connection raw description slot =>
      exact sound.handOver (sound.tidy.grows (Loopback.grows_compile ..)) connection
        (Loopback.parked_compile ..)
  | release connection => exact sound.take tidy (Loopback.parked_release ..)
  | finish place => exact sound.take tidy (List.Sublist.refl _)
  | complete slot outcome =>
      show (desk.handOver slot fun service => ⟨.ok (), service, [⟨slot, outcome⟩]⟩).Sound
      exact sound.handOver sound.tidy 0 (.inl rfl)
  | wait handle timeout => exact ⟨sound.tidy, sound.apart, sound.given⟩
  | cancel slot => exact ⟨sound.tidy, sound.apart, sound.given⟩

theorem run (sound : desk.Sound) (calls : List Call) : (desk.run calls).Sound := by
  induction calls generalizing desk with
  | nil => exact sound
  | cons call calls inductionHypothesis => exact inductionHypothesis (sound.step call)

end Sound

/-- A service that works finishes its queue from the front, one request after another. -/
theorem run_finish_front (desk : Desk) :
    desk.run (List.replicate desk.counter.state.queue.length (.finish 0)) =
      { desk with counter := desk.counter.work } := by
  obtain ⟨⟨state, slots⟩, completers⟩ := desk
  obtain ⟨behavior, lastId, connections, programs, parked, queue⟩ := state
  induction queue generalizing slots with
  | nil => rfl
  | cons delivery queue inductionHypothesis =>
      rw [List.length_cons, List.replicate_succ, run, List.foldl_cons]
      exact inductionHypothesis (slots.deliver delivery).2

/-- What is left of a desk when a connection is released. -/
structure Released (connection : UInt32) (before after : Desk) : Prop where
  connections : ∀ other, other ∈ after.counter.state.connections ↔
    other ∈ before.counter.state.connections ∧ other.id ≠ connection
  programs : ∀ program, program ∈ after.counter.state.programs ↔
    program ∈ before.counter.state.programs ∧ program.owner ≠ connection
  parked : ∀ request, request ∈ after.counter.state.parked ↔
    request ∈ before.counter.state.parked ∧ request.owner ≠ connection
  rest : after.counter.state.behavior = before.counter.state.behavior ∧
    after.counter.state.lastId = before.counter.state.lastId ∧
    after.counter.state.queue = before.counter.state.queue ∧
    after.counter.slots.next = before.counter.slots.next ∧ after.completers = before.completers
  dropped : ∀ request ∈ before.counter.state.parked, request.owner = connection →
    before.counter.slots.get request.slot = .waiting →
    after.counter.slots.get request.slot = .ready (.error (.device .dropped))
  settled : ∀ slot, before.counter.slots.get slot ≠ .waiting →
    after.counter.slots.get slot = before.counter.slots.get slot
  others : ∀ slot,
    (∀ request ∈ before.counter.state.parked, request.owner = connection →
      slot ≠ request.slot) →
    after.counter.slots.get slot = before.counter.slots.get slot
  spared : ∀ request ∈ before.counter.state.parked, request.owner ≠ connection →
    after.counter.slots.get request.slot = before.counter.slots.get request.slot

/-- The slots of the requests that are parked for a connection. -/
def parkedSlots (desk : Desk) (connection : UInt32) : List Nat :=
  (desk.counter.state.parked.filter fun request => request.owner == connection).map
    ParkedRequest.slot

theorem mem_parkedSlots_iff :
    slot ∈ desk.parkedSlots connection ↔
      ∃ request ∈ desk.counter.state.parked, request.owner = connection ∧ request.slot = slot := by
  simp [parkedSlots, and_assoc]

/-- Releasing a connection takes what belongs to it out of the tables. -/
theorem state_release (isOpen : desk.counter.state.IsOpen connection) :
    (desk.step (.release connection)).counter.state = desk.counter.state.without connection := by
  rw [step, take, Counter.accept, Loopback.release_of_isOpen isOpen]

/-- Releasing a connection tells its parked requests that they are dropped. -/
theorem slots_release (isOpen : desk.counter.state.IsOpen connection) :
    (desk.step (.release connection)).counter.slots =
      desk.counter.slots.deliverAll
        ((desk.parkedSlots connection).map fun slot => ⟨slot, .error (.device .dropped)⟩) := by
  rw [step, take, Counter.accept, Loopback.release_of_isOpen isOpen, parkedSlots, List.map_map]
  rfl

/-- A parked request of the connection hears that it is dropped if it still waits. -/
theorem get_release_of_mem
    (isOpen : desk.counter.state.IsOpen connection)
    (member : slot ∈ desk.parkedSlots connection) :
    (desk.step (.release connection)).counter.slots.get slot =
      ((desk.counter.slots.get slot).deliver (.error (.device .dropped))).2 := by
  rw [slots_release isOpen]
  exact Slots.get_deliverAll_of_mem _ member

theorem get_release_of_not_mem
    (isOpen : desk.counter.state.IsOpen connection)
    (absent : slot ∉ desk.parkedSlots connection) :
    (desk.step (.release connection)).counter.slots.get slot = desk.counter.slots.get slot := by
  rw [slots_release isOpen]
  refine Slots.get_deliverAll_of_forall_ne ?_
  intro delivery delivered
  obtain ⟨other, present, rfl⟩ := List.mem_map.mp delivered
  rintro rfl
  exact absent present

/-- No slot stands for a request of a connection and for one of another. -/
theorem Sound.not_mem_parkedSlots
    {request : ParkedRequest}
    (sound : desk.Sound)
    (present : request ∈ desk.counter.state.parked)
    (foreign : request.owner ≠ connection) :
    request.slot ∉ desk.parkedSlots connection := by
  intro member
  obtain ⟨twin, present', own, same⟩ := mem_parkedSlots_iff.mp member
  have distinct := (List.nodup_append.mp sound.apart).1
  rw [List.inj_on_of_nodup_map distinct present' present same] at own
  exact foreign own

theorem Sound.released
    (sound : desk.Sound)
    (isOpen : desk.counter.state.IsOpen connection) :
    Released connection desk (desk.step (.release connection)) where
  connections := by
    intro other
    simp [state_release isOpen, Loopback.without]
  programs := by
    intro program
    simp [state_release isOpen, Loopback.without]
  parked := by
    intro request
    simp [state_release isOpen, Loopback.without]
  rest := by
    rw [state_release isOpen, slots_release isOpen, Slots.next_deliverAll]
    exact ⟨rfl, rfl, rfl, rfl, rfl⟩
  dropped := by
    intro request present own waits
    rw [get_release_of_mem isOpen (mem_parkedSlots_iff.mpr ⟨request, present, own, rfl⟩), waits]
    rfl
  settled := by
    intro slot settled
    by_cases member : slot ∈ desk.parkedSlots connection
    · rw [get_release_of_mem isOpen member]
      cases found : desk.counter.slots.get slot with
      | waiting => exact absurd found settled
      | _ => rfl
    · exact get_release_of_not_mem isOpen member
  others := by
    intro slot different
    refine get_release_of_not_mem isOpen fun member => ?_
    obtain ⟨request, present, own, rfl⟩ := mem_parkedSlots_iff.mp member
    exact different request present own rfl
  spared := fun _ present foreign =>
    get_release_of_not_mem isOpen (sound.not_mem_parkedSlots present foreign)

/-- How connections are kept apart at a desk. -/
structure Isolated (desk : Desk) : Prop where
  programs : ∀ program ∈ desk.counter.state.programs, desk.counter.state.IsOpen program.owner
  parked : ∀ request ∈ desk.counter.state.parked, desk.counter.state.IsOpen request.owner
  foreign : ∀ connection raw request, Request.decode raw = .ok request →
    ∀ program ∈ desk.counter.state.programs, program.id = request.program →
    program.owner ≠ connection → ∀ inputs outputs slot, ∃ error,
      Loopback.submit connection raw inputs outputs slot desk.counter.state =
        desk.counter.state.refuse slot error ∧
      desk.counter.state.Refusal connection request error
  released : ∀ connection, desk.counter.state.IsOpen connection →
    Released connection desk (desk.step (.release connection))
  unknown : ∀ connection, ¬ desk.counter.state.IsOpen connection →
    desk.step (.release connection) = desk

theorem Sound.isolated (sound : desk.Sound) : desk.Isolated where
  programs := sound.tidy.owners
  parked := sound.tidy.parked
  foreign := by
    intro connection raw request read program present same other inputs outputs slot
    have foreign : ⟨request.program, connection⟩ ∉ desk.counter.state.programs := by
      intro owned
      rw [← same] at owned
      exact other (sound.tidy.owner_unique present owned)
    obtain ⟨error, refused, refusal⟩ :=
      Loopback.checkSubmit_of_foreign sound.tidy read foreign inputs outputs
    refine ⟨error, ?_, refusal⟩
    rw [Loopback.submit, refused]
  released := fun connection => sound.released
  unknown := by
    intro connection closed
    rw [Desk.step, Loopback.release_of_not_isOpen closed]
    rfl

/-- The numbers that are given out and what belongs to them, after some count of calls. -/
structure Counted (count : Nat) (desk : Desk) : Prop where
  issued : desk.counter.state.Issued count
  executing : desk.counter.state.Executing

theorem Counted.step
    (counted : desk.Counted count)
    (call : Call)
    (room : count + (if call.isNumbered then 1 else 0) < UInt32.size) :
    (desk.step call).Counted (count + if call.isNumbered then 1 else 0) := by
  rcases state_step desk call with ⟨issues, le, grows⟩ | ⟨id, released⟩
  · have enough : count + issues < UInt32.size :=
      Nat.lt_of_le_of_lt (Nat.add_le_add_left le count) room
    exact ⟨(counted.issued.grows grows enough).mono (Nat.add_le_add_left le count),
      counted.executing.grows counted.issued grows enough⟩
  · exact ⟨released ▸ (counted.issued.release id).mono (Nat.le_add_right _ _),
      released ▸ counted.executing.release id⟩

theorem Counted.run
    (counted : desk.Counted count)
    (room : count + calls.countP Call.isNumbered < UInt32.size) :
    (desk.run calls).Counted (count + calls.countP Call.isNumbered) := by
  induction calls generalizing desk count with
  | nil => exact counted
  | cons call calls inductionHypothesis =>
      rw [List.countP_cons, Nat.add_comm (calls.countP _), ← Nat.add_assoc] at room ⊢
      exact inductionHypothesis (counted.step call (by omega)) room

/-- Whatever is called, connections are kept apart; and programs belong to connections that may
run them unless more numbers are given out than there are. -/
theorem connections_isolated (behavior : Behavior) (calls : List Call) :
    ((empty behavior).run calls).Isolated ∧
      (calls.countP Call.isNumbered < UInt32.size →
        ((empty behavior).run calls).counter.state.Executing) := by
  refine ⟨((sound_empty behavior).run calls).isolated, fun room => ?_⟩
  have start : (empty behavior).Counted 0 := ⟨Loopback.issued_ofBehavior behavior, nofun⟩
  exact (start.run (by rwa [Nat.zero_add])).executing

/-- A request without surfaces that names the second number that is given out. -/
def bareRequest : Request :=
  ⟨1, 2, false, [], []⟩

/-- What is written for it. -/
def bareRecord : Bytes :=
  Bytes.resize bareRequest.headerBytes Request.byteCount

/-- One connection runs a program while another compiles. -/
def sharing : List Call :=
  [.connect .programExecution, .load 1 ⟨Container.formatVersion, 0, [], [], []⟩,
    .connect .compileOnly, .channel 1, .submit 1 bareRecord [] [] 0]

/-- A service that finishes nothing parks the request. -/
theorem sharing_isolated :
    ((empty { Behavior.sound with isStalled := true }).run sharing).Isolated ∧
      ((empty { Behavior.sound with isStalled := true }).run sharing).counter.state.Executing := by
  obtain ⟨isolated, executing⟩ :=
    connections_isolated { Behavior.sound with isStalled := true } sharing
  exact ⟨isolated, executing (by decide)⟩

/-- Connections that are opened one after another get one number after another, whatever these
stood for. -/
theorem state_connects
    (sound : desk.counter.state.behavior = .sound)
    (mode : Mode)
    (times : Nat) :
    (desk.run (List.replicate times (.connect mode))).counter.state.behavior = .sound ∧
      (desk.run (List.replicate times (.connect mode))).counter.state.lastId =
        desk.counter.state.lastId + UInt32.ofNat times ∧
      (desk.run (List.replicate times (.connect mode))).counter.state.programs =
        desk.counter.state.programs := by
  induction times generalizing desk with
  | zero => exact ⟨sound, (UInt32.add_zero _).symm, rfl⟩
  | succ times inductionHypothesis =>
      have connected : (desk.step (.connect mode)).counter.state =
          desk.counter.state.connected mode := by
        rw [step, take, Counter.accept, Loopback.connect, sound]
        rfl
      have still : (desk.step (.connect mode)).counter.state.behavior = .sound := by
        rw [connected]
        exact sound
      obtain ⟨behavior, last, programs⟩ := inductionHypothesis still
      refine ⟨behavior, last.trans ?_, programs.trans ?_⟩
      · rw [connected, UInt32.ofNat_add, UInt32.add_comm (UInt32.ofNat times)]
        exact UInt32.add_assoc _ _ _
      · rw [connected]
        rfl

theorem run_append (desk : Desk) (calls more : List Call) :
    desk.run (calls ++ more) = (desk.run calls).run more :=
  List.foldl_append

/-- A number that is given out again to a compile-only connection takes the programs of the
connection that had it along. -/
theorem exists_not_executing
    {owner program : UInt32}
    {times : Nat}
    (sound : desk.Sound)
    (behavior : desk.counter.state.behavior = .sound)
    (loaded : ⟨program, owner⟩ ∈ desk.counter.state.programs)
    (reissued : desk.counter.state.lastId + UInt32.ofNat times + 1 = owner) :
    ∃ calls, ¬ (desk.run calls).counter.state.Executing := by
  -- All connections but the last only use up the numbers between.
  refine ⟨List.replicate times (.connect .compileOnly) ++ [.connect .compileOnly], ?_⟩
  intro executing
  obtain ⟨still, last, programs⟩ := state_connects behavior .compileOnly times
  have round : (desk.run (List.replicate times (.connect .compileOnly) ++
      [.connect .compileOnly])).counter.state =
        (desk.run (List.replicate times (.connect .compileOnly))).counter.state.connected
          .compileOnly := by
    rw [run_append, run, List.foldl_cons, List.foldl_nil, step, take, Counter.accept,
      Loopback.connect, still]
    rfl
  have number : (desk.run (List.replicate times (.connect .compileOnly))).counter.state.nextId =
      owner := by
    rw [Loopback.nextId, last, reissued]
  have tidy := ((sound.run (List.replicate times (.connect .compileOnly))).tidy).grows
    (.connected .compileOnly)
  have compiling : ⟨owner, .compileOnly⟩ ∈ ((desk.run (List.replicate times
      (.connect .compileOnly))).counter.state.connected .compileOnly).connections := by
    rw [← number]
    exact List.mem_append_right _ (List.mem_singleton.mpr rfl)
  rw [round] at executing
  have running := executing ⟨program, owner⟩ (by rw [← programs] at loaded; exact loaded)
  have same := List.inj_on_of_nodup_map tidy.connections running compiling rfl
  cases same

/-- A request that names the program of another connection need not be refused for its state: a
compile-only connection may not run anything.  And after all numbers were given out, a program
can belong to a connection that may not run it. -/
theorem sharing_mismatch :
    (bareRequest.encode = .ok bareRecord ∧
      ⟨2, 1⟩ ∈ ((empty .sound).run sharing).counter.state.programs ∧
      (Loopback.submit 3 bareRecord [] [] 1 ((empty .sound).run sharing).counter.state).result =
        .error (.modeMismatch .submit .compileOnly)) ∧
      ∃ calls, ¬ ((empty .sound).run calls).counter.state.Executing := by
  refine ⟨⟨rfl, ?_, ?_⟩, ?_⟩
  · decide +kernel
  · decide +kernel
  · have loaded : ⟨2, 1⟩ ∈ ((empty .sound).run (sharing.take 2)).counter.state.programs := by
      decide +kernel
    have last : ((empty .sound).run (sharing.take 2)).counter.state.lastId = 2 := by
      decide +kernel
    have round : ((empty .sound).run (sharing.take 2)).counter.state.lastId +
        UInt32.ofNat 0xFFFFFFFE + 1 = 1 := by
      rw [last]
      decide
    obtain ⟨calls, reissued⟩ := exists_not_executing
      ((sound_empty .sound).run (sharing.take 2)) rfl loaded round
    rw [← run_append] at reissued
    exact ⟨_, reissued⟩

end Desk
end Execution
end TileProgram
