import TileProgram.Proofs.Execution.History

/-!
# What the parties at a slot are told

Whatever the order in which the parties act, the history of a slot is faithful:
each of them is told what the slot tells, although the slot seems to be waiting
while a wait has taken its content out.  The lock is what hides this.  The
state of the lock, the slot and the waiter that carries the argument is kept by
each step.
-/

namespace TileProgram
namespace Execution
namespace Rendezvous

namespace Place

/-- Whether a wait at a place holds the lock. -/
def holdsLock : Place → Bool
  | .looking => true
  | .holding _ => true
  | .checked _ => true
  | _ => false

/-- Whether a wait has found its deadline passed and is about to act upon it. -/
def isLate : Place → Bool
  | .checked late => late
  | .roused late => late
  | _ => false

/-- Whether a wait has returned. -/
def isDone : Place → Bool
  | .done _ => true
  | _ => false

/-- What a slot holds while a wait is at a place.  It is not as it stands when
its content has been taken out, and a wait sleeps only while there is nothing. -/
def Fits (stand slot : Slot) : Place → Prop
  | .holding found => found = stand ∧ slot = .waiting
  | .asleep => slot = stand ∧ slot = .waiting
  | _ => slot = stand

end Place

namespace System

/-- What a slot holds, whether it is waited for or not. -/
def Fits (stand slot : Slot) : Option Waiting → Prop
  | none => slot = stand
  | some waiting => waiting.place.Fits stand slot

/-- The lock, the slot and the parties as they are after a history. -/
structure Sound (request : UInt64) (history : List Event) (system : System) : Prop where
  faithful : Faithful request history
  fits : Fits (standing history) system.slot system.waiter
  holder : system.lock = .waiter ↔
    ∃ waiting, system.waiter = some waiting ∧ waiting.place.holdsLock = true
  called : ∀ timeout, .called timeout ∈ history ↔
    ∃ waiting, system.waiter = some waiting ∧ waiting.call.timeout = timeout
  returned : ∀ found outcome, .returned found outcome ∈ history →
    ∃ call outcome, system.waiter = some ⟨call, .done outcome⟩
  timely : ∀ waiting, system.waiter = some waiting → waiting.place.isLate = true →
    waiting.call.isLate system.now = true
  overdue : ∀ stillWaiting, .late stillWaiting ∈ history →
    ∃ waiting, system.waiter = some waiting ∧ waiting.call.isLate system.now = true

variable {request : UInt64} {greatest : Nat} {history : List Event} {system next : System}

theorem sound_start (request : UInt64) (now : Nat) : Sound request [] (start now) := by
  constructor
  · exact faithful_nil request
  · rfl
  all_goals simp [start]

/-- A deadline that has passed stays so. -/
theorem isLate_mono
    {call : Call}
    {now later : Nat}
    (before : now ≤ later)
    (late : call.isLate now = true) :
    call.isLate later = true := by
  unfold Call.isLate at late ⊢
  cases deadline : call.deadline with
  | none =>
      rw [deadline] at late
      cases late
  | some instant =>
      rw [deadline] at late
      simp only [Option.any_some, decide_eq_true_eq] at late ⊢
      omega

theorem sound_pass
    (sound : Sound request history system)
    (duration : Nat) :
    Sound request history { system with now := system.now + duration } where
  faithful := sound.faithful
  fits := sound.fits
  holder := sound.holder
  called := sound.called
  returned := sound.returned
  timely := fun waiting present late =>
    isLate_mono (Nat.le_add_right _ _) (sound.timely waiting present late)
  overdue := by
    intro stillWaiting member
    obtain ⟨waiting, present, late⟩ := sound.overdue stillWaiting member
    exact ⟨waiting, present, isLate_mono (Nat.le_add_right _ _) late⟩

/-- Somebody else takes the lock only when it is free. -/
theorem sound_ask
    {visit : Visit}
    (sound : Sound request history system)
    (asked : system.ask visit = some next) :
    Sound request history next := by
  unfold ask at asked
  split at asked
  · next free =>
    split at asked
    · cases asked
    · cases asked
      have holder := sound.holder
      rw [free] at holder
      exact ⟨sound.faithful, sound.fits, ⟨nofun, fun inside => nomatch holder.mpr inside⟩,
        sound.called, sound.returned, sound.timely, sound.overdue⟩
  · cases asked

/-- A wait that moves on without effect. -/
theorem Sound.silent
    {call : Call}
    {before place : Place}
    {slot : Slot}
    {lock : Lock}
    (sound : Sound request history system)
    (present : system.waiter = some ⟨call, before⟩)
    (running : before.isDone = false)
    (fits : place.Fits (standing history) slot)
    (holder : lock = .waiter ↔ place.holdsLock = true)
    (timely : place.isLate = true → before.isLate = true ∨ call.isLate system.now = true) :
    Sound request history ({ system with slot := slot, lock := lock }.moved call place) where
  faithful := sound.faithful
  fits := fits
  holder := by simpa [moved] using holder
  called := by simpa [moved, present] using sound.called
  returned := by
    intro found outcome member
    obtain ⟨other, last, finished⟩ := sound.returned found outcome member
    rw [present] at finished
    cases finished
    cases running
  timely := by
    intro waiting same late
    cases Option.some.inj same
    rcases timely late with was | passed
    · have passed := sound.timely _ present was
      exact passed
    · exact passed
  overdue := by
    intro stillWaiting member
    obtain ⟨waiting, same, late⟩ := sound.overdue stillWaiting member
    rw [present] at same
    cases same
    exact ⟨_, rfl, late⟩

/-- The waiter takes the lock only when it is free. -/
theorem sound_enter
    {call : Call}
    {before place : Place}
    (sound : Sound request history system)
    (present : system.waiter = some ⟨call, before⟩)
    (running : before.isDone = false)
    (fits : place.Fits (standing history) system.slot)
    (holds : place.holdsLock = true)
    (timely : place.isLate = true → before.isLate = true)
    (entered : system.enter call place = some next) :
    Sound request history next := by
  unfold enter at entered
  split at entered
  · cases entered
    exact sound.silent present running fits (iff_of_true rfl holds) fun late => .inl (timely late)
  · cases entered

theorem sound_rouse
    {late : Bool}
    (sound : Sound request history system)
    (roused : system.rouse late = some next) :
    Sound request history next := by
  unfold rouse at roused
  split at roused
  · next call present =>
    split at roused
    · cases roused
    · next possible =>
      cases roused
      have fits := sound.fits
      rw [present] at fits
      refine sound.silent present rfl fits.1 ?_ fun isLate => .inr ?_
      · rw [sound.holder, present]
        simp [Place.holdsLock]
      · have isLate : late = true := isLate
        simpa [isLate] using possible
  · cases roused

/-- The slot after a call of a wait is as before, and the call is recorded. -/
theorem sound_call
    {timeout : Nat}
    (sound : Sound request history system)
    (called : system.call greatest timeout = some next) :
    Sound request (.called timeout :: history) next := by
  unfold call at called
  split at called
  · next absent =>
    cases called
    have notCalled : ∀ other, .called other ∉ history := by
      intro other member
      obtain ⟨waiting, present, -⟩ := (sound.called other).mp member
      rw [absent] at present
      cases present
    constructor
    · exact faithful_cons.mpr ⟨notCalled, sound.faithful⟩
    · have fits := sound.fits
      rw [absent] at fits
      exact fits
    · have holder := sound.holder
      simp only [absent] at holder
      simpa [moved, Place.holdsLock] using holder
    · intro other
      rw [List.mem_cons]
      simp [moved, notCalled, Call.start, eq_comm]
    · intro found outcome member
      obtain ⟨call, last, finished⟩ := sound.returned found outcome (by simpa using member)
      rw [absent] at finished
      cases finished
    · intro waiting same late
      cases Option.some.inj same
      cases late
    · intro stillWaiting member
      obtain ⟨waiting, present, -⟩ := sound.overdue stillWaiting (by simpa using member)
      rw [absent] at present
      cases present
  · cases called

/-- A visitor changes the slot as its event says, and is told what the slot tells. -/
theorem visit_act (visit : Visit) (slot : Slot) :
    (visit.act slot).1 = (visit.act slot).2.2.after slot ∧
      (∀ earlier, standing earlier = slot → (visit.act slot).2.2.Answers request earlier) := by
  constructor
  · cases visit <;> rfl
  · rintro earlier rfl
    cases visit with
    | observe => exact ⟨rfl, rfl⟩
    | _ => rfl

/-- A visitor that does not wake up the waiter has changed nothing. -/
theorem visit_quiet
    {visit : Visit}
    {slot : Slot}
    (quiet : (visit.act slot).2.1 = false) :
    (visit.act slot).1 = slot := by
  cases visit with
  | complete outcome =>
      cases slot with
      | waiting => cases quiet
      | _ => rfl
  | dropCompleter =>
      cases slot with
      | waiting => cases quiet
      | _ => rfl
  | cancel =>
      cases slot with
      | waiting => cases quiet
      | ready outcome => cases quiet
      | _ => rfl
  | observe => rfl

/-- The event of a visit is none of the waiter. -/
theorem visit_event (visit : Visit) (slot : Slot) :
    (∀ timeout, (visit.act slot).2.2 ≠ .called timeout) ∧
      (∀ found outcome, (visit.act slot).2.2 ≠ .returned found outcome) ∧
      ∀ stillWaiting, (visit.act slot).2.2 ≠ .late stillWaiting := by
  cases visit with
  | _ => simp [Visit.act]

/-- While somebody else holds the lock the waiter does not. -/
theorem Sound.outside
    {waiting : Waiting}
    (sound : Sound request history system)
    (other : system.lock ≠ .waiter)
    (present : system.waiter = some waiting) :
    waiting.place.holdsLock = false := by
  by_contra inside
  exact other (sound.holder.mpr ⟨waiting, present, by simpa using inside⟩)

/-- A slot whose lock is not held by the waiter is as it stands. -/
theorem Sound.slot_eq
    (sound : Sound request history system)
    (other : system.lock ≠ .waiter) :
    system.slot = standing history := by
  have fits := sound.fits
  cases present : system.waiter with
  | none => rwa [present] at fits
  | some waiting =>
      have outside := sound.outside other present
      obtain ⟨call, place⟩ := waiting
      rw [present] at fits
      cases place with
      | holding found => cases outside
      | asleep => exact fits.1
      | _ => exact fits

/-- A waiter can be woken up at any time. -/
theorem sound_notify (sound : Sound request history system) :
    Sound request history system.notify := by
  unfold notify
  split
  · next call present =>
    have fits := sound.fits
    rw [present] at fits
    refine sound.silent present rfl fits.1 ?_ nofun
    rw [sound.holder, present]
    simp [Place.holdsLock]
  · exact sound

/-- Waking up the waiter changes nothing else. -/
theorem notify_with (system : System) (slot : Slot) (lock : Lock) :
    { system with slot := slot, lock := lock }.notify =
      { system.notify with slot := slot, lock := lock } := by
  obtain ⟨now, before, holder, unused, waiter⟩ := system
  cases waiter with
  | none => rfl
  | some waiting =>
      obtain ⟨call, place⟩ := waiting
      cases place <;> rfl

/-- The slot and the lock do not depend on whether the waiter is woken up; only
then it does not sleep. -/
theorem notify_frame (system : System) :
    system.notify.slot = system.slot ∧ system.notify.lock = system.lock ∧
      ∀ call, system.notify.waiter ≠ some ⟨call, .asleep⟩ := by
  unfold notify
  split
  · exact ⟨rfl, rfl, fun call => by simp [moved]⟩
  · next awake => exact ⟨rfl, rfl, awake⟩

/-- A visitor acts on the slot as it stands.  A waiter that sleeps may go on
sleeping if nothing has changed. -/
theorem sound_visit
    {visit : Visit}
    (sound : Sound request history system)
    (held : system.lock ≠ .waiter)
    (awake : (∀ call, system.waiter ≠ some ⟨call, .asleep⟩) ∨
      (visit.act system.slot).1 = system.slot) :
    Sound request ((visit.act system.slot).2.2 :: history)
      { system with slot := (visit.act system.slot).1, lock := .free } := by
  have stands := sound.slot_eq held
  obtain ⟨after, answers⟩ := @visit_act request visit system.slot
  obtain ⟨notCalled, notReturned, notLate⟩ := visit_event visit system.slot
  constructor
  · exact faithful_cons.mpr ⟨answers history stands.symm, sound.faithful⟩
  · have fits := sound.fits
    show Fits ((visit.act system.slot).2.2.after (standing history)) (visit.act system.slot).1
      system.waiter
    rw [← stands, ← after]
    cases present : system.waiter with
    | none => rfl
    | some waiting =>
        have outside := sound.outside held present
        obtain ⟨call, place⟩ := waiting
        rw [present] at fits awake
        cases place with
        | holding found => cases outside
        | asleep =>
            rcases awake with awake | same
            · exact absurd rfl (awake call)
            · exact ⟨rfl, same.trans fits.2⟩
        | _ => rfl
  · refine ⟨nofun, ?_⟩
    rintro ⟨waiting, present, inside⟩
    rw [sound.outside held present] at inside
    cases inside
  · intro timeout
    rw [List.mem_cons, or_iff_right (notCalled timeout).symm]
    exact sound.called timeout
  · intro found outcome member
    rw [List.mem_cons, or_iff_right (notReturned found outcome).symm] at member
    exact sound.returned found outcome member
  · exact sound.timely
  · intro stillWaiting member
    rw [List.mem_cons, or_iff_right (notLate stillWaiting).symm] at member
    exact sound.overdue stillWaiting member

/-- A visitor that holds the lock can always act, and leaves it. -/
theorem act_of_visitor
    {visit : Visit}
    (held : system.lock = .visitor visit) :
    system.act = some
      (if (visit.act system.slot).2.1 then
        { system with slot := (visit.act system.slot).1, lock := .free }.notify
      else { system with slot := (visit.act system.slot).1, lock := .free },
        (visit.act system.slot).2.2) := by
  rw [act, held]

/-- What a visitor does is as if the waiter had been woken up first. -/
theorem sound_act
    {event : Event}
    (sound : Sound request history system)
    (acted : system.act = some (next, event)) :
    Sound request (event :: history) next := by
  cases held : system.lock with
  | free =>
      rw [act, held] at acted
      cases acted
  | waiter =>
      rw [act, held] at acted
      cases acted
  | visitor visit =>
      have other : system.lock ≠ .waiter := by
        rw [held]
        exact nofun
      rw [act_of_visitor held, Option.some.injEq, Prod.mk.injEq] at acted
      obtain ⟨rfl, rfl⟩ := acted
      -- A waiter that is woken up afterwards would still sleep beside a slot that has
      -- something in it, so the step is taken from the system in which it is awake.
      by_cases wakes : (visit.act system.slot).2.1 = true
      · obtain ⟨slot, lock, awake⟩ := system.notify_frame
        have visited := @sound_visit request history system.notify visit (sound_notify sound)
          (lock ▸ other) (.inl awake)
        rw [slot] at visited
        rw [if_pos wakes, notify_with]
        exact visited
      · rw [if_neg wakes]
        exact sound_visit sound other (.inr (visit_quiet (by simpa using wakes)))

/-- A wait that moves on with an effect on the slot, or returns. -/
theorem Sound.effect
    {call : Call}
    {before place : Place}
    {slot : Slot}
    {lock : Lock}
    {event : Event}
    (sound : Sound request history system)
    (present : system.waiter = some ⟨call, before⟩)
    (running : before.isDone = false)
    (answers : event.Answers request history)
    (fits : place.Fits (event.after (standing history)) slot)
    (holder : lock = .waiter ↔ place.holdsLock = true)
    (notCalled : ∀ timeout, event ≠ .called timeout)
    (returns : ∀ found outcome, event = .returned found outcome → place = .done outcome)
    (onTime : place.isLate = false)
    (late : ∀ stillWaiting, event = .late stillWaiting → call.isLate system.now = true) :
    Sound request (event :: history)
      ({ system with slot := slot, lock := lock }.moved call place) where
  faithful := faithful_cons.mpr ⟨answers, sound.faithful⟩
  fits := fits
  holder := by simpa [moved] using holder
  called := by
    intro timeout
    rw [List.mem_cons, or_iff_right (notCalled timeout).symm, sound.called]
    simp [moved, present]
  returned := by
    intro found outcome member
    rcases List.mem_cons.mp member with same | earlier
    · exact ⟨call, outcome, by rw [moved, returns found outcome same.symm]⟩
    · obtain ⟨other, last, finished⟩ := sound.returned found outcome earlier
      rw [present] at finished
      cases finished
      cases running
  timely := by
    intro waiting same isLate
    cases Option.some.inj same
    rw [onTime] at isLate
    cases isLate
  overdue := by
    intro stillWaiting member
    rcases List.mem_cons.mp member with same | earlier
    · exact ⟨_, rfl, late stillWaiting same.symm⟩
    · obtain ⟨waiting, same, passed⟩ := sound.overdue stillWaiting earlier
      rw [present] at same
      cases same
      exact ⟨_, rfl, passed⟩

section Wait

variable {call : Call} {found : Slot}

/-- A wait that finds something returns what a look at it gives. -/
theorem sound_giveBack
    {outcome : Outcome}
    (sound : Sound request history system)
    (present : system.waiter = some ⟨call, .holding found⟩)
    (looked : (found.look request (milliseconds call.timeout) false).1 = some outcome) :
    Sound request (.returned found outcome :: history)
      (system.giveBack call found found.take outcome).1 := by
  have fits := sound.fits
  rw [present] at fits
  obtain ⟨stands, emptied⟩ := fits
  have called := (sound.called call.timeout).mpr ⟨_, present, rfl⟩
  have running : ∀ before outcome, .returned before outcome ∉ history := by
    intro before other member
    obtain ⟨_, _, finished⟩ := sound.returned before other member
    rw [present] at finished
    cases finished
  refine sound.effect present rfl ⟨stands.symm, ⟨call.timeout, called, looked⟩, running⟩ ?_ ?_
    (by simp) ?_ rfl (by simp)
  · rw [← stands]
    rfl
  · exact ⟨nofun, nofun⟩
  · rintro _ _ same
    cases same
    rfl

/-- With the content of the slot in its hands a wait sleeps, finds its deadline
passed, or returns. -/
theorem sound_consider
    (sound : Sound request history system)
    (present : system.waiter = some ⟨call, .holding found⟩) :
    Sound request ((system.consider request call found).2.toList ++ history)
      (system.consider request call found).1 := by
  have fits := sound.fits
  rw [present] at fits
  obtain ⟨stands, emptied⟩ := fits
  cases found with
  | waiting =>
      rw [consider]
      by_cases late : call.isLate system.now = true
      · rw [if_pos late]
        refine sound.silent present rfl (emptied.trans stands) ?_ fun _ => .inr late
        rw [sound.holder, present]
        simp [Place.holdsLock]
      · rw [if_neg late]
        refine sound.silent present rfl ⟨emptied.trans stands, emptied⟩ ⟨nofun, ?_⟩ ?_
        · simp [Place.holdsLock]
        · simp [Place.isLate]
  | ready outcome => exact sound_giveBack sound present rfl
  | taken succeeded => exact sound_giveBack sound present rfl
  | timedOut => exact sound_giveBack sound present rfl
  | cancelled => exact sound_giveBack sound present rfl

/-- A wait that has found its deadline passed gives up a slot that is still waiting. -/
theorem sound_giveUp
    (sound : Sound request history system)
    (present : system.waiter = some ⟨call, .checked true⟩) :
    Sound request ((system.giveUp call).2.toList ++ history) (system.giveUp call).1 := by
  have stands : system.slot = standing history := by
    have fits := sound.fits
    rwa [present] at fits
  have late := sound.timely _ present rfl
  have held : system.lock = .waiter := sound.holder.mpr ⟨_, present, rfl⟩
  rw [giveUp]
  by_cases ready : system.slot.isReady = true
  · rw [if_pos ready]
    refine sound.effect present rfl ?_ ?_ (iff_of_true held rfl) (by simp) (by simp) rfl
      fun _ _ => late
    · rwa [stands] at ready
    · show system.slot = (standing history).expire
      rw [← stands]
      cases kept : system.slot with
      | waiting =>
          rw [kept] at ready
          cases ready
      | _ => rfl
  · rw [if_neg ready]
    have waits : system.slot = .waiting := by
      cases kept : system.slot with
      | waiting => rfl
      | _ => exact absurd (by rw [kept]; rfl) ready
    refine sound.effect present rfl ?_ ?_ (iff_of_true held rfl) (by simp) (by simp) rfl
      fun _ _ => late
    · show (standing history).isReady = false
      rw [← stands, waits]
      rfl
    · show Slot.timedOut = (standing history).expire
      rw [← stands, waits]
      rfl

end Wait

/-- A step of a wait, by the place where the wait stands. -/
inductive Advances (request : UInt64) (system : System) : System → Option Event → Prop where
  | entered {call : Call} {next : System}
      (present : system.waiter = some ⟨call, .entering⟩)
      (enters : system.enter call .looking = some next) :
      Advances request system next none
  | took {call : Call}
      (present : system.waiter = some ⟨call, .looking⟩) :
      Advances request system
        ({ system with slot := .waiting }.moved call (.holding system.slot)) none
  | considered {call : Call} {found : Slot}
      (present : system.waiter = some ⟨call, .holding found⟩) :
      Advances request system (system.consider request call found).1
        (system.consider request call found).2
  | gaveUp {call : Call}
      (present : system.waiter = some ⟨call, .checked true⟩) :
      Advances request system (system.giveUp call).1 (system.giveUp call).2
  | looksAgain {call : Call}
      (present : system.waiter = some ⟨call, .checked false⟩) :
      Advances request system (system.moved call .looking) none
  | reentered {call : Call} {late : Bool} {next : System}
      (present : system.waiter = some ⟨call, .roused late⟩)
      (enters : system.enter call (.checked late) = some next) :
      Advances request system next none

/-- A wait that sleeps or has returned does not go on. -/
theorem advances_of_proceed
    {event : Option Event}
    (proceeded : system.proceed request = some (next, event)) :
    Advances request system next event := by
  unfold proceed at proceeded
  cases present : system.waiter with
  | none =>
      rw [present] at proceeded
      cases proceeded
  | some waiting =>
      obtain ⟨call, place⟩ := waiting
      rw [present] at proceeded
      cases place with
      | entering =>
          obtain ⟨entered, enters, equal⟩ := Option.map_eq_some_iff.mp proceeded
          cases equal
          exact .entered present enters
      | looking =>
          cases proceeded
          exact .took present
      | holding found =>
          have considered : Advances request system _ _ := .considered present
          rwa [Option.some.inj proceeded] at considered
      | checked late =>
          cases late with
          | true =>
              have gaveUp : Advances request system _ _ := .gaveUp present
              rwa [Option.some.inj proceeded] at gaveUp
          | false =>
              cases proceeded
              exact .looksAgain present
      | asleep => cases proceeded
      | roused late =>
          obtain ⟨entered, enters, equal⟩ := Option.map_eq_some_iff.mp proceeded
          cases equal
          exact .reentered present enters
      | done outcome => cases proceeded

/-- Each step of a wait keeps the system sound. -/
theorem sound_proceed
    {event : Option Event}
    (sound : Sound request history system)
    (proceeded : system.proceed request = some (next, event)) :
    Sound request (event.toList ++ history) next := by
  have fits := sound.fits
  cases advances_of_proceed proceeded with
  | entered present enters =>
      rw [present] at fits
      refine sound_enter sound present ?_ ?_ ?_ ?_ enters
      · rfl
      · exact fits
      · rfl
      · simp [Place.isLate]
  | took present =>
      rw [present] at fits
      exact sound.silent present rfl ⟨fits, rfl⟩
        (iff_of_true (sound.holder.mpr ⟨_, present, rfl⟩) rfl) (by simp [Place.isLate])
  | considered present => exact sound_consider sound present
  | gaveUp present => exact sound_giveUp sound present
  | looksAgain present =>
      rw [present] at fits
      exact sound.silent present rfl fits
        (iff_of_true (sound.holder.mpr ⟨_, present, rfl⟩) rfl) (by simp [Place.isLate])
  | reentered present enters =>
      rw [present] at fits
      refine sound_enter sound present ?_ ?_ ?_ ?_ enters
      · rfl
      · exact fits
      · rfl
      · exact id

/-- Whatever happens next keeps the system sound. -/
theorem sound_step
    {action : Action}
    {event : Option Event}
    (sound : Sound request history system)
    (stepped : system.step request greatest action = some (next, event)) :
    Sound request (event.toList ++ history) next := by
  cases action with
  | pass duration =>
      cases stepped
      exact sound_pass sound duration
  | ask visit =>
      obtain ⟨asked, asks, equal⟩ := Option.map_eq_some_iff.mp stepped
      cases equal
      exact sound_ask sound asks
  | act =>
      obtain ⟨⟨after, effect⟩, acts, equal⟩ := Option.map_eq_some_iff.mp stepped
      cases equal
      exact sound_act sound acts
  | call timeout =>
      obtain ⟨called, calls, equal⟩ := Option.map_eq_some_iff.mp stepped
      cases equal
      exact sound_call sound calls
  | proceed => exact sound_proceed sound stepped
  | rouse late =>
      obtain ⟨roused, rouses, equal⟩ := Option.map_eq_some_iff.mp stepped
      cases equal
      exact sound_rouse sound rouses

/-- So does everything that happens, in any order. -/
theorem sound_perform
    {actions : List Action}
    {events : List Event}
    (sound : Sound request history system)
    (performed : perform request greatest actions system = some (next, events)) :
    Sound request (events ++ history) next := by
  induction actions generalizing system history events with
  | nil =>
      cases performed
      exact sound
  | cons action rest inductionHypothesis =>
      rw [perform, Option.bind_eq_bind, Option.bind_eq_some_iff] at performed
      obtain ⟨⟨middle, event⟩, stepped, performed⟩ := performed
      obtain ⟨⟨last, later⟩, remaining, equal⟩ := Option.bind_eq_some_iff.mp performed
      cases equal
      rw [List.append_assoc]
      exact inductionHypothesis (sound_step sound stepped) remaining

end System
end Rendezvous
end Execution
end TileProgram
