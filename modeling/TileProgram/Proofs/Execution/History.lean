import Mathlib.Data.List.Basic
import TileProgram.Execution.Rendezvous

/-!
# Histories of a slot

What took effect at a slot, latest first, determines how the slot stands: the
events change it one after another, each in one step.  In a faithful history
every party was told what the slot tells as it stood then.  From this alone it
follows which deliveries were accepted and how a wait ended.
-/

namespace TileProgram
namespace Execution

namespace Slot

/-- Gives up a slot that is still waiting. -/
def expire : Slot → Slot
  | .waiting => .timedOut
  | other => other

/-- Takes the outcome of a slot that has one. -/
def take : Slot → Slot
  | .ready outcome => .taken (succeeds outcome)
  | other => other

/-- A look gives up the slot if it is late, and then takes what is there. -/
theorem look_snd (request : UInt64) (timeout : Nat) (late : Bool) (slot : Slot) :
    (slot.look request timeout late).2 = (if late then slot.expire else slot).take := by
  cases late <;> cases slot <;> rfl

theorem look_late (request : UInt64) (timeout : Nat) (slot : Slot) :
    slot.look request timeout true = slot.expire.look request timeout false := by
  cases slot <;> rfl

/-- A slot that nothing changes any more. -/
def isFinal : Slot → Bool
  | .taken _ => true
  | .timedOut => true
  | .cancelled => true
  | _ => false

end Slot

namespace Rendezvous

namespace Event

/-- What an event makes of a slot. -/
def after (slot : Slot) : Event → Slot
  | .completed outcome _ => (slot.deliver outcome).2
  | .dropped _ => (slot.deliver droppedOutcome).2
  | .cancelled _ => slot.cancel
  | .late _ => slot.expire
  | .returned _ _ => slot.take
  | .called _ => slot
  | .observed _ _ => slot

/-- The outcome that an event stores, if it does. -/
def stored? : Event → Option Outcome
  | .completed outcome true => some outcome
  | .dropped true => some droppedOutcome
  | _ => none

/-- Whether an event is an accepted outcome, a timeout or a cancellation that had an effect. -/
def settles : Event → Bool
  | .completed _ accepted => accepted
  | .dropped accepted => accepted
  | .cancelled effective => effective
  | .late stillWaiting => stillWaiting
  | _ => false

end Event

/-- How a slot stands after some events, latest first. -/
def standing : List Event → Slot
  | [] => .waiting
  | event :: earlier => event.after (standing earlier)

/-- The outcomes that were stored. -/
def stored (history : List Event) : List Outcome :=
  history.filterMap Event.stored?

/-- What a party is told by a slot that stands as earlier events left it.  A
handle is waited for once, and the wait returns once. -/
def Event.Answers (request : UInt64) (earlier : List Event) : Event → Prop
  | .completed outcome accepted => ((standing earlier).deliver outcome).1 = accepted
  | .dropped accepted => ((standing earlier).deliver droppedOutcome).1 = accepted
  | .cancelled effective => (standing earlier).isCancellable = effective
  | .observed status ready => (standing earlier).status = status ∧ (standing earlier).isReady = ready
  | .called _ => ∀ timeout, .called timeout ∉ earlier
  | .late stillWaiting => (standing earlier).isReady = !stillWaiting
  | .returned found outcome =>
      standing earlier = found ∧
        (∃ timeout, .called timeout ∈ earlier ∧
          (found.look request (milliseconds timeout) false).1 = some outcome) ∧
        ∀ before outcome, .returned before outcome ∉ earlier

/-- Every party was told what the slot told when it was asked. -/
def Faithful (request : UInt64) (history : List Event) : Prop :=
  ∀ event earlier, event :: earlier <:+ history → event.Answers request earlier

theorem faithful_nil (request : UInt64) : Faithful request [] := by
  intro event earlier suffix
  cases List.suffix_nil.mp suffix

/-- What came before was faithful too. -/
theorem Faithful.earlier
    {request : UInt64}
    {history earlier : List Event}
    (faithful : Faithful request history)
    (suffix : earlier <:+ history) :
    Faithful request earlier :=
  fun event rest within => faithful event rest (within.trans suffix)

theorem faithful_cons {request : UInt64} {event : Event} {earlier : List Event} :
    Faithful request (event :: earlier) ↔
      event.Answers request earlier ∧ Faithful request earlier := by
  constructor
  · intro faithful
    exact ⟨faithful event earlier List.suffix_rfl, faithful.earlier (List.suffix_cons _ _)⟩
  · rintro ⟨answers, faithful⟩ other before suffix
    rcases List.suffix_cons_iff.mp suffix with same | within
    · cases same
      exact answers
    · exact faithful other before within

/-- How a slot came to stand as it does. -/
inductive Account (history : List Event) : Slot → Prop
  | waiting
      (none : ∀ event ∈ history, event.settles = false) :
      Account history .waiting
  | ready {outcome : Outcome}
      (kept : stored history = [outcome])
      (notLate : .late true ∉ history)
      (notCancelled : .cancelled true ∉ history) :
      Account history (.ready outcome)
  | taken {outcome : Outcome}
      (kept : stored history = [outcome])
      (notLate : .late true ∉ history)
      (notCancelled : .cancelled true ∉ history)
      (returned : ∃ found outcome, .returned found outcome ∈ history) :
      Account history (.taken (Slot.succeeds outcome))
  | timedOut
      (nothing : stored history = [])
      (late : .late true ∈ history)
      (notCancelled : .cancelled true ∉ history) :
      Account history .timedOut
  | cancelled
      (few : (stored history).length ≤ 1)
      (notLate : .late true ∉ history)
      (cancelled : .cancelled true ∈ history) :
      Account history .cancelled

variable {request : UInt64} {history earlier : List Event} {event : Event}

/-- An event that does not settle the slot stores nothing. -/
theorem stored?_of_unsettled (unsettled : event.settles = false) : event.stored? = none := by
  cases event with
  | completed outcome accepted =>
      cases accepted with
      | true => cases unsettled
      | false => rfl
  | dropped accepted =>
      cases accepted with
      | true => cases unsettled
      | false => rfl
  | _ => rfl

theorem stored_cons_of_none (nothing : event.stored? = none) :
    stored (event :: history) = stored history :=
  List.filterMap_cons_none nothing

/-- Nothing is stored when nothing settles. -/
theorem stored_eq_nil (none : ∀ event ∈ history, event.settles = false) : stored history = [] :=
  List.filterMap_eq_nil_iff.mpr fun event member => stored?_of_unsettled (none event member)

/-- An event that does not settle the slot leaves its account as it is. -/
theorem Account.unsettled
    {slot : Slot}
    (account : Account history slot)
    (unsettled : event.settles = false) :
    Account (event :: history) slot := by
  have kept : stored (event :: history) = stored history :=
    stored_cons_of_none (stored?_of_unsettled unsettled)
  have absent : ∀ {other : Event}, other.settles = true → other ∉ history →
      other ∉ event :: history := by
    intro other settles notBefore member
    rcases List.mem_cons.mp member with rfl | before
    · rw [unsettled] at settles
      cases settles
    · exact notBefore before
  cases account with
  | waiting none => exact .waiting (List.forall_mem_cons.mpr ⟨unsettled, none⟩)
  | ready one notLate notCancelled =>
      exact .ready (kept.trans one) (absent rfl notLate) (absent rfl notCancelled)
  | taken one notLate notCancelled returned =>
      obtain ⟨found, outcome, member⟩ := returned
      exact .taken (kept.trans one) (absent rfl notLate) (absent rfl notCancelled)
        ⟨found, outcome, List.mem_cons_of_mem _ member⟩
  | timedOut nothing late notCancelled =>
      exact .timedOut (kept.trans nothing) (List.mem_cons_of_mem _ late)
        (absent rfl notCancelled)
  | cancelled few notLate cancelled =>
      exact .cancelled (kept ▸ few) (absent rfl notLate) (List.mem_cons_of_mem _ cancelled)

/-- A delivery is stored when nothing came before it, and changes nothing otherwise. -/
theorem Account.delivered
    {slot : Slot}
    {outcome : Outcome}
    {accepted : Bool}
    (account : Account history slot)
    (answer : (slot.deliver outcome).1 = accepted)
    (settles : event.settles = accepted)
    (stores : accepted = true → event.stored? = some outcome ∧
      event ≠ .late true ∧ event ≠ .cancelled true) :
    Account (event :: history) (slot.deliver outcome).2 := by
  subst answer
  cases slot with
  | waiting =>
      obtain ⟨none⟩ := account
      obtain ⟨kept, notLate, notCancelled⟩ := stores rfl
      refine .ready ?_ ?_ ?_
      · rw [stored, List.filterMap_cons_some kept]
        exact congrArg _ (stored_eq_nil none)
      · intro member
        rcases List.mem_cons.mp member with same | before
        · exact notLate same.symm
        · cases none _ before
      · intro member
        rcases List.mem_cons.mp member with same | before
        · exact notCancelled same.symm
        · cases none _ before
  | _ => exact account.unsettled settles

/-- A cancellation gives up a slot that is waiting or ready. -/
theorem Account.cancel
    {slot : Slot}
    (account : Account history slot) :
    Account (.cancelled slot.isCancellable :: history) slot.cancel := by
  cases slot with
  | waiting =>
      obtain ⟨none⟩ := account
      refine .cancelled ?_ ?_ List.mem_cons_self
      · rw [stored_cons_of_none rfl, stored_eq_nil none]
        exact Nat.zero_le 1
      · intro member
        rcases List.mem_cons.mp member with same | before
        · cases same
        · cases none _ before
  | ready outcome =>
      obtain ⟨⟩ | ⟨one, notLate, -⟩ := account
      refine .cancelled ?_ ?_ List.mem_cons_self
      · rw [stored_cons_of_none rfl, one]
        exact Nat.le_refl 1
      · intro member
        rcases List.mem_cons.mp member with same | before
        · cases same
        · exact notLate before
  | _ => exact account.unsettled rfl

/-- A check that comes out late gives up a slot that is still waiting. -/
theorem Account.expire
    {slot : Slot}
    (account : Account history slot) :
    Account (.late (!slot.isReady) :: history) slot.expire := by
  cases slot with
  | waiting =>
      obtain ⟨none⟩ := account
      refine .timedOut ?_ List.mem_cons_self ?_
      · rw [stored_cons_of_none rfl, stored_eq_nil none]
      · intro member
        rcases List.mem_cons.mp member with same | before
        · cases same
        · cases none _ before
  | _ => exact account.unsettled rfl

/-- A wait that returns takes what is there. -/
theorem Account.take
    {slot found : Slot}
    {outcome : Outcome}
    (account : Account history slot) :
    Account (.returned found outcome :: history) slot.take := by
  have later : Account (.returned found outcome :: history) slot := account.unsettled rfl
  cases later with
  | waiting none => exact .waiting none
  | ready one notLate notCancelled =>
      exact .taken one notLate notCancelled ⟨found, outcome, List.mem_cons_self⟩
  | taken one notLate notCancelled returned =>
      exact .taken one notLate notCancelled returned
  | timedOut nothing late notCancelled => exact .timedOut nothing late notCancelled
  | cancelled few notLate cancelled => exact .cancelled few notLate cancelled

/-- Each event of a faithful history continues the account of the slot. -/
theorem Account.next
    (account : Account earlier (standing earlier))
    (answers : event.Answers request earlier) :
    Account (event :: earlier) (event.after (standing earlier)) := by
  cases event with
  | completed outcome accepted =>
      refine account.delivered answers rfl ?_
      rintro rfl
      exact ⟨rfl, nofun, nofun⟩
  | dropped accepted =>
      refine account.delivered answers rfl ?_
      rintro rfl
      exact ⟨rfl, nofun, nofun⟩
  | cancelled effective =>
      have effective : (standing earlier).isCancellable = effective := answers
      subst effective
      exact account.cancel
  | observed status ready => exact account.unsettled rfl
  | called timeout => exact account.unsettled rfl
  | late stillWaiting =>
      have ready : (standing earlier).isReady = !stillWaiting := answers
      rw [show stillWaiting = !(standing earlier).isReady by rw [ready, Bool.not_not]]
      exact account.expire
  | returned found outcome => exact account.take

/-- Every faithful history accounts for its slot. -/
theorem account_of_faithful (faithful : Faithful request history) :
    Account history (standing history) := by
  induction history with
  | nil => exact .waiting fun event member => absurd member List.not_mem_nil
  | cons event earlier inductionHypothesis =>
      obtain ⟨answers, faithful⟩ := faithful_cons.mp faithful
      exact (inductionHypothesis faithful).next answers

/-- A slot is waiting as long as nothing has settled it. -/
theorem standing_eq_waiting_iff (faithful : Faithful request history) :
    standing history = .waiting ↔ ∀ event ∈ history, event.settles = false := by
  have account := account_of_faithful faithful
  generalize standing history = slot at account
  constructor
  · rintro rfl
    cases account with
    | waiting none => exact none
  · intro none
    have nothing := stored_eq_nil none
    cases account with
    | waiting _ => rfl
    | ready one _ _ =>
        rw [nothing] at one
        cases one
    | taken one _ _ _ =>
        rw [nothing] at one
        cases one
    | timedOut _ late _ => cases none _ late
    | cancelled _ _ cancelled => cases none _ cancelled

/-- At most one outcome is ever stored. -/
theorem length_stored_le (faithful : Faithful request history) : (stored history).length ≤ 1 := by
  have account := account_of_faithful faithful
  generalize standing history = slot at account
  cases account with
  | waiting none => simp [stored_eq_nil none]
  | ready one _ _ => simp [one]
  | taken one _ _ _ => simp [one]
  | timedOut nothing _ _ => simp [nothing]
  | cancelled few _ _ => exact few

/-- A delivery is accepted when nothing has settled the slot before it, and is
then what the slot holds. -/
theorem deliver_first
    {outcome : Outcome}
    {accepted : Bool}
    (faithful : Faithful request history)
    (answer : ((standing history).deliver outcome).1 = accepted) :
    (accepted = true ↔ ∀ event ∈ history, event.settles = false) ∧
      (accepted = true → ((standing history).deliver outcome).2 = .ready outcome) := by
  rw [← standing_eq_waiting_iff faithful, ← answer]
  cases standing history <;> simp [Slot.deliver]

/-- Nothing changes a slot any more once its outcome is taken, or it is given up
or cancelled. -/
theorem standing_of_final
    {later : List Event}
    (suffix : earlier <:+ later)
    (final : (standing earlier).isFinal = true) :
    standing later = standing earlier := by
  obtain ⟨events, rfl⟩ := suffix
  induction events with
  | nil => rfl
  | cons event events inductionHypothesis =>
      show event.after (standing (events ++ earlier)) = standing earlier
      rw [inductionHypothesis]
      generalize standing earlier = slot at final ⊢
      cases slot with
      | waiting => cases final
      | ready outcome => cases final
      | _ => cases event <;> rfl

/-- A slot that has been settled does not wait again. -/
theorem standing_ne_waiting
    {later : List Event}
    (suffix : earlier <:+ later)
    (settled : standing earlier ≠ .waiting) :
    standing later ≠ .waiting := by
  obtain ⟨events, rfl⟩ := suffix
  induction events with
  | nil => exact settled
  | cons event events inductionHypothesis =>
      show event.after (standing (events ++ earlier)) ≠ .waiting
      generalize standing (events ++ earlier) = slot at inductionHypothesis ⊢
      cases slot with
      | waiting => exact absurd rfl inductionHypothesis
      | _ => cases event <;> nofun

/-- How a wait ends: with the outcome that was stored, unless it was cancelled
before; with a timeout, if a check of the deadline found the slot still waiting;
or with the cancellation. -/
structure Ends (request : UInt64) (earlier : List Event) (found : Slot) (outcome : Outcome) :
    Prop where
  ready : ∀ one, found = .ready one ↔ one ∈ stored earlier ∧ .cancelled true ∉ earlier
  timedOut : found = .timedOut ↔ .late true ∈ earlier
  cancelled : found = .cancelled ↔ .cancelled true ∈ earlier
  answer : found = .ready outcome ∨
    (found = .timedOut ∧ ∃ timeout, .called timeout ∈ earlier ∧
      outcome = .error (.timeout (milliseconds timeout))) ∨
    (found = .cancelled ∧ outcome = .error (.cancelled request))

/-- A wait in a faithful history ends in one of these ways. -/
theorem ends_of_faithful
    {found : Slot}
    {outcome : Outcome}
    (faithful : Faithful request (.returned found outcome :: earlier)) :
    Ends request earlier found outcome := by
  obtain ⟨⟨stands, ⟨timeout, called, looked⟩, once⟩, faithful⟩ := faithful_cons.mp faithful
  have account := account_of_faithful faithful
  rw [stands] at account
  cases account with
  | waiting none => cases looked
  | ready one notLate notCancelled =>
      cases looked
      constructor
      · simp [one, notCancelled, eq_comm]
      · simp [notLate]
      · simp [notCancelled]
      · exact .inl rfl
  | taken one notLate notCancelled returned =>
      obtain ⟨before, other, member⟩ := returned
      exact absurd member (once before other)
  | timedOut nothing late notCancelled =>
      cases looked
      constructor
      · simp [nothing]
      · simp [late]
      · simp [notCancelled]
      · exact .inr (.inl ⟨rfl, timeout, called, rfl⟩)
  | cancelled few notLate cancelled =>
      cases looked
      constructor
      · simp [cancelled]
      · simp [notLate]
      · simp [cancelled]
      · exact .inr (.inr ⟨rfl, rfl⟩)

end Rendezvous
end Execution
end TileProgram
