import TileProgram.Execution.Service
import TileProgram.Proofs.Execution.History

/-!
# What can become of slots

An outcome that was taken, given up or cancelled stays so.  Deliveries and waits
cancel nothing, and a wait only concerns a slot that somebody has a handle of.
These facts hold from one state of the slots to any later one; a cancellation is
the one change that needs to be named.
-/

namespace TileProgram
namespace Execution
namespace Slot

variable {slot : Slot} {outcome : Outcome} {request : UInt64} {timeout : Nat}

/-- A slot is final exactly when its request is no longer pending. -/
theorem isFinal_iff : slot.isFinal = true ↔ slot.status ≠ .pending := by
  cases slot with
  | taken succeeded => cases succeeded <;> simp [isFinal, status]
  | _ => simp [isFinal, status]

/-- A delivery settles nothing by itself. -/
@[simp] theorem isFinal_deliver : (slot.deliver outcome).2.isFinal = slot.isFinal := by
  cases slot <;> rfl

/-- What is delivered to a final slot is dropped. -/
theorem deliver_of_isFinal (final : slot.isFinal = true) :
    slot.deliver outcome = (false, slot) := by
  cases slot with
  | waiting => cases final
  | _ => rfl

theorem deliver_eq_cancelled (cancelled : (slot.deliver outcome).2 = .cancelled) :
    slot = .cancelled := by
  cases slot with
  | cancelled => rfl
  | _ => cases cancelled

/-- After a wait there is nothing more to wait for. -/
@[simp] theorem isFinal_wait : (slot.wait request timeout).2.isFinal = true := by
  cases slot <;> rfl

theorem wait_of_isFinal (final : slot.isFinal = true) :
    (slot.wait request timeout).2 = slot := by
  cases slot with
  | waiting => cases final
  | ready outcome => cases final
  | _ => rfl

theorem wait_eq_cancelled (cancelled : (slot.wait request timeout).2 = .cancelled) :
    slot = .cancelled := by
  cases slot with
  | cancelled => rfl
  | _ => cases cancelled

/-- After a cancellation the request is settled, one way or the other. -/
@[simp] theorem isFinal_cancel : slot.cancel.isFinal = true := by
  cases slot <;> rfl

theorem cancel_of_isFinal (final : slot.isFinal = true) : slot.cancel = slot := by
  cases slot with
  | waiting => cases final
  | ready outcome => cases final
  | _ => rfl

end Slot

namespace Slots

variable {before between after slots : Slots}

/-- The state of a slot after one slot was replaced. -/
theorem get_put (slots : Slots) (number other : Nat) (slot : Slot) :
    (slots.put number slot).get other = if other = number then slot else slots.get other := by
  split
  · next same =>
    subst same
    exact get_put_self slots other slot
  · next different => exact get_put_of_ne slots slot different

/-- The state of a slot after a delivery. -/
theorem get_deliver (slots : Slots) (delivery : Delivery) (number : Nat) :
    (slots.deliver delivery).2.get number =
      if number = delivery.slot then ((slots.get number).deliver delivery.outcome).2
      else slots.get number := by
  rw [deliver, get_put]
  split
  · next same => rw [same]
  · rfl

/-- The state of a slot after a wait. -/
theorem get_wait (slots : Slots) (handle : Handle) (timeout number : Nat) :
    (slots.wait handle timeout).2.get number =
      if number = handle.slot then ((slots.get number).wait handle.request timeout).2
      else slots.get number := by
  rw [wait, get_put]
  split
  · next same => rw [same]
  · rfl

/-- The state of a slot after a cancellation. -/
theorem get_cancel (slots : Slots) (cancelled number : Nat) :
    (slots.cancel cancelled).get number =
      if number = cancelled then (slots.get number).cancel else slots.get number := by
  rw [cancel, get_put]
  split
  · next same => rw [same]
  · rfl

@[simp] theorem next_deliver (slots : Slots) (delivery : Delivery) :
    (slots.deliver delivery).2.next = slots.next := rfl

@[simp] theorem next_deliverAll (slots : Slots) (deliveries : List Delivery) :
    (slots.deliverAll deliveries).next = slots.next := by
  induction deliveries generalizing slots with
  | nil => rfl
  | cons delivery deliveries inductionHypothesis => exact inductionHypothesis _

/-- What comes of slots without a cancellation: what is final stays as it is, and a
slot that has not been given out is not waited for. -/
structure Later (before after : Slots) : Prop where
  next_le : before.next ≤ after.next
  final : ∀ number, (before.get number).isFinal = true → after.get number = before.get number
  cancelled : ∀ number, after.get number = .cancelled → before.get number = .cancelled
  untouched : ∀ number, after.next ≤ number →
    (after.get number).isFinal = true → (before.get number).isFinal = true

theorem Later.refl (slots : Slots) : Later slots slots :=
  ⟨Nat.le_refl _, fun _ _ => rfl, fun _ cancelled => cancelled, fun _ _ final => final⟩

theorem Later.trans (first : Later before between) (second : Later between after) :
    Later before after where
  next_le := Nat.le_trans first.next_le second.next_le
  final := by
    intro number final
    have kept := first.final number final
    rw [second.final number (kept ▸ final), kept]
  cancelled := fun number cancelled => first.cancelled number (second.cancelled number cancelled)
  untouched := fun number new final =>
    first.untouched number (Nat.le_trans second.next_le new) (second.untouched number new final)

/-- Slots that agree with others and are given out no earlier come later. -/
theorem later_of_get
    (next_le : before.next ≤ after.next)
    (same : ∀ number, after.get number = before.get number) :
    Later before after where
  next_le := next_le
  final := fun number _ => same number
  cancelled := fun number cancelled => same number ▸ cancelled
  untouched := fun number _ final => same number ▸ final

theorem later_allot (slots : Slots) (request : UInt64) : Later slots (slots.allot request).2 :=
  later_of_get (Nat.le_succ _) (slots.get_allot request)

theorem later_deliver (slots : Slots) (delivery : Delivery) :
    Later slots (slots.deliver delivery).2 where
  next_le := Nat.le_refl _
  final := by
    intro number final
    rw [get_deliver, Slot.deliver_of_isFinal final, ite_self]
  cancelled := by
    intro number cancelled
    rw [get_deliver] at cancelled
    split at cancelled
    · exact Slot.deliver_eq_cancelled cancelled
    · exact cancelled
  untouched := by
    intro number _ final
    rw [get_deliver] at final
    split at final <;> simpa using final

theorem later_deliverAll (slots : Slots) (deliveries : List Delivery) :
    Later slots (slots.deliverAll deliveries) := by
  induction deliveries generalizing slots with
  | nil => exact .refl slots
  | cons delivery deliveries inductionHypothesis =>
      exact (later_deliver slots delivery).trans (inductionHypothesis _)

/-- A wait for a slot that was given out. -/
theorem later_wait
    {handle : Handle}
    (given : handle.slot < slots.next)
    (timeout : Nat) :
    Later slots (slots.wait handle timeout).2 where
  next_le := Nat.le_refl _
  final := by
    intro number final
    rw [get_wait, Slot.wait_of_isFinal final, ite_self]
  cancelled := by
    intro number cancelled
    rw [get_wait] at cancelled
    split at cancelled
    · exact Slot.wait_eq_cancelled cancelled
    · exact cancelled
  untouched := by
    intro number new final
    have new : slots.next ≤ number := new
    rwa [get_wait, if_neg (by omega)] at final

/-- A cancellation leaves what is final as it is. -/
theorem get_cancel_of_isFinal
    {number : Nat}
    (final : (slots.get number).isFinal = true)
    (cancelled : Nat) :
    (slots.cancel cancelled).get number = slots.get number := by
  rw [get_cancel, Slot.cancel_of_isFinal final, ite_self]

/-- Nobody has waited for a slot that was not given out. -/
def Fresh (slots : Slots) : Prop :=
  ∀ number, slots.next ≤ number → (slots.get number).isFinal = false

theorem fresh_empty : Fresh empty := fun _ _ => rfl

theorem Fresh.later (fresh : Fresh before) (later : Later before after) : Fresh after := by
  intro number new
  by_contra final
  have final := later.untouched number new (by simpa using final)
  rw [fresh number (Nat.le_trans later.next_le new)] at final
  cases final

/-- A slot that was given out can be cancelled. -/
theorem Fresh.cancel
    {cancelled : Nat}
    (fresh : Fresh slots)
    (given : cancelled < slots.next) :
    Fresh (slots.cancel cancelled) := by
  intro number new
  have new : slots.next ≤ number := new
  rw [get_cancel, if_neg (by omega)]
  exact fresh number new

end Slots
end Execution
end TileProgram
