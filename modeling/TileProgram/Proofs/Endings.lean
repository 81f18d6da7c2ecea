import TileProgram.Proofs.Bytes.Slices
import TileProgram.Proofs.Outcome

/-!
# How computations end

A computation ends with a value or with an error, and the errors it can end
with are those of its steps.  A computation whose accesses are guarded has a
third ending: none at all, when an access is out of range.  It never ends so
when it is the guarded form of a plain computation, which is shown along the
sequence of its steps: each access is in range by what the steps before it have
checked.
-/

namespace TileProgram

namespace Outcome

variable {ε α β : Type}

/-- Every error that a computation can end with is allowed. -/
def FailsWith (allowed : ε → Prop) (outcome : Except ε α) : Prop :=
  ∀ error, outcome = .error error → allowed error

variable {allowed : ε → Prop}

@[simp] theorem failsWith_ok (value : α) : FailsWith allowed (.ok value : Except ε α) := by
  intro error failed
  cases failed

@[simp] theorem failsWith_pure (value : α) : FailsWith allowed (pure value : Except ε α) :=
  failsWith_ok value

@[simp] theorem failsWith_error {error : ε} :
    FailsWith allowed (.error error : Except ε α) ↔ allowed error := by
  constructor
  · intro fails
    exact fails error rfl
  · rintro holds other equal
    cases equal
    exact holds

@[simp] theorem failsWith_throw {error : ε} :
    FailsWith allowed (throw error : Except ε α) ↔ allowed error :=
  failsWith_error

/-- A step that succeeds is followed by the rest. -/
@[simp] theorem ok_bind (value : α) (next : α → Except ε β) :
    ((.ok value : Except ε α) >>= next) = next value := rfl

/-- A step followed by another fails exactly when it fails, or when it succeeds and the other one
fails. -/
theorem seq_eq_error {first : Except ε α} {next : α → Except ε β} {error : ε} :
    (first >>= next) = .error error ↔
      first = .error error ∨ ∃ value, first = .ok value ∧ next value = .error error := by
  cases first with
  | error other => simp [bind, Except.bind]
  | ok value => simp [bind, Except.bind]

/-- A sequence fails as its first step does, or as its second one does after the first. -/
theorem FailsWith.bind
    {first : Except ε α}
    {next : α → Except ε β}
    (here : FailsWith allowed first)
    (later : ∀ value, first = .ok value → FailsWith allowed (next value)) :
    FailsWith allowed (first >>= next) := by
  cases first with
  | error error => exact failsWith_error.mpr (here error rfl)
  | ok value => exact later value rfl

/-- A computation whose result is changed fails as it did. -/
theorem FailsWith.map
    {outcome : Except ε α}
    {change : α → β}
    (fails : FailsWith allowed outcome) :
    FailsWith allowed (outcome.map change) := by
  cases outcome with
  | error error => exact failsWith_error.mpr (fails error rfl)
  | ok value => exact failsWith_ok (change value)

/-- A test fails with the error it throws, and what follows fails when the test is passed. -/
theorem FailsWith.guard
    {bad : Prop}
    [Decidable bad]
    {error : ε}
    {next : PUnit → Except ε β}
    (here : allowed error)
    (later : ¬ bad → FailsWith allowed (next ⟨⟩)) :
    FailsWith allowed (if bad then throw error >>= next else next ⟨⟩) := by
  split
  · exact failsWith_error.mpr here
  · next passed => exact later passed

/-- A computation ends with an error that is allowed. -/
def StopsWith (allowed : ε → Prop) (outcome : Except ε α) : Prop :=
  ∃ error, outcome = .error error ∧ allowed error

/-- A computation gives a certain value, unless an allowed error stops it. -/
def GivesUnless (allowed : ε → Prop) (outcome : Except ε α) (value : α) : Prop :=
  outcome = .ok value ∨ StopsWith allowed outcome

/-- A sequence whose first step is stopped is stopped. -/
theorem StopsWith.bind
    {first : Except ε α}
    (stops : StopsWith allowed first)
    (next : α → Except ε β) :
    StopsWith allowed (first >>= next) := by
  obtain ⟨error, failed, holds⟩ := stops
  exact ⟨error, by rw [failed]; rfl, holds⟩

/-- A sequence gives the result of its second step, unless one of the two is stopped. -/
theorem GivesUnless.bind
    {first : Except ε α}
    {next : α → Except ε β}
    {value : α}
    {result : β}
    (here : GivesUnless allowed first value)
    (later : first = .ok value → GivesUnless allowed (next value) result) :
    GivesUnless allowed (first >>= next) result := by
  rcases here with passed | stops
  · have after := later passed
    rwa [passed]
  · exact Or.inr (stops.bind next)

/-- A sequence is stopped when its second step is stopped after the first one has given its
value. -/
theorem GivesUnless.stopsWith_bind
    {first : Except ε α}
    {next : α → Except ε β}
    {value : α}
    (here : GivesUnless allowed first value)
    (later : first = .ok value → StopsWith allowed (next value)) :
    StopsWith allowed (first >>= next) := by
  rcases here with passed | stops
  · have after := later passed
    rwa [passed]
  · exact stops.bind next

end Outcome

/-- A computation that has no outcome when an access is out of range. -/
abbrev Guarded (ε α : Type) := ExceptT ε Option α

namespace Guarded

variable {ε δ α β : Type}

/-- A computation that makes no access. -/
def of (outcome : Except ε α) : Guarded ε α :=
  ExceptT.mk (some outcome)

/-- An access that is out of range. -/
def outOfRange : Guarded ε α :=
  ExceptT.mk none

/-- Requires what an access depends on. -/
def require (inRange : Prop) [Decidable inRange] : Guarded ε Unit :=
  if inRange then of (.ok ()) else outOfRange

/-- The item of a list at an index. -/
def item (items : List α) (index : Nat) : Guarded ε α :=
  match items[index]? with
  | some found => of (.ok found)
  | none => outOfRange

/-- The bytes from one position up to another. -/
def slice (bytes : Bytes) (start stop : Nat) : Guarded ε Bytes := do
  require (start ≤ stop ∧ stop ≤ bytes.length)
  return bytes.slice start (stop - start)

/-- The difference of a number and a smaller one. -/
def difference (whole part : Nat) : Guarded ε Nat := do
  require (part ≤ whole)
  return whole - part

/-- Gives the errors of a computation another form. -/
def mapError (change : ε → δ) (computation : Guarded ε α) : Guarded δ α :=
  ExceptT.mk (computation.run.map (Except.mapError change))

@[simp] theorem pure_eq (value : α) : (pure value : Guarded ε α) = of (.ok value) := rfl

@[simp] theorem throw_eq (error : ε) : (throw error : Guarded ε α) = of (.error error) := rfl

@[simp] theorem mapError_of (change : ε → δ) (outcome : Except ε α) :
    mapError change (of outcome) = of (outcome.mapError change) := rfl

@[simp] theorem of_ok_bind (value : α) (next : α → Guarded ε β) :
    (of (.ok value) >>= next) = next value := rfl

/-- A step that makes no access is followed by the rest if it succeeds. -/
theorem of_bind
    {first : Except ε α}
    {next : α → Except ε β}
    {guarded : α → Guarded ε β}
    (agree : ∀ value, first = .ok value → guarded value = of (next value)) :
    (of first >>= guarded) = of (first >>= next) := by
  cases first with
  | error error => rfl
  | ok value => exact agree value rfl

/-- A sequence is the guarded form of a plain one when its steps are. -/
theorem bind_eq_of
    {first : Except ε α}
    {guardedFirst : Guarded ε α}
    {next : α → Except ε β}
    {guarded : α → Guarded ε β}
    (here : guardedFirst = of first)
    (later : ∀ value, first = .ok value → guarded value = of (next value)) :
    (guardedFirst >>= guarded) = of (first >>= next) := by
  rw [here]
  exact of_bind later

/-- A test is the guarded form of a plain one when what follows it is. -/
theorem guard_eq_of
    {bad : Prop}
    [Decidable bad]
    {error : ε}
    {next : PUnit → Except ε β}
    {guarded : PUnit → Guarded ε β}
    (later : ¬ bad → guarded ⟨⟩ = of (next ⟨⟩)) :
    (if bad then throw error >>= guarded else guarded ⟨⟩) =
      of (if bad then throw error >>= next else next ⟨⟩) := by
  split
  · rfl
  · next passed => exact later passed

@[simp] theorem require_bind
    {inRange : Prop}
    [Decidable inRange]
    (holds : inRange)
    (next : Unit → Guarded ε β) :
    (require inRange >>= next) = next () := by
  rw [require, if_pos holds]
  rfl

theorem item_eq
    {items : List α}
    {index : Nat}
    {found : α}
    (present : items[index]? = some found) :
    (item items index : Guarded ε α) = of (.ok found) := by
  rw [item, present]

theorem slice_eq
    {bytes : Bytes}
    {start stop : Nat}
    (forward : start ≤ stop)
    (inside : stop ≤ bytes.length) :
    (slice bytes start stop : Guarded ε Bytes) = of (.ok (bytes.slice start (stop - start))) :=
  require_bind ⟨forward, inside⟩ _

/-- A slice of a given length that lies inside. -/
theorem slice_add_eq
    {bytes : Bytes}
    {start length : Nat}
    (inside : start + length ≤ bytes.length) :
    (slice bytes start (start + length) : Guarded ε Bytes) =
      of (.ok (bytes.slice start length)) := by
  rw [slice_eq (Nat.le_add_right start length) inside, Nat.add_sub_cancel_left]

theorem difference_eq {whole part : Nat} (smaller : part ≤ whole) :
    (difference whole part : Guarded ε Nat) = of (.ok (whole - part)) :=
  require_bind smaller _

/-- Applying guarded steps to a list is the guarded form of applying the plain ones. -/
theorem mapM_eq_of
    {step : α → Except ε β}
    {guarded : α → Guarded ε β}
    {items : List α}
    (agree : ∀ item ∈ items, guarded item = of (step item)) :
    items.mapM guarded = of (items.mapM step) := by
  induction items with
  | nil => rfl
  | cons item rest inductionHypothesis =>
      obtain ⟨here, others⟩ := List.forall_mem_cons.mp agree
      rw [List.mapM_cons, List.mapM_cons]
      refine bind_eq_of here ?_
      intro result _
      refine bind_eq_of (inductionHypothesis others) ?_
      intro results _
      rfl

/-- Steps whose accesses are all in range and that succeed. -/
theorem mapM_eq_ok
    {value : α → β}
    {guarded : α → Guarded ε β}
    {items : List α}
    (agree : ∀ item ∈ items, guarded item = of (.ok (value item))) :
    items.mapM guarded = of (.ok (items.map value)) := by
  have plain : items.mapM guarded = of (items.mapM fun item => .ok (value item)) :=
    mapM_eq_of agree
  rw [plain]
  exact congrArg of List.mapM_pure

end Guarded
end TileProgram
