/-!
# Computations that succeed

A computation made of several steps succeeds exactly when each step does.
-/

namespace TileProgram
namespace Outcome

variable {ε δ α β : Type}

/-- A step followed by another succeeds exactly when both do. -/
theorem bind_eq_ok {first : Except ε α} {next : α → Except ε β} {result : β} :
    first.bind next = .ok result ↔ ∃ value, first = .ok value ∧ next value = .ok result := by
  cases first with
  | error error => simp [Except.bind]
  | ok value => simp [Except.bind]

/-- The same for steps written in sequence. -/
theorem seq_eq_ok {first : Except ε α} {next : α → Except ε β} {result : β} :
    (first >>= next) = .ok result ↔ ∃ value, first = .ok value ∧ next value = .ok result :=
  bind_eq_ok

theorem pure_eq_ok {value result : α} :
    (pure value : Except ε α) = .ok result ↔ value = result := by
  constructor
  · intro equal
    exact Except.ok.inj equal
  · rintro rfl
    rfl

theorem map_eq_ok {first : Except ε α} {change : α → β} {result : β} :
    first.map change = .ok result ↔ ∃ value, first = .ok value ∧ change value = result := by
  cases first with
  | error error => simp [Except.map]
  | ok value => simp [Except.map]

theorem mapError_eq_ok {first : Except ε α} {change : ε → δ} {result : α} :
    first.mapError change = .ok result ↔ first = .ok result := by
  cases first with
  | error error =>
      constructor
      · intro equal
        have equal : Except.error (change error) = .ok result := equal
        cases equal
      · intro equal
        cases equal
  | ok value =>
      constructor
      · intro equal
        have equal : (Except.ok value : Except δ α) = .ok result := equal
        cases equal
        rfl
      · intro equal
        cases equal
        rfl

/-- The result of a check says nothing but that the check passed. -/
theorem exists_unit {holds : Unit → Prop} : (∃ value, holds value) ↔ holds () := by
  constructor
  · rintro ⟨⟨⟩, held⟩
    exact held
  · intro held
    exact ⟨(), held⟩

/-- A test that throws is passed exactly when it is false. -/
theorem guard_eq_ok
    {bad : Prop}
    [Decidable bad]
    {error : ε}
    {next : PUnit → Except ε β}
    {result : β} :
    (if bad then throw error >>= next else next ⟨⟩) = .ok result ↔
      ¬ bad ∧ next ⟨⟩ = .ok result := by
  by_cases fails : bad
  · simp [fails, throw, throwThe, MonadExceptOf.throw, bind, Except.bind]
  · simp [fails]

/-- The same for a test that nothing follows. -/
theorem final_guard_eq_ok
    {bad : Prop}
    [Decidable bad]
    {error : ε} :
    ((if bad then throw error else pure ()) : Except ε Unit) = .ok () ↔ ¬ bad := by
  by_cases fails : bad
  · simp [fails, throw, throwThe, MonadExceptOf.throw]
  · simp [fails, pure, Except.pure]

/-- Applying steps to a list succeeds exactly when each of them does. -/
theorem mapM_eq_ok {step : α → Except ε β} {items : List α} {results : List β} :
    items.mapM step = .ok results ↔ items.map step = results.map .ok := by
  induction items generalizing results with
  | nil =>
      rw [List.mapM_nil, pure_eq_ok, List.map_nil]
      cases results with
      | nil => simp
      | cons result results => simp
  | cons item items inductionHypothesis =>
      simp only [List.mapM_cons, seq_eq_ok, pure_eq_ok, inductionHypothesis]
      cases results with
      | nil => simp
      | cons result results =>
          rw [List.map_cons, List.map_cons, List.cons.injEq]
          constructor
          · rintro ⟨first, here, others, rest, equal⟩
            cases equal
            exact ⟨here, rest⟩
          · rintro ⟨here, rest⟩
            exact ⟨result, here, results, rest, rfl⟩

/-- Applying steps to a list succeeds when each of them does. -/
theorem exists_mapM
    {step : α → Except ε β}
    {items : List α}
    (each : ∀ item ∈ items, ∃ result, step item = .ok result) :
    ∃ results, items.mapM step = .ok results := by
  induction items with
  | nil => exact ⟨[], rfl⟩
  | cons item rest inductionHypothesis =>
      obtain ⟨⟨result, here⟩, others⟩ := List.forall_mem_cons.mp each
      obtain ⟨results, later⟩ := inductionHypothesis others
      refine ⟨result :: results, ?_⟩
      rw [List.mapM_cons, seq_eq_ok]
      refine ⟨result, here, ?_⟩
      rw [seq_eq_ok]
      exact ⟨results, later, rfl⟩

/-- Choosing from a list gives what the choices that all succeed give. -/
theorem filterMapM_eq_ok
    {step : α → Except ε (Option β)}
    {items : List α}
    (choose : α → Option β)
    (steps : ∀ item ∈ items, step item = .ok (choose item)) :
    items.filterMapM step = .ok (items.filterMap choose) := by
  induction items with
  | nil => rfl
  | cons item items inductionHypothesis =>
      obtain ⟨here, rest⟩ := List.forall_mem_cons.mp steps
      rw [List.filterMapM_cons, here, List.filterMap_cons]
      simp only [bind, Except.bind, inductionHypothesis rest]
      cases choose item with
      | none => rfl
      | some chosen => rfl

/-- Whether a computation succeeds with a value that has a property. -/
instance decidableExistsOk {outcome : Except ε α} {property : α → Prop}
    [DecidablePred property] : Decidable (∃ value, outcome = .ok value ∧ property value) :=
  match outcome with
  | .error _ => isFalse fun ⟨_, equal, _⟩ => by cases equal
  | .ok value =>
      decidable_of_iff (property value)
        ⟨fun holds => ⟨value, rfl, holds⟩, fun ⟨_, equal, holds⟩ => by cases equal; exact holds⟩

end Outcome
end TileProgram
