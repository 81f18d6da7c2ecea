import Mathlib.Data.List.Chain
import TileProgram.Container.Reader
import TileProgram.Proofs.Outcome

/-!
# Chains of records

Following the links of a container succeeds exactly on chains: every position
but the last leads forward to another slot that lies inside, and the last one
ends the chain.  A chain never comes back to a record, so the list of visited
positions decides nothing.
-/

namespace TileProgram
namespace Container

variable {link : Nat → Except Register.Error Nat} {length : Nat}

/-- A record links to another slot of the array that lies behind it and inside
the container. -/
structure Follows
    (link : Nat → Except Register.Error Nat)
    (length offset target : Nat) : Prop where
  linked : link offset = .ok target
  forward : offset + Register.recordSize ≤ target
  aligned : (target - arrayOffset) % Register.recordSize = 0
  inside : target + Register.recordSize ≤ length

/-- Positions of which each one links to the next, and the last one to none. -/
structure Chained
    (link : Nat → Except Register.Error Nat)
    (length : Nat)
    (positions : List Nat) : Prop where
  steps : positions.IsChain (Follows link length)
  ends : ∃ final, positions.getLast? = some final ∧ link final = .ok Descriptor.chainEnd

theorem recordSize_pos : 0 < Register.recordSize := by decide

/-- A single position is a chain when it links to none. -/
theorem chained_singleton {offset : Nat} :
    Chained link length [offset] ↔ link offset = .ok Descriptor.chainEnd := by
  constructor
  · rintro ⟨-, final, equal, ends⟩
    cases equal
    exact ends
  · intro ends
    exact ⟨.singleton _, offset, rfl, ends⟩

/-- A longer chain is a link followed by a chain. -/
theorem chained_cons_cons {offset target : Nat} {rest : List Nat} :
    Chained link length (offset :: target :: rest) ↔
      Follows link length offset target ∧ Chained link length (target :: rest) := by
  constructor
  · rintro ⟨steps, final, equal, ends⟩
    rw [List.isChain_cons_cons] at steps
    rw [List.getLast?_cons_cons] at equal
    exact ⟨steps.1, steps.2, final, equal, ends⟩
  · rintro ⟨step, steps, final, equal, ends⟩
    refine ⟨List.isChain_cons_cons.mpr ⟨step, steps⟩, final, ?_, ends⟩
    rwa [List.getLast?_cons_cons]

/-- Nothing is wrong with a link exactly when it follows, if all visited
positions lie before. -/
theorem linkError?_eq_none_iff
    {visited : List Nat}
    {index offset target : Nat}
    (before : ∀ position ∈ visited, position < offset)
    (linked : link offset = .ok target) :
    linkError? length (offset :: visited) index offset target = none ↔
      Follows link length offset target := by
  have positive := recordSize_pos
  constructor
  · intro sound
    obtain ⟨forward, inside⟩ := linkError?_eq_none sound
    refine ⟨linked, forward, ?_, inside⟩
    unfold linkError? at sound
    split at sound
    · cases sound
    split at sound
    · cases sound
    split at sound
    · cases sound
    split at sound
    · cases sound
    next aligned => exact Decidable.not_not.mp aligned
  · intro follows
    obtain ⟨-, forward, aligned, inside⟩ := follows
    have fresh : (offset :: visited).contains target = false := by
      rw [List.contains_eq_mem, decide_eq_false_iff_not, List.mem_cons]
      rintro (same | present)
      · omega
      · have := before target present
        omega
    rw [linkError?, if_neg (by omega), fresh, if_neg (by decide), if_neg (by omega),
      if_neg (by omega)]

/-- The link of a position that follows another one does not end the chain. -/
theorem Follows.ne_chainEnd
    {offset target : Nat}
    (follows : Follows link length offset target) :
    target ≠ Descriptor.chainEnd := by
  have positive := recordSize_pos
  have forward := follows.forward
  unfold Descriptor.chainEnd
  omega

/-- A position that follows the last visited one lies behind all of them. -/
theorem Follows.behind
    {visited : List Nat}
    {offset target : Nat}
    (follows : Follows link length offset target)
    (before : ∀ position ∈ visited, position < offset) :
    ∀ position ∈ offset :: visited, position < target := by
  have positive := recordSize_pos
  have forward := follows.forward
  intro position present
  rcases List.mem_cons.mp present with rfl | present
  · omega
  · have := before position present
    omega

/-- One step of following links: the chain ends here, or goes on at the next position. -/
theorem walkFrom_step_iff
    {visited : List Nat}
    {index offset : Nat}
    {positions : List Nat}
    (before : ∀ position ∈ visited, position < offset) :
    walkFrom link length visited index offset = .ok positions ↔
      link offset = .ok Descriptor.chainEnd ∧ positions = [offset] ∨
      ∃ target rest, Follows link length offset target ∧
        walkFrom link length (offset :: visited) (index + 1) target = .ok rest ∧
        positions = offset :: rest := by
  rw [walkFrom]
  cases linked : link offset with
  | error error =>
      constructor
      · intro walked
        cases walked
      · rintro (⟨ends, -⟩ | ⟨target, rest, follows, -⟩)
        · cases ends
        · rw [follows.linked] at linked
          cases linked
  | ok target =>
      have unique : ∀ other, Follows link length offset other → other = target := by
        intro other follows
        rw [follows.linked] at linked
        exact Except.ok.inj linked
      dsimp only
      by_cases ends : target = Descriptor.chainEnd
      · rw [if_pos ends]
        constructor
        · intro walked
          exact Or.inl ⟨by rw [ends], (Except.ok.inj walked).symm⟩
        · rintro (⟨-, rfl⟩ | ⟨other, rest, follows, -⟩)
          · rfl
          · exact absurd (unique other follows ▸ ends) follows.ne_chainEnd
      · rw [if_neg ends]
        split
        · next error wrong =>
            constructor
            · intro walked
              cases walked
            · rintro (⟨last, -⟩ | ⟨other, rest, follows, -⟩)
              · exact absurd (Except.ok.inj last) ends
              · rw [unique other follows] at follows
                rw [(linkError?_eq_none_iff before linked).mpr follows] at wrong
                cases wrong
        · next sound =>
            have follows := (linkError?_eq_none_iff before linked).mp sound
            constructor
            · intro walked
              split at walked
              · cases walked
              · next rest walkedRest =>
                  exact Or.inr ⟨target, rest, follows, walkedRest, (Except.ok.inj walked).symm⟩
            · rintro (⟨last, -⟩ | ⟨other, rest, follows, walkedRest, rfl⟩)
              · exact absurd (Except.ok.inj last) ends
              · rw [unique other follows] at walkedRest
                rw [walkedRest]

/-- Links are followed to the end exactly along chains. -/
theorem walkFrom_eq_ok_iff
    {visited : List Nat}
    {index offset : Nat}
    {positions : List Nat}
    (before : ∀ position ∈ visited, position < offset) :
    walkFrom link length visited index offset = .ok positions ↔
      positions.head? = some offset ∧ Chained link length positions := by
  induction positions generalizing visited index offset with
  | nil =>
      rw [walkFrom_step_iff before]
      simp
  | cons position rest inductionHypothesis =>
      rw [walkFrom_step_iff before, List.head?_cons, Option.some.injEq]
      constructor
      · rintro (⟨ends, equal⟩ | ⟨target, others, follows, walked, equal⟩)
        · cases equal
          exact ⟨rfl, chained_singleton.mpr ends⟩
        · cases equal
          obtain ⟨head, chained⟩ := (inductionHypothesis (follows.behind before)).mp walked
          cases rest with
          | nil => cases head
          | cons next rest =>
              cases head
              exact ⟨rfl, chained_cons_cons.mpr ⟨follows, chained⟩⟩
      · rintro ⟨rfl, chained⟩
        cases rest with
        | nil => exact Or.inl ⟨chained_singleton.mp chained, rfl⟩
        | cons target rest =>
            obtain ⟨follows, chained⟩ := chained_cons_cons.mp chained
            refine Or.inr ⟨target, target :: rest, follows, ?_, rfl⟩
            exact (inductionHypothesis (follows.behind before)).mpr ⟨rfl, chained⟩

end Container
end TileProgram
