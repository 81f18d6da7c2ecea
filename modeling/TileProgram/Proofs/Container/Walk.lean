import TileProgram.Proofs.Container.Access

/-!
# Where a walk ends

A walk comes from the first slot to one record after the other, each one in a
slot behind the last one.  It ends at a record that points nowhere, and else at
the first pointer that leads out of the container, back to a record that was
visited, back in the container, or into the middle of a slot.
-/

namespace TileProgram
namespace Container

/-- A walk comes to a record after it has visited others. -/
inductive Trail (bytes : Bytes) : List Nat → Nat → Prop
  | start
      (room : arrayOffset + Register.recordSize ≤ bytes.length) :
      Trail bytes [] arrayOffset
  | step
      {earlier : List Nat}
      {offset target : Nat}
      (trail : Trail bytes earlier offset)
      (follows : Follows (linkAt bytes) bytes.length offset target) :
      Trail bytes (earlier ++ [offset]) target

/-- A link at which a walk stops, and the error that tells of it. -/
inductive BadLink (length : Nat) (earlier : List Nat) (offset target : Nat) : ProgramError → Prop
  | truncated
      (outside : length < target + Register.recordSize) :
      BadLink length earlier offset target
        (.truncated .record target Register.recordSize length)
  | cyclic
      (inside : target + Register.recordSize ≤ length)
      (visited : target ∈ earlier ++ [offset]) :
      BadLink length earlier offset target (.cyclicChain target)
  | backward
      (inside : target + Register.recordSize ≤ length)
      (fresh : target ∉ earlier ++ [offset])
      (before : target < offset + Register.recordSize) :
      BadLink length earlier offset target
        (.invalidContainer (.backwardLink earlier.length offset target))
  | misaligned
      (inside : target + Register.recordSize ≤ length)
      (fresh : target ∉ earlier ++ [offset])
      (forward : offset + Register.recordSize ≤ target)
      (between : ¬ ∃ slot, target = arrayOffset + slot * Register.recordSize) :
      BadLink length earlier offset target
        (.invalidContainer (.misalignedLink earlier.length target))

variable {bytes : Bytes} {earlier : List Nat} {offset target : Nat} {error : ProgramError}

namespace Trail

/-- A walk stays inside. -/
theorem inside (trail : Trail bytes earlier offset) :
    offset + Register.recordSize ≤ bytes.length := by
  cases trail with
  | start room => exact room
  | step _ follows => exact follows.inside

/-- A walk comes to slots only, and every record that it has visited takes one. -/
theorem exists_slot (trail : Trail bytes earlier offset) :
    ∃ slot, earlier.length ≤ slot ∧ offset = arrayOffset + slot * Register.recordSize := by
  induction trail with
  | start _ => exact ⟨0, Nat.zero_le _, by rw [Nat.zero_mul, Nat.add_zero]⟩
  | @step earlier offset target _ follows inductionHypothesis =>
      obtain ⟨slot, behind, rfl⟩ := inductionHypothesis
      have forward := follows.forward
      obtain ⟨next, distance⟩ := Nat.dvd_of_mod_eq_zero follows.aligned
      rw [Nat.mul_comm] at distance
      refine ⟨next, ?_, by omega⟩
      have further : slot < next := by
        apply Nat.lt_of_mul_lt_mul_right (a := Register.recordSize)
        have positive := recordSize_pos
        omega
      rw [List.length_append, List.length_singleton]
      omega

/-- Every record on a walk lies in front of all later ones. -/
theorem pairwise (trail : Trail bytes earlier offset) :
    (earlier ++ [offset]).Pairwise fun first second =>
      first + Register.recordSize ≤ second := by
  induction trail with
  | start _ => exact List.pairwise_singleton _ _
  | @step earlier offset target _ follows inductionHypothesis =>
      refine List.pairwise_append.mpr ⟨inductionHypothesis, List.pairwise_singleton _ _, ?_⟩
      intro position visited last same
      obtain rfl := List.mem_singleton.mp same
      have forward := follows.forward
      rcases List.mem_append.mp visited with visited | here
      · have before := (List.pairwise_append.mp inductionHypothesis).2.2 position visited offset
          (List.mem_singleton_self _)
        omega
      · rw [List.mem_singleton.mp here]
        exact forward

/-- Every record on a walk is one that the walk came to. -/
theorem of_mem
    (trail : Trail bytes earlier offset)
    {position : Nat}
    (visited : position ∈ earlier ++ [offset]) :
    ∃ before, Trail bytes before position := by
  induction trail with
  | start room =>
      rw [List.mem_singleton.mp visited]
      exact ⟨_, .start room⟩
  | step trail follows inductionHypothesis =>
      rcases List.mem_append.mp visited with visited | here
      · exact inductionHypothesis visited
      · rw [List.mem_singleton.mp here]
        exact ⟨_, .step trail follows⟩

/-- No more records are visited than fit. -/
theorem length_le (trail : Trail bytes earlier offset) :
    (earlier ++ [offset]).length ≤ (bytes.length - arrayOffset) / Register.recordSize := by
  obtain ⟨slot, behind, rfl⟩ := trail.exists_slot
  have inside := trail.inside
  rw [Nat.le_div_iff_mul_le recordSize_pos, List.length_append, List.length_singleton]
  have room := Nat.mul_le_mul_right Register.recordSize behind
  rw [Nat.succ_mul]
  omega

/-- The positions that a walk has visited lie before the record it comes to. -/
theorem before (trail : Trail bytes earlier offset) :
    ∀ position ∈ earlier.reverse, position < offset := by
  intro position visited
  have apart := (List.pairwise_append.mp trail.pairwise).2.2 position
    (List.mem_reverse.mp visited) offset (List.mem_singleton_self _)
  have positive := recordSize_pos
  omega

end Trail

/-- A link is refused when it is bad. -/
theorem linkError?_eq_some_iff (trail : Trail bytes earlier offset) :
    linkError? bytes.length (offset :: earlier.reverse) earlier.length offset target =
      some error ↔ BadLink bytes.length earlier offset target error := by
  have visitedIff : (offset :: earlier.reverse).contains target = true ↔
      target ∈ earlier ++ [offset] := by
    simp [or_comm]
  obtain ⟨slot, -, place⟩ := trail.exists_slot
  have slotIff (forward : offset + Register.recordSize ≤ target) :
      (target - arrayOffset) % Register.recordSize = 0 ↔
        ∃ slot, target = arrayOffset + slot * Register.recordSize := by
    rw [← Nat.dvd_iff_mod_eq_zero]
    constructor
    · rintro ⟨next, distance⟩
      refine ⟨next, ?_⟩
      rw [Nat.mul_comm] at distance
      omega
    · rintro ⟨next, rfl⟩
      exact ⟨next, by rw [Nat.add_sub_cancel_left, Nat.mul_comm]⟩
  unfold linkError?
  constructor
  · intro wrong
    split at wrong
    · next outside =>
        cases wrong
        exact .truncated outside
    next inside =>
    have inside := Nat.le_of_not_gt inside
    split at wrong
    · next visited =>
        cases wrong
        exact .cyclic inside (visitedIff.mp visited)
    next fresh =>
    have fresh := mt visitedIff.mpr fresh
    split at wrong
    · next before =>
        cases wrong
        exact .backward inside fresh before
    next forward =>
    have forward := Nat.le_of_not_gt forward
    split at wrong
    · next between =>
        cases wrong
        exact .misaligned inside fresh forward (mt (slotIff forward).mpr between)
    · cases wrong
  · intro bad
    cases bad with
    | truncated outside => rw [if_pos outside]
    | cyclic inside visited =>
        rw [if_neg (Nat.not_lt.mpr inside), if_pos (visitedIff.mpr visited)]
    | backward inside fresh before =>
        rw [if_neg (Nat.not_lt.mpr inside), if_neg (mt visitedIff.mp fresh), if_pos before]
    | misaligned inside fresh forward between =>
        rw [if_neg (Nat.not_lt.mpr inside), if_neg (mt visitedIff.mp fresh),
          if_neg (Nat.not_lt.mpr forward), if_pos (mt (slotIff forward).mp between)]

/-- A walk goes on where a link leads. -/
theorem walkFrom_of_follows
    {link : Nat → Except Register.Error Nat}
    {length : Nat}
    {visited : List Nat}
    {index : Nat}
    (before : ∀ position ∈ visited, position < offset)
    (follows : Follows link length offset target) :
    walkFrom link length visited index offset =
      (walkFrom link length (offset :: visited) (index + 1) target).map (offset :: ·) := by
  rw [walkFrom, follows.linked]
  dsimp only
  rw [if_neg follows.ne_chainEnd]
  split
  · next wrong =>
      rw [(linkError?_eq_none_iff before follows.linked).mpr follows] at wrong
      cases wrong
  · cases walkFrom link length (offset :: visited) (index + 1) target <;> rfl

namespace Trail

/-- A walk that comes to a record goes on from there. -/
theorem walk_eq (trail : Trail bytes earlier offset) :
    walk bytes =
      (walkFrom (linkAt bytes) bytes.length earlier.reverse earlier.length offset).map
        (earlier ++ ·) := by
  induction trail with
  | start room =>
      rw [walk, checkRange_eq_ok_iff.mpr room, Outcome.ok_bind]
      change _ = (walkFrom (linkAt bytes) bytes.length [] 0 arrayOffset).map _
      cases walkFrom (linkAt bytes) bytes.length [] 0 arrayOffset <;> rfl
  | @step earlier offset target trail follows inductionHypothesis =>
      have visited : (earlier ++ [offset]).reverse = offset :: earlier.reverse :=
        List.reverse_concat
      rw [inductionHypothesis, walkFrom_of_follows trail.before follows, visited,
        List.length_append]
      change ((walkFrom _ _ (offset :: earlier.reverse) (earlier.length + 1) target).map _).map _ =
        (walkFrom _ _ _ (earlier.length + 1) _).map _
      cases walkFrom (linkAt bytes) bytes.length (offset :: earlier.reverse)
          (earlier.length + 1) target with
      | error error => rfl
      | ok rest =>
          change Except.ok (earlier ++ offset :: rest) = .ok (earlier ++ [offset] ++ rest)
          rw [List.append_assoc, List.singleton_append]

/-- A walk ends at a record that points nowhere. -/
theorem walk_of_end
    (trail : Trail bytes earlier offset)
    (ends : word bytes (offset + 0x20) = 0) :
    walk bytes = .ok (earlier ++ [offset]) := by
  rw [trail.walk_eq, walkFrom, linkAt_eq, ends]
  rfl

/-- A walk stops at a bad link. -/
theorem walk_of_bad
    (trail : Trail bytes earlier offset)
    (more : word bytes (offset + 0x20) ≠ 0)
    (bad : BadLink bytes.length earlier offset (word bytes (offset + 0x20)) error) :
    walk bytes = .error error := by
  have wrong := (linkError?_eq_some_iff trail).mpr bad
  rw [trail.walk_eq, walkFrom, linkAt_eq]
  dsimp only
  rw [if_neg (show word bytes (offset + 0x20) ≠ Descriptor.chainEnd from more)]
  split
  · next other found =>
      rw [wrong] at found
      cases found
      rfl
  · next sound =>
      rw [wrong] at sound
      cases sound

/-- A walk goes on until it ends or stops.  The induction is on the bytes that are left. -/
theorem exists_end (trail : Trail bytes earlier offset) :
    ∃ earlier last, Trail bytes earlier last ∧
      (word bytes (last + 0x20) = 0 ∨
        word bytes (last + 0x20) ≠ 0 ∧
          ∃ error, BadLink bytes.length earlier last (word bytes (last + 0x20)) error) := by
  generalize leftEq : bytes.length - offset = left
  induction left using Nat.strong_induction_on generalizing earlier offset with
  | h left inductionHypothesis =>
      by_cases ends : word bytes (offset + 0x20) = 0
      · exact ⟨_, _, trail, Or.inl ends⟩
      cases verdict : linkError? bytes.length (offset :: earlier.reverse) earlier.length offset
          (word bytes (offset + 0x20)) with
      | some error =>
          exact ⟨_, _, trail, Or.inr ⟨ends, error, (linkError?_eq_some_iff trail).mp verdict⟩⟩
      | none =>
          have follows :=
            (linkError?_eq_none_iff trail.before (linkAt_eq bytes offset)).mp verdict
          have nearer : bytes.length - word bytes (offset + 0x20) < left := by
            have inside := trail.inside
            have forward := follows.forward
            have positive := recordSize_pos
            omega
          exact inductionHypothesis _ nearer (trail.step follows) rfl

end Trail

/-- A walk ends well exactly at a record that points nowhere. -/
theorem walk_eq_ok_iff_trail {positions : List Nat} :
    walk bytes = .ok positions ↔
      ∃ earlier last, Trail bytes earlier last ∧ word bytes (last + 0x20) = 0 ∧
        positions = earlier ++ [last] := by
  constructor
  · intro walked
    have room := (walk_eq_ok_iff.mp walked).1
    obtain ⟨earlier, last, trail, ends | ⟨more, error, bad⟩⟩ := (Trail.start room).exists_end
    · rw [trail.walk_of_end ends] at walked
      exact ⟨earlier, last, trail, ends, (Except.ok.inj walked).symm⟩
    · rw [trail.walk_of_bad more bad] at walked
      cases walked
  · rintro ⟨earlier, last, trail, ends, rfl⟩
    exact trail.walk_of_end ends

/-- A walk fails exactly when the first slot is not there, or at a bad link. -/
theorem walk_eq_error_iff :
    walk bytes = .error error ↔
      bytes.length < arrayOffset + Register.recordSize ∧
        error = .truncated .record arrayOffset Register.recordSize bytes.length ∨
      ∃ earlier last, Trail bytes earlier last ∧ word bytes (last + 0x20) ≠ 0 ∧
        BadLink bytes.length earlier last (word bytes (last + 0x20)) error := by
  constructor
  · intro failed
    by_cases room : arrayOffset + Register.recordSize ≤ bytes.length
    · obtain ⟨earlier, last, trail, ends | ⟨more, other, bad⟩⟩ := (Trail.start room).exists_end
      · rw [trail.walk_of_end ends] at failed
        cases failed
      · rw [trail.walk_of_bad more bad] at failed
        cases failed
        exact Or.inr ⟨earlier, last, trail, more, bad⟩
    · rw [walk, checkRange, if_neg room] at failed
      cases failed
      exact Or.inl ⟨Nat.lt_of_not_le room, rfl⟩
  · rintro (⟨outside, rfl⟩ | ⟨earlier, last, trail, more, bad⟩)
    · rw [walk, checkRange, if_neg (Nat.not_le.mpr outside)]
      rfl
    · exact trail.walk_of_bad more bad

/-- A walk over any bytes ends after no more steps than records fit.  It finds the records from the
first slot to the one that points nowhere, each in a slot of its own behind the ones before.  If it
finds no such record, it stops at the first link that is bad: out of the container, else to a record
that was visited, else backward or into the middle of a slot. -/
theorem walk_exact (bytes : Bytes) :
    (∀ entries, (walk bytes).map (entriesAt bytes) = .ok entries ↔
      ∃ earlier last, Trail bytes earlier last ∧ word bytes (last + 0x20) = 0 ∧
        entries.map Entry.offset = earlier ++ [last] ∧
        ∀ index entry, entries[index]? = some entry →
          entry.descriptor = recordAt bytes entry.offset ∧
            entry.next = if index + 1 < entries.length then some (index + 1) else none) ∧
    (∀ error, walk bytes = .error error ↔
      bytes.length < arrayOffset + Register.recordSize ∧
        error = .truncated .record arrayOffset Register.recordSize bytes.length ∨
      ∃ earlier last, Trail bytes earlier last ∧ word bytes (last + 0x20) ≠ 0 ∧
        BadLink bytes.length earlier last (word bytes (last + 0x20)) error) ∧
    (∀ earlier last, Trail bytes earlier last →
      (earlier ++ [last]).length ≤ (bytes.length - arrayOffset) / Register.recordSize ∧
      ((earlier ++ [last]).Pairwise fun first second =>
        first + Register.recordSize ≤ second) ∧
      ∀ position ∈ earlier ++ [last],
        (∃ slot, position = arrayOffset + slot * Register.recordSize) ∧
          position + Register.recordSize ≤ bytes.length) ∧
    ∀ steps, (bytes.length - arrayOffset) / Register.recordSize < steps →
      guardedWalkFrom bytes steps [] 0 arrayOffset = .of (walk bytes) := by
  refine ⟨?_, fun _ => walk_eq_error_iff, ?_, fun _ => guardedWalkFrom_eq_walk⟩
  · intro entries
    rw [Outcome.map_eq_ok]
    constructor
    · rintro ⟨positions, walked, read⟩
      obtain ⟨earlier, last, trail, ends, rfl⟩ := walk_eq_ok_iff_trail.mp walked
      obtain ⟨offsets, each⟩ := entriesAt_eq_iff.mp read
      exact ⟨earlier, last, trail, ends, offsets, each⟩
    · rintro ⟨earlier, last, trail, ends, offsets, each⟩
      exact ⟨_, walk_eq_ok_iff_trail.mpr ⟨earlier, last, trail, ends, rfl⟩,
        entriesAt_eq_iff.mpr ⟨offsets, each⟩⟩
  · intro earlier last trail
    refine ⟨trail.length_le, trail.pairwise, ?_⟩
    intro position visited
    obtain ⟨before, reached⟩ := trail.of_mem visited
    obtain ⟨slot, -, place⟩ := reached.exists_slot
    exact ⟨⟨slot, place⟩, reached.inside⟩

end Container
end TileProgram
