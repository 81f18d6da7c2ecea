import TileProgram.Proofs.Container.Chain
import TileProgram.Proofs.Container.Layout

/-!
# Linked records

The records of a container stand in slots of the array, in increasing order,
and each one is linked to the next.  Following the links of a byte string finds
exactly such records, and the links reach every one of them.
-/

namespace TileProgram

/-- The pointer to the next record is a number of 32 bits in its register. -/
theorem Descriptor.next_eq_ok_iff {descriptor : Descriptor} {position : Nat} :
    descriptor.next = .ok position ↔
      descriptor.get Registers.nextPointer = .ok position ∧ position < UInt32.size := by
  unfold next
  rw [Outcome.seq_eq_ok]
  constructor
  · rintro ⟨value, found, fits⟩
    split at fits
    · next small =>
        cases Outcome.pure_eq_ok.mp fits
        exact ⟨found, small⟩
    · cases fits
  · rintro ⟨found, small⟩
    exact ⟨position, found, by rw [if_pos small]; rfl⟩

namespace Container

/-- A record as it is stored, before its lookup table is attached. -/
def Entry.stored (entry : Entry) : Entry :=
  { entry with descriptor := entry.descriptor.stored }

/-- Records in increasing slots from the first one on, each one linked to the
next and the last one to none. -/
structure Linked (entries : List Entry) : Prop where
  start : (entries.map Entry.offset).head? = some arrayOffset
  slots : ∀ offset ∈ entries.map Entry.offset, ∃ slot,
    offset = arrayOffset + slot * Register.recordSize
  increasing : (entries.map Entry.offset).Pairwise (· < ·)
  linked : ∀ index entry following,
    entries[index]? = some entry → entries[index + 1]? = some following →
      entry.next = some (index + 1) ∧ entry.descriptor.stored.next = .ok following.offset
  last : ∀ entry, entries.getLast? = some entry →
    entry.next = none ∧ entry.descriptor.stored.next = .ok Descriptor.chainEnd

@[simp] theorem Entry.stored_offset (entry : Entry) : entry.stored.offset = entry.offset := rfl

@[simp] theorem Entry.stored_descriptor (entry : Entry) :
    entry.stored.descriptor = entry.descriptor.stored := rfl

/-- Storing records does not move them. -/
@[simp] theorem endFrom_stored (position : Nat) (entries : List Entry) :
    endFrom position (entries.map Entry.stored) = endFrom position entries := by
  induction entries generalizing position with
  | nil => rfl
  | cons entry rest inductionHypothesis =>
      rw [List.map_cons, endFrom, inductionHypothesis, endFrom, Entry.stored_offset]

@[simp] theorem dataOffset_stored (entries : List Entry) :
    dataOffset (entries.map Entry.stored) = dataOffset entries := by
  rw [dataOffset, dataOffset, entriesEnd_eq, entriesEnd_eq, endFrom_stored]

/-- Stored records are written like the records themselves. -/
@[simp] theorem recordBytes_stored (position : Nat) (entries : List Entry) :
    recordBytes position (entries.map Entry.stored) = recordBytes position entries := by
  induction entries generalizing position with
  | nil => rfl
  | cons entry rest inductionHypothesis =>
      rw [List.map_cons, recordBytes, inductionHypothesis, recordBytes, Entry.stored_offset,
        Entry.stored_descriptor, Descriptor.toBytes_stored]

/-- Whether records are linked depends only on what is stored of them. -/
theorem Linked.of_stored
    {entries others : List Entry}
    (equal : entries.map Entry.stored = others.map Entry.stored)
    (linked : Linked entries) :
    Linked others := by
  have offsets : entries.map Entry.offset = others.map Entry.offset := by
    have equal := congrArg (List.map Entry.offset) equal
    rwa [List.map_map, List.map_map] at equal
  have same : ∀ (index : Nat) (entry : Entry), others[index]? = some entry →
      ∃ other, entries[index]? = some other ∧ other.offset = entry.offset ∧
        other.descriptor.stored = entry.descriptor.stored ∧ other.next = entry.next := by
    intro index entry present
    have stored := congrArg (fun list => list[index]?) equal
    simp only [List.getElem?_map, present] at stored
    obtain ⟨other, otherPresent, same⟩ := Option.map_eq_some_iff.mp stored
    obtain ⟨offsetEq, descriptorEq, nextEq⟩ := Entry.mk.inj same
    exact ⟨other, otherPresent, offsetEq, descriptorEq, nextEq⟩
  refine ⟨offsets ▸ linked.start, offsets ▸ linked.slots, offsets ▸ linked.increasing, ?_, ?_⟩
  · intro index entry following present followingPresent
    obtain ⟨other, otherPresent, -, descriptorEq, nextEq⟩ := same index entry present
    obtain ⟨target, targetPresent, offsetEq, -⟩ := same (index + 1) following followingPresent
    have link := linked.linked index other target otherPresent targetPresent
    rwa [nextEq, descriptorEq, offsetEq] at link
  · intro entry final
    have lengthEq : entries.length = others.length := by
      have lengths := congrArg List.length equal
      rwa [List.length_map, List.length_map] at lengths
    rw [List.getLast?_eq_getElem?] at final
    obtain ⟨other, otherPresent, -, descriptorEq, nextEq⟩ := same _ entry final
    rw [← lengthEq, ← List.getLast?_eq_getElem?] at otherPresent
    have link := linked.last other otherPresent
    rwa [nextEq, descriptorEq] at link

/-- Records that keep their distance are one behind the other. -/
theorem ordered_of_isChain
    {position : Nat}
    {entries : List Entry}
    (spaced : entries.IsChain fun entry following =>
      entry.offset + Register.recordSize ≤ following.offset)
    (behind : ∀ first, entries.head? = some first → position ≤ first.offset) :
    Ordered position entries := by
  induction entries generalizing position with
  | nil => trivial
  | cons entry rest inductionHypothesis =>
      obtain ⟨steps, spaced⟩ := List.isChain_cons.mp spaced
      exact ⟨behind entry rfl, inductionHypothesis spaced fun first head => steps first head⟩

/-- Every record takes its room. -/
theorem Ordered.length_le
    {position : Nat}
    {entries : List Entry}
    (ordered : Ordered position entries) :
    position + entries.length * Register.recordSize ≤ endFrom position entries := by
  induction entries generalizing position with
  | nil => simp [endFrom]
  | cons entry rest inductionHypothesis =>
      obtain ⟨before, ordered⟩ := ordered
      have := inductionHypothesis ordered
      rw [List.length_cons, Nat.succ_mul, endFrom]
      omega

/-- No link leads out of no record. -/
@[simp] theorem follow_none (entries : List Entry) (fuel : Nat) : follow entries fuel none = 0 := by
  cases fuel with
  | zero => rfl
  | succ fuel => rfl

/-- Records that are linked in order are all reached from any one of them on. -/
theorem follow_eq
    {entries : List Entry}
    {index fuel : Nat}
    (links : ∀ index entry, entries[index]? = some entry →
      entry.next = if index + 1 < entries.length then some (index + 1) else none)
    (inside : index < entries.length)
    (enough : entries.length ≤ index + fuel) :
    follow entries fuel (some index) = entries.length - index := by
  induction fuel generalizing index with
  | zero => omega
  | succ fuel inductionHypothesis =>
      have link := links index _ (List.getElem?_eq_getElem inside)
      rw [follow, List.getElem?_eq_getElem inside, Option.bind_some, link]
      split
      · next more =>
          rw [inductionHypothesis more (by omega)]
          omega
      · rw [follow_none]
        omega

namespace Linked

variable {entries : List Entry}

/-- Consecutive records keep their distance. -/
theorem spaced (linked : Linked entries) :
    entries.IsChain fun entry following =>
      entry.offset + Register.recordSize ≤ following.offset := by
  have increasing := List.pairwise_map.mp linked.increasing
  have spaced : entries.Pairwise fun entry following =>
      entry.offset + Register.recordSize ≤ following.offset := by
    refine List.Pairwise.imp_of_mem ?_ increasing
    intro entry following present followingPresent before
    obtain ⟨slot, offsetEq⟩ := linked.slots _ (List.mem_map_of_mem present)
    obtain ⟨later, laterEq⟩ := linked.slots _ (List.mem_map_of_mem followingPresent)
    have behind : slot + 1 ≤ later := by
      by_contra notBehind
      have := Nat.mul_le_mul_right Register.recordSize (show later ≤ slot by omega)
      omega
    have := Nat.mul_le_mul_right Register.recordSize behind
    rw [Nat.succ_mul] at this
    omega
  exact spaced.isChain

theorem ordered (linked : Linked entries) :
    Ordered arrayOffset entries := by
  refine ordered_of_isChain linked.spaced ?_
  intro first head
  have start := linked.start
  rw [List.head?_map, head] at start
  exact Nat.le_of_eq (Option.some.inj start).symm

theorem nonempty (linked : Linked entries) : 0 < entries.length := by
  have first := List.length_pos_of_mem (List.mem_of_head? linked.start)
  rwa [List.length_map] at first

/-- The index of the next record, whether there is one or not. -/
theorem links
    (linked : Linked entries)
    (index : Nat)
    (entry : Entry)
    (present : entries[index]? = some entry) :
    entry.next = if index + 1 < entries.length then some (index + 1) else none := by
  have inside := (List.getElem?_eq_some_iff.mp present).1
  split
  · next more =>
      exact (linked.linked index entry _ present (List.getElem?_eq_getElem more)).1
  · next final =>
      have indexEq : index = entries.length - 1 := by omega
      rw [indexEq, ← List.getLast?_eq_getElem?] at present
      exact (linked.last entry present).1

/-- The links reach every record from the first one. -/
theorem chainLength_eq
    {container : Container}
    (linked : Linked container.entries) :
    container.chainLength = container.entries.length := by
  have nonempty := linked.nonempty
  have present : container.entries.isEmpty = false := by
    rw [List.isEmpty_eq_false_iff]
    exact List.ne_nil_of_length_pos nonempty
  rw [chainLength, present, if_neg (by decide),
    follow_eq linked.links nonempty (by omega), Nat.sub_zero]

/-- Every record lies at a position of 32 bits. -/
theorem offset_lt
    (linked : Linked entries)
    {index : Nat}
    {entry : Entry}
    (present : entries[index]? = some entry) :
    entry.offset < UInt32.size := by
  cases index with
  | zero =>
      have start := linked.start
      rw [List.head?_map, List.head?_eq_getElem?, present] at start
      have start : entry.offset = arrayOffset := Option.some.inj start
      rw [start]
      decide
  | succ index =>
      have before : index < entries.length := by
        have := (List.getElem?_eq_some_iff.mp present).1
        omega
      have link := linked.linked index _ entry (List.getElem?_eq_getElem before) present
      exact (Descriptor.next_eq_ok_iff.mp link.2).2

/-- The records end within the range of their pointers. -/
theorem entriesEnd_le (linked : Linked entries) :
    entriesEnd entries ≤ UInt32.size + Register.recordSize := by
  unfold entriesEnd
  split
  · decide
  · next final equal =>
      rw [List.getLast?_eq_getElem?] at equal
      have := linked.offset_lt equal
      omega

theorem entries_length_lt (linked : Linked entries) :
    entries.length < Bytes.capacity 4 := by
  have room := linked.ordered.length_le
  have bound := linked.entriesEnd_le
  rw [entriesEnd_eq] at bound
  have room : 0x4000 + entries.length * 0x300 ≤ 4294967296 + 0x300 :=
    Nat.le_trans room bound
  change entries.length < 4294967296
  omega

theorem dataOffset_lt (linked : Linked entries) :
    dataOffset entries < Bytes.capacity 8 := by
  have bound := linked.entriesEnd_le
  have raised := Layout.alignUp_le (entriesEnd entries) dataAlignment
  have bound : entriesEnd entries ≤ 4294967296 + 0x300 := bound
  have raised : dataOffset entries ≤ entriesEnd entries + 0x40 - 1 := raised
  change dataOffset entries < 18446744073709551616
  omega

end Linked

section Walk

variable {bytes : Bytes} {positions : List Nat}

@[simp] theorem length_entriesAt (bytes : Bytes) (positions : List Nat) :
    (entriesAt bytes positions).length = positions.length :=
  List.length_mapIdx

theorem getElem?_entriesAt (bytes : Bytes) (positions : List Nat) (index : Nat) :
    (entriesAt bytes positions)[index]? = positions[index]?.map fun offset =>
      ⟨offset, recordAt bytes offset,
        if index + 1 < positions.length then some (index + 1) else none⟩ :=
  List.getElem?_mapIdx

/-- A record at given positions is read from its own. -/
theorem mem_entriesAt
    {entry : Entry}
    (present : entry ∈ entriesAt bytes positions) :
    entry.offset ∈ positions ∧ entry.descriptor = recordAt bytes entry.offset := by
  obtain ⟨index, present⟩ := List.mem_iff_getElem?.mp present
  rw [getElem?_entriesAt, Option.map_eq_some_iff] at present
  obtain ⟨offset, offsetPresent, rfl⟩ := present
  exact ⟨List.mem_of_getElem? offsetPresent, rfl⟩

/-- A container is walked exactly along a chain from the fixed first position. -/
theorem walk_eq_ok_iff :
    walk bytes = .ok positions ↔
      arrayOffset + Register.recordSize ≤ bytes.length ∧
        positions.head? = some arrayOffset ∧ Chained (linkAt bytes) bytes.length positions := by
  rw [walk, Outcome.seq_eq_ok, Outcome.exists_unit, checkRange_eq_ok_iff,
    walkFrom_eq_ok_iff (by simp)]

/-- The records of a chain stand in slots and lie inside. -/
theorem Chained.slot_and_inside
    (chained : Chained (linkAt bytes) bytes.length positions)
    (head : positions.head? = some arrayOffset)
    (room : arrayOffset + Register.recordSize ≤ bytes.length) :
    ∀ position ∈ positions,
      (∃ slot, position = arrayOffset + slot * Register.recordSize) ∧
        position + Register.recordSize ≤ bytes.length := by
  refine chained.steps.induction _ _ ?_ ?_
  · rintro offset target follows ⟨⟨slot, offsetEq⟩, -⟩
    have forward := follows.forward
    have split := Nat.div_add_mod' (target - arrayOffset) Register.recordSize
    rw [follows.aligned] at split
    exact ⟨⟨(target - arrayOffset) / Register.recordSize, by omega⟩, follows.inside⟩
  · intro nonempty
    rw [List.head?_eq_some_head nonempty, Option.some.injEq] at head
    rw [head]
    exact ⟨⟨0, by rw [Nat.zero_mul, Nat.add_zero]⟩, room⟩

/-- The positions of the records at given positions. -/
@[simp] theorem map_offset_entriesAt (bytes : Bytes) (positions : List Nat) :
    (entriesAt bytes positions).map Entry.offset = positions := by
  apply List.ext_getElem?
  intro index
  rw [List.getElem?_map, getElem?_entriesAt, Option.map_map]
  exact congrFun Option.map_id _

/-- Records are those at given positions when each one is read there and linked to the next. -/
theorem entriesAt_eq_iff {positions : List Nat} {entries : List Entry} :
    entriesAt bytes positions = entries ↔
      entries.map Entry.offset = positions ∧
        ∀ index entry, entries[index]? = some entry →
          entry.descriptor = recordAt bytes entry.offset ∧
            entry.next = if index + 1 < entries.length then some (index + 1) else none := by
  constructor
  · rintro rfl
    refine ⟨map_offset_entriesAt bytes positions, ?_⟩
    intro index entry present
    rw [getElem?_entriesAt, Option.map_eq_some_iff] at present
    obtain ⟨offset, -, rfl⟩ := present
    rw [length_entriesAt]
    exact ⟨rfl, rfl⟩
  · rintro ⟨rfl, each⟩
    apply List.ext_getElem?
    intro index
    rw [getElem?_entriesAt, List.getElem?_map, Option.map_map, List.length_map]
    cases present : entries[index]? with
    | none => rfl
    | some entry =>
        obtain ⟨record, next⟩ := each index entry present
        simp only [Option.map_some, Function.comp_apply, ← next, ← record]

/-- The records found on a walk are linked. -/
theorem Chained.linked
    (chained : Chained (linkAt bytes) bytes.length positions)
    (head : positions.head? = some arrayOffset)
    (room : arrayOffset + Register.recordSize ≤ bytes.length) :
    Linked (entriesAt bytes positions) := by
  have places := chained.slot_and_inside head room
  refine ⟨?_, ?_, ?_, ?_, ?_⟩
  · rwa [map_offset_entriesAt]
  · rw [map_offset_entriesAt]
    exact fun position present => (places position present).1
  · rw [map_offset_entriesAt]
    have increasing : positions.IsChain (· < ·) := by
      refine chained.steps.imp ?_
      intro offset target follows
      have := follows.forward
      have := recordSize_pos
      omega
    exact List.isChain_iff_pairwise.mp increasing
  · intro index entry following present followingPresent
    rw [getElem?_entriesAt, Option.map_eq_some_iff] at present followingPresent
    obtain ⟨offset, offsetPresent, rfl⟩ := present
    obtain ⟨target, targetPresent, rfl⟩ := followingPresent
    obtain ⟨inside, offsetEq⟩ := List.getElem?_eq_some_iff.mp offsetPresent
    obtain ⟨more, targetEq⟩ := List.getElem?_eq_some_iff.mp targetPresent
    have step := List.isChain_iff_getElem.mp chained.steps index more
    rw [offsetEq, targetEq] at step
    refine ⟨if_pos more, ?_⟩
    dsimp only
    rw [recordAt, Descriptor.stored_ofBytes]
    exact step.linked
  · intro entry final
    obtain ⟨offset, offsetFinal, ends⟩ := chained.ends
    rw [List.getLast?_eq_getElem?] at final offsetFinal
    rw [length_entriesAt, getElem?_entriesAt, offsetFinal] at final
    cases final
    have nonempty := (List.getElem?_eq_some_iff.mp offsetFinal).1
    refine ⟨if_neg (by omega), ?_⟩
    dsimp only
    rw [recordAt, Descriptor.stored_ofBytes]
    exact ends

section Found

variable {entries : List Entry}

/-- Linked records that lie in a byte string make up a chain in it. -/
theorem Linked.chained
    (linked : Linked entries)
    (inside : ∀ entry ∈ entries, entry.offset + Register.recordSize ≤ bytes.length)
    (records : ∀ entry ∈ entries, entry.descriptor = recordAt bytes entry.offset) :
    Chained (linkAt bytes) bytes.length (entries.map Entry.offset) := by
  have linkEq : ∀ entry ∈ entries,
      linkAt bytes entry.offset = entry.descriptor.stored.next := by
    intro entry present
    rw [linkAt, records entry present, recordAt, Descriptor.stored_ofBytes]
  constructor
  · rw [List.isChain_map, List.isChain_iff_getElem]
    intro index more
    have link := linked.linked index _ _ (List.getElem?_eq_getElem (by omega))
      (List.getElem?_eq_getElem more)
    have forward := List.isChain_iff_getElem.mp linked.spaced index more
    obtain ⟨slot, offsetEq⟩ := linked.slots _ (List.mem_map_of_mem (List.getElem_mem more))
    refine ⟨?_, forward, ?_, inside _ (List.getElem_mem more)⟩
    · rw [linkEq _ (List.getElem_mem _), link.2]
    · rw [offsetEq, Nat.add_sub_cancel_left, Nat.mul_mod_left]
  · obtain ⟨final, finalEq⟩ : ∃ final, entries.getLast? = some final :=
      ⟨_, List.getLast?_eq_some_getLast (List.ne_nil_of_length_pos linked.nonempty)⟩
    refine ⟨final.offset, by rw [List.getLast?_map, finalEq, Option.map_some], ?_⟩
    rw [linkEq _ (List.mem_of_getLast? finalEq)]
    exact (linked.last final finalEq).2

/-- Linked records that lie in a byte string are found on a walk. -/
theorem Linked.walk_eq
    (linked : Linked entries)
    (inside : ∀ entry ∈ entries, entry.offset + Register.recordSize ≤ bytes.length)
    (records : ∀ entry ∈ entries, entry.descriptor = recordAt bytes entry.offset) :
    walk bytes = .ok (entries.map Entry.offset) := by
  have nonempty := List.ne_nil_of_length_pos linked.nonempty
  have start := linked.start
  rw [List.head?_map, List.head?_eq_some_head nonempty] at start
  have room := inside _ (List.head_mem nonempty)
  rw [Option.some.inj start] at room
  exact walk_eq_ok_iff.mpr ⟨room, linked.start, linked.chained inside records⟩

/-- Linked records that lie in a byte string are read from their positions. -/
theorem Linked.entriesAt_eq
    (linked : Linked entries)
    (records : ∀ entry ∈ entries, entry.descriptor = recordAt bytes entry.offset) :
    entriesAt bytes (entries.map Entry.offset) = entries :=
  entriesAt_eq_iff.mpr ⟨rfl, fun index entry present =>
    ⟨records entry (List.mem_of_getElem? present), linked.links index entry present⟩⟩

end Found
end Walk
end Container
end TileProgram
