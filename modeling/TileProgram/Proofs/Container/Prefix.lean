import TileProgram.Proofs.Container.RoundTrip
import TileProgram.Proofs.Endings

/-!
# Containers cut off and continued

No container is the beginning of another one.  What is left when a container is
cut off passes the same checks as the whole, up to the first part that does not
lie inside any more; a container with bytes behind it passes them up to the
check that it ends with its data.
-/

namespace TileProgram

namespace Bytes

variable {shorter bytes : Bytes}

/-- A slice that lies inside the beginning of a string is one of the string. -/
theorem slice_of_isPrefix
    {offset length : Nat}
    (grows : shorter <+: bytes)
    (inside : offset + length ≤ shorter.length) :
    bytes.slice offset length = shorter.slice offset length := by
  obtain ⟨rest, rfl⟩ := grows
  exact slice_append_of_le inside rest

end Bytes

namespace Container

open Outcome

/-- A part that was looked for ends behind the bytes. -/
def CutAt (length : Nat) (error : ProgramError) : Prop :=
  ∃ part offset needed, error = .truncated part offset needed length ∧ length < offset + needed

/-- A part lies inside, or else the bytes are cut off before its end. -/
theorem checkRange_givesUnless (part : Part) (offset needed length : Nat) :
    GivesUnless (CutAt length) (checkRange part offset needed length) () := by
  unfold checkRange
  split
  · exact Or.inl rfl
  · next outside => exact Or.inr ⟨_, rfl, part, offset, needed, rfl, Nat.lt_of_not_le outside⟩

/-- A part that does not lie inside is missed. -/
theorem checkRange_stopsWith
    {part : Part}
    {offset needed length : Nat}
    (outside : length < offset + needed) :
    StopsWith (CutAt length) (checkRange part offset needed length) := by
  rw [checkRange, if_neg (Nat.not_le_of_gt outside)]
  exact ⟨_, rfl, part, offset, needed, rfl, outside⟩

section Grows

variable {shorter bytes : Bytes} (grows : shorter <+: bytes)
include grows

theorem word_of_isPrefix
    {position : Nat}
    (inside : position + 4 ≤ shorter.length) :
    word bytes position = word shorter position := by
  rw [word, word, Bytes.slice_of_isPrefix grows inside]

theorem longWord_of_isPrefix
    {position : Nat}
    (inside : position + 8 ≤ shorter.length) :
    longWord bytes position = longWord shorter position := by
  rw [longWord, longWord, Bytes.slice_of_isPrefix grows inside]

theorem recordAt_of_isPrefix
    {offset : Nat}
    (inside : offset + Register.recordSize ≤ shorter.length) :
    recordAt bytes offset = recordAt shorter offset := by
  rw [recordAt, recordAt, Bytes.slice_of_isPrefix grows inside]

theorem linkAt_of_isPrefix
    {offset : Nat}
    (inside : offset + Register.recordSize ≤ shorter.length) :
    linkAt bytes offset = linkAt shorter offset := by
  rw [linkAt, linkAt, recordAt_of_isPrefix grows inside]

/-- Records that lie in the beginning are those of the whole. -/
theorem entriesAt_of_isPrefix
    {positions : List Nat}
    (inside : ∀ position ∈ positions, position + Register.recordSize ≤ shorter.length) :
    entriesAt bytes positions = entriesAt shorter positions := by
  apply List.ext_getElem?
  intro index
  rw [getElem?_entriesAt, getElem?_entriesAt]
  cases present : positions[index]? with
  | none => rfl
  | some position =>
      have same := recordAt_of_isPrefix grows (inside position (List.mem_of_getElem? present))
      simp only [Option.map_some, same]

/-- A header that lies in the beginning is that of the whole. -/
theorem checkHeader_iff_of_isPrefix (inside : headerSize ≤ shorter.length) :
    checkHeader shorter = .ok () ↔ checkHeader bytes = .ok () := by
  have room : 0x40 ≤ shorter.length := inside
  rw [checkHeader_eq_ok_iff, checkHeader_eq_ok_iff, word_of_isPrefix grows (by omega),
    word_of_isPrefix grows (by omega), word_of_isPrefix grows (by omega),
    Bytes.slice_of_isPrefix grows (by omega)]
  have whole := Nat.le_trans inside grows.length_le
  simp only [inside, whole]

/-- A position follows another one in the beginning exactly when it does in the whole and its
record lies in the beginning. -/
theorem follows_iff_of_isPrefix
    {offset target : Nat}
    (inside : offset + Register.recordSize ≤ shorter.length) :
    Follows (linkAt shorter) shorter.length offset target ↔
      Follows (linkAt bytes) bytes.length offset target ∧
        target + Register.recordSize ≤ shorter.length := by
  have whole := grows.length_le
  have same := linkAt_of_isPrefix grows inside
  constructor
  · intro follows
    refine ⟨⟨by rw [same, follows.linked], follows.forward, follows.aligned, ?_⟩, follows.inside⟩
    exact Nat.le_trans follows.inside whole
  · rintro ⟨follows, room⟩
    exact ⟨by rw [← same, follows.linked], follows.forward, follows.aligned, room⟩

/-- A chain in the beginning is one of the whole. -/
theorem Chained.of_isPrefix
    {positions : List Nat}
    (chained : Chained (linkAt shorter) shorter.length positions)
    (inside : ∀ position ∈ positions, position + Register.recordSize ≤ shorter.length) :
    Chained (linkAt bytes) bytes.length positions := by
  constructor
  · rw [List.isChain_iff_getElem]
    intro index more
    have step := List.isChain_iff_getElem.mp chained.steps index more
    have room := inside positions[index] (List.getElem_mem _)
    exact ((follows_iff_of_isPrefix grows room).mp step).1
  · obtain ⟨final, last, ends⟩ := chained.ends
    have room := inside final (List.mem_of_getLast? last)
    exact ⟨final, last, by rw [linkAt_of_isPrefix grows room, ends]⟩

/-- The relocations of the whole are read from its beginning, unless one of them is cut off. -/
theorem readRelocations_givesUnless
    {index count : Nat}
    {relocations : List Relocation}
    (found : readRelocations bytes index count = .ok relocations) :
    GivesUnless (CutAt shorter.length) (readRelocations shorter index count) relocations := by
  induction count generalizing index relocations with
  | zero => exact Or.inl found
  | succ count inductionHypothesis =>
      rw [readRelocations] at found ⊢
      obtain ⟨-, -, found⟩ := seq_eq_ok.mp found
      obtain ⟨relocation, here, found⟩ := seq_eq_ok.mp found
      obtain ⟨rest, others, equal⟩ := seq_eq_ok.mp found
      refine (checkRange_givesUnless _ _ _ _).bind ?_
      intro checked
      rw [Bytes.slice_of_isPrefix grows (checkRange_eq_ok_iff.mp checked)] at here
      refine GivesUnless.bind (Or.inl here) ?_
      intro _
      refine (inductionHypothesis others).bind ?_
      intro _
      exact Or.inl equal

/-- The chain of the whole is followed in its beginning, unless one of its records is cut off.
The induction is on the chain. -/
theorem walkFrom_givesUnless
    {visited positions : List Nat}
    {index offset : Nat}
    (before : ∀ position ∈ visited, position < offset)
    (room : offset + Register.recordSize ≤ shorter.length)
    (walked : walkFrom (linkAt bytes) bytes.length visited index offset = .ok positions) :
    GivesUnless (CutAt shorter.length)
      (walkFrom (linkAt shorter) shorter.length visited index offset) positions := by
  induction positions generalizing visited index offset with
  | nil =>
      rcases (walkFrom_step_iff before).mp walked with ⟨-, equal⟩ | ⟨target, rest, -, -, equal⟩
      · cases equal
      · cases equal
  | cons position rest inductionHypothesis =>
      have same := linkAt_of_isPrefix grows room
      rcases (walkFrom_step_iff before).mp walked with
        ⟨ends, equal⟩ | ⟨target, others, follows, walkedRest, equal⟩
      · rw [same] at ends
        exact Or.inl ((walkFrom_step_iff before).mpr (Or.inl ⟨ends, equal⟩))
      · cases equal
        have linked := follows.linked
        rw [same] at linked
        rw [walkFrom, linked]
        dsimp only
        rw [if_neg follows.ne_chainEnd]
        by_cases inside : target + Register.recordSize ≤ shorter.length
        · have here := (follows_iff_of_isPrefix grows room).mpr ⟨follows, inside⟩
          have sound : linkError? shorter.length (position :: visited) index position target = none :=
            (linkError?_eq_none_iff before linked).mpr here
          split
          · next error wrong =>
              rw [sound] at wrong
              cases wrong
          · rcases inductionHypothesis (follows.behind before) inside walkedRest with
              found | ⟨error, failed, cut⟩
            · rw [found]
              exact Or.inl rfl
            · rw [failed]
              exact Or.inr ⟨error, rfl, cut⟩
        · have cut : linkError? shorter.length (position :: visited) index position target =
              some (.truncated .record target Register.recordSize shorter.length) := by
            rw [linkError?, if_pos (Nat.lt_of_not_le inside)]
          split
          · next error wrong =>
              rw [cut] at wrong
              cases wrong
              exact Or.inr ⟨_, rfl, _, _, _, rfl, Nat.lt_of_not_le inside⟩
          · next sound =>
              rw [cut] at sound
              cases sound

/-- The records of the whole are found in its beginning, unless one of them is cut off. -/
theorem walk_givesUnless
    {positions : List Nat}
    (walked : walk bytes = .ok positions) :
    GivesUnless (CutAt shorter.length) (walk shorter) positions := by
  rw [walk] at walked ⊢
  obtain ⟨-, -, walked⟩ := seq_eq_ok.mp walked
  refine (checkRange_givesUnless _ _ _ _).bind ?_
  intro checked
  exact walkFrom_givesUnless grows (by simp) (checkRange_eq_ok_iff.mp checked) walked

/-- The header of the whole is found in its beginning, unless it is cut off. -/
theorem checkHeader_givesUnless (checked : checkHeader bytes = .ok ()) :
    GivesUnless (CutAt shorter.length) (checkHeader shorter) () := by
  by_cases inside : headerSize ≤ shorter.length
  · exact Or.inl ((checkHeader_iff_of_isPrefix grows inside).mpr checked)
  · have outside : shorter.length < 0 + headerSize := by omega
    exact Or.inr ((checkRange_stopsWith outside).bind _)

end Grows

variable {bytes : Bytes} {container : Container}

/-- What is left when a container is cut off is missing a part. -/
theorem read_stopsWith_of_isPrefix
    {shorter : Bytes}
    (readEq : read bytes = .ok container)
    (grows : shorter <+: bytes)
    (cut : shorter ≠ bytes) :
    StopsWith (CutAt shorter.length) (read shorter) := by
  obtain ⟨header, few, relocations, relocationsEq, positions, walked, count, dataEq, -⟩ :=
    read_eq_ok_iff.mp readEq
  obtain ⟨offsetEq, sizeEq⟩ := checkData_eq_ok_iff.mp dataEq
  have missing : shorter.length < bytes.length := by
    refine Nat.lt_of_le_of_ne grows.length_le ?_
    intro same
    exact cut (grows.eq_of_length same)
  unfold read
  refine (checkHeader_givesUnless grows header).stopsWith_bind ?_
  intro checked
  have inside : 0x40 ≤ shorter.length := (checkHeader_eq_ok_iff.mp checked).1
  rw [word_of_isPrefix grows (by omega)] at few relocationsEq count
  rw [longWord_of_isPrefix grows (by omega)] at offsetEq
  rw [longWord_of_isPrefix grows (by omega), longWord_of_isPrefix grows (by omega)] at sizeEq
  dsimp only
  rw [if_neg (Nat.not_lt_of_ge few)]
  refine (readRelocations_givesUnless grows relocationsEq).stopsWith_bind ?_
  intro _
  refine (walk_givesUnless grows walked).stopsWith_bind ?_
  intro found
  obtain ⟨room, head, chained⟩ := walk_eq_ok_iff.mp found
  have places := fun position present => (chained.slot_and_inside head room position present).2
  rw [entriesAt_of_isPrefix grows places] at offsetEq
  rw [if_neg (by simpa using count)]
  refine StopsWith.bind ?_ _
  unfold checkData
  dsimp only
  rw [if_neg (by simpa using offsetEq)]
  exact (checkRange_stopsWith (by omega)).bind _

/-- A container with bytes behind it does not end with its data. -/
theorem read_append
    {rest : Bytes}
    (readEq : read bytes = .ok container)
    (more : rest ≠ []) :
    read (bytes ++ rest) = .error (.invalidContainer (.trailingBytes rest.length)) := by
  obtain ⟨header, few, relocations, relocationsEq, positions, walked, count, dataEq, -⟩ :=
    read_eq_ok_iff.mp readEq
  obtain ⟨offsetEq, sizeEq⟩ := checkData_eq_ok_iff.mp dataEq
  obtain ⟨room, head, chained⟩ := walk_eq_ok_iff.mp walked
  have grows : bytes <+: bytes ++ rest := List.prefix_append bytes rest
  have inside : 0x40 ≤ bytes.length := (checkHeader_eq_ok_iff.mp header).1
  have places := fun position present => (chained.slot_and_inside head room position present).2
  have tableEnd := relocations_end_le few
  have positive := List.length_pos_of_ne_nil more
  have relocationsFound : readRelocations (bytes ++ rest) 0 (word bytes 0x10) = .ok relocations := by
    rw [readRelocations_eq_ok_iff] at relocationsEq ⊢
    rwa [Bytes.slice_of_isPrefix grows (by omega)]
  have walkFound : walk (bytes ++ rest) = .ok positions := by
    refine walk_eq_ok_iff.mpr ⟨?_, head, chained.of_isPrefix grows places⟩
    exact Nat.le_trans room grows.length_le
  have declared : word (bytes ++ rest) 0x10 = word bytes 0x10 := word_of_isPrefix grows (by omega)
  have counted : word (bytes ++ rest) 0x0C = word bytes 0x0C := word_of_isPrefix grows (by omega)
  have start : longWord (bytes ++ rest) 0x18 = longWord bytes 0x18 :=
    longWord_of_isPrefix grows (by omega)
  have size : longWord (bytes ++ rest) 0x20 = longWord bytes 0x20 :=
    longWord_of_isPrefix grows (by omega)
  have ends : checkData (bytes ++ rest) (entriesAt bytes positions) =
      .error (.invalidContainer (.trailingBytes rest.length)) := by
    unfold checkData
    dsimp only
    rw [start, size, sizeEq, List.length_append, if_neg (by simpa using offsetEq),
      checkRange_eq_ok_iff.mpr (by omega), ok_bind, if_pos (by simpa using more),
      Nat.add_sub_cancel_left]
    rfl
  unfold read
  rw [(checkHeader_iff_of_isPrefix grows inside).mp header, ok_bind, declared, counted]
  dsimp only
  rw [if_neg (Nat.not_lt_of_ge few), relocationsFound, ok_bind, walkFound, ok_bind,
    entriesAt_of_isPrefix grows places, if_neg (by simpa using count), ends]
  rfl

/-- No container is the beginning of another one: a proper prefix of a container misses a part
that ends behind it, and a proper extension has trailing bytes. -/
theorem read_of_isPrefix_of_append (readEq : read bytes = .ok container) :
    (∀ shorter : Bytes, shorter <+: bytes → shorter ≠ bytes →
      ∃ part offset needed,
        read shorter = .error (.truncated part offset needed shorter.length) ∧
          shorter.length < offset + needed) ∧
      ∀ rest : Bytes, rest ≠ [] →
        read (bytes ++ rest) = .error (.invalidContainer (.trailingBytes rest.length)) := by
  constructor
  · intro shorter grows cut
    obtain ⟨error, failed, part, offset, needed, rfl, outside⟩ :=
      read_stopsWith_of_isPrefix readEq grows cut
    exact ⟨part, offset, needed, failed, outside⟩
  · intro rest more
    exact read_append readEq more

/-- The program without its last byte misses a part, and with a zero behind it has a trailing
byte. -/
theorem curve_cut_off_and_continued :
    read curve.write = .ok curve.stored ∧
      curve.write.dropLast <+: curve.write ∧ curve.write.dropLast ≠ curve.write ∧
      (∃ part offset needed,
        read curve.write.dropLast =
            .error (.truncated part offset needed curve.write.dropLast.length) ∧
          curve.write.dropLast.length < offset + needed) ∧
      ([0] : Bytes) ≠ [] ∧
      read (curve.write ++ [0]) = .error (.invalidContainer (.trailingBytes 1)) := by
  have readEq := read_write_eq curve_wellFormed
  have lengthEq : curve.write.length = dataOffset curve.entries + 7 :=
    length_write (by decide) curve_linked.ordered
  have cut : curve.write.dropLast ≠ curve.write := by
    intro same
    have lengths := congrArg List.length same
    rw [List.length_dropLast] at lengths
    omega
  obtain ⟨cutOff, continued⟩ := read_of_isPrefix_of_append readEq
  have grows := List.dropLast_prefix curve.write
  exact ⟨readEq, grows, cut, cutOff _ grows cut, by decide, continued [0] (by decide)⟩

end Container
end TileProgram
