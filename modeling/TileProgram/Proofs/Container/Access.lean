import TileProgram.Proofs.Container.RoundTrip
import TileProgram.Proofs.Descriptor.Access
import TileProgram.Proofs.Register.Window

/-!
# Reading any byte string

Whatever the bytes are, reading them never leaves them: every slice lies
inside, every difference has a smaller number to take away, and the chain of
records is followed in fewer steps than there are bytes.  The reader of this
module guards each of these accesses, and it is the reader that runs.  An error
of the reader is about the bytes; a record of the built-in table has the
registers that reading needs, so none is about a register.
-/

namespace TileProgram

namespace Container

/-- The number in four bytes at a position. -/
def guardedWord (bytes : Bytes) (position : Nat) : Guarded ProgramError Nat := do
  let part ← Guarded.slice bytes position (position + 4)
  return Bytes.toNat part

/-- The number in eight bytes at a position. -/
def guardedLongWord (bytes : Bytes) (position : Nat) : Guarded ProgramError Nat := do
  let part ← Guarded.slice bytes position (position + 8)
  return Bytes.toNat part

/-- Checks that the bytes from one position to another are zero. -/
def guardedCheckClear (gap : Gap) (bytes : Bytes) (start stop : Nat) :
    Guarded ProgramError Unit := do
  let part ← Guarded.slice bytes start stop
  match part.findIdx? (· != 0) with
  | none => return ()
  | some index => throw (.invalidContainer (.notZero gap (start + index)))

/-- Reads the entry of a relocation with a given index from its bytes. -/
def guardedRelocation (index : Nat) (bytes : Bytes) : Guarded ProgramError Relocation := do
  let code ← guardedWord bytes 0
  match RelocationKind.ofCode? code with
  | none => throw (.invalidContainer (.unknownKind index code))
  | some kind =>
      let name ← Guarded.slice bytes 0x18 (0x18 + Relocation.nameSize)
      let stop := (name.takeWhile (· != 0)).length
      let after ← Guarded.slice name stop name.length
      if !Bytes.isClear after then throw (.invalidContainer (.bytesAfterName index))
      let text ← Guarded.slice name 0 stop
      match Utf8.decode text with
      | .error _ => throw (.invalidContainer (.nameNotText index))
      | .ok name =>
          let record ← guardedWord bytes 4
          let offset ← guardedLongWord bytes 8
          let size ← guardedLongWord bytes 0x10
          return ⟨kind, UInt32.ofNat record, UInt64.ofNat offset, UInt64.ofNat size, name⟩

/-- Reads a number of relocations from a given index on. -/
def guardedRelocations (bytes : Bytes) (index : Nat) :
    Nat → Guarded ProgramError (List Relocation)
  | 0 => return []
  | count + 1 => do
      let position := headerSize + index * Relocation.entrySize
      Guarded.of (checkRange .relocation position Relocation.entrySize bytes.length)
      let entry ← Guarded.slice bytes position (position + Relocation.entrySize)
      let relocation ← guardedRelocation index entry
      let rest ← guardedRelocations bytes (index + 1) count
      return relocation :: rest

/-- Checks a link from a record to a position, given the positions visited so far. -/
def guardedLink (length : Nat) (visited : List Nat) (index offset target : Nat) :
    Guarded ProgramError Unit := do
  Guarded.of (checkRange .record target Register.recordSize length)
  if visited.contains target then throw (.cyclicChain target)
  if target < offset + Register.recordSize then
    throw (.invalidContainer (.backwardLink index offset target))
  let distance ← Guarded.difference target arrayOffset
  if distance % Register.recordSize ≠ 0 then
    throw (.invalidContainer (.misalignedLink index target))

/-- Follows links from a record on, through at most a given number of records. -/
def guardedWalkFrom (bytes : Bytes) :
    Nat → List Nat → Nat → Nat → Guarded ProgramError (List Nat)
  | 0, _, _, _ => Guarded.outOfRange
  | steps + 1, visited, index, offset => do
      Guarded.of (checkRange .record offset Register.recordSize bytes.length)
      let record ← Guarded.slice bytes offset (offset + Register.recordSize)
      let target ←
        Guarded.mapError (.invalidRecord index) (Descriptor.ofBytes record).guardedNext
      if target = Descriptor.chainEnd then return [offset]
      else
        guardedLink bytes.length (offset :: visited) index offset target
        let rest ← guardedWalkFrom bytes steps (offset :: visited) (index + 1) target
        return offset :: rest

/-- Checks that nothing lies between records, from a given position on to the data section. -/
def guardedCheckGaps (bytes : Bytes) (dataStart position : Nat) :
    List Entry → Guarded ProgramError Unit
  | [] => guardedCheckClear .dataPadding bytes position dataStart
  | entry :: rest => do
      guardedCheckClear .recordGap bytes position entry.offset
      guardedCheckGaps bytes dataStart (entry.offset + Register.recordSize) rest

/-- Attaches the table of one relocation to its record. -/
def guardedAttachTable (data : Bytes) (entries : List Entry) (index : Nat)
    (relocation : Relocation) : Guarded ProgramError (List Entry) :=
  if relocation.kind != .lookupTable then return entries
  else
    let record := relocation.record.toNat
    match entries[record]? with
    | none => throw (.invalidContainer (.noSuchRecord index record))
    | some entry => do
        let start := relocation.offset.toNat
        let stop := relocation.offset.toNat + relocation.size.toNat
        Guarded.of
          (checkRange .lookupTable relocation.offset.toNat relocation.size.toNat data.length)
        let blob ← Guarded.slice data start stop
        let table := LookupTable.ofBytes blob
        let declared ← Guarded.mapError (.invalidRecord record)
          (entry.descriptor.guardedGet Registers.lookupLength)
        if declared != table.length then
          throw (.invalidContainer (.wrongTableLength record declared index table.length))
        let descriptor ← Guarded.mapError (.invalidRecord record)
          (entry.descriptor.guardedAttach table)
        return entries.set record { entry with descriptor := descriptor }

/-- Attaches the tables of relocations from a given index on. -/
def guardedAttachTables (data : Bytes) (entries : List Entry) (index : Nat) :
    List Relocation → Guarded ProgramError (List Entry)
  | [] => return entries
  | relocation :: rest => do
      let changed ← guardedAttachTable data entries index relocation
      guardedAttachTables data changed (index + 1) rest

/-- Checks the fixed numbers of a header. -/
def guardedCheckHeader (bytes : Bytes) : Guarded ProgramError Unit := do
  Guarded.of (checkRange .header 0 headerSize bytes.length)
  let first ← guardedWord bytes 0x00
  if first != magic then throw (.invalidContainer (.badMagic first))
  let version ← guardedWord bytes 0x04
  if version != formatVersion.toNat then throw (.invalidContainer (.badVersion version))
  let array ← guardedWord bytes 0x08
  if array != arrayOffset then
    throw (.invalidContainer (.wrongArrayOffset array arrayOffset))
  guardedCheckClear .reservedHeader bytes 0x28 headerSize

/-- Checks where the data section lies: right after the records and up to the end. -/
def guardedCheckData (bytes : Bytes) (offset size : Nat) (entries : List Entry) :
    Guarded ProgramError Unit := do
  let expected := dataOffset entries
  if offset != expected then
    throw (.invalidContainer (.wrongDataOffset offset expected))
  Guarded.of (checkRange .dataSection offset size bytes.length)
  if offset + size != bytes.length then
    let trailing ← Guarded.difference bytes.length (offset + size)
    throw (.invalidContainer (.trailingBytes trailing))

/-- Reads a container. -/
def guardedRead (bytes : Bytes) : Guarded ProgramError Container := do
  guardedCheckHeader bytes
  let version ← guardedWord bytes 0x04
  let declared ← guardedWord bytes 0x0C
  let count ← guardedWord bytes 0x10
  let flags ← guardedWord bytes 0x14
  let dataStart ← guardedLongWord bytes 0x18
  let dataSize ← guardedLongWord bytes 0x20
  if count > greatestRelocations then
    throw (.invalidContainer (.tooManyDeclared count greatestRelocations))
  let relocations ← guardedRelocations bytes 0 count
  let positions ← guardedWalkFrom bytes bytes.length [] 0 arrayOffset
  let entries := entriesAt bytes positions
  if entries.length != declared then
    throw (.invalidContainer (.wrongRecordCount declared entries.length))
  guardedCheckData bytes dataStart dataSize entries
  guardedCheckClear .relocationPadding bytes (headerSize + count * Relocation.entrySize)
    arrayOffset
  guardedCheckGaps bytes dataStart arrayOffset entries
  let data ← Guarded.slice bytes dataStart (dataStart + dataSize)
  let entries ← guardedAttachTables data entries 0 relocations
  return ⟨UInt32.ofNat version, UInt32.ofNat flags, relocations, entries, data⟩

variable {bytes : Bytes}

theorem guardedWord_eq {position : Nat} (inside : position + 4 ≤ bytes.length) :
    guardedWord bytes position = .of (.ok (word bytes position)) := by
  rw [guardedWord, Guarded.slice_add_eq inside]
  rfl

theorem guardedLongWord_eq {position : Nat} (inside : position + 8 ≤ bytes.length) :
    guardedLongWord bytes position = .of (.ok (longWord bytes position)) := by
  rw [guardedLongWord, Guarded.slice_add_eq inside]
  rfl

theorem guardedCheckClear_eq
    (gap : Gap)
    {start stop : Nat}
    (forward : start ≤ stop)
    (inside : stop ≤ bytes.length) :
    guardedCheckClear gap bytes start stop = .of (checkClear gap bytes start stop) := by
  rw [guardedCheckClear, Guarded.slice_eq forward inside, Guarded.of_ok_bind, checkClear]
  cases (bytes.slice start (stop - start)).findIdx? (· != 0) with
  | none => rfl
  | some index => rfl

/-- Every part of an entry lies inside its bytes, and every part of a name inside the name. -/
theorem guardedRelocation_eq (index : Nat) (lengthEq : bytes.length = Relocation.entrySize) :
    guardedRelocation index bytes = .of (Relocation.ofBytes index bytes) := by
  have size : bytes.length = 0x40 := lengthEq
  have nameInside : 0x18 + Relocation.nameSize ≤ bytes.length := by
    unfold Relocation.nameSize
    omega
  rw [guardedRelocation, guardedWord_eq (by omega), Guarded.of_ok_bind, Relocation.ofBytes]
  simp only [word]
  cases RelocationKind.ofCode? (Bytes.toNat (bytes.slice 0 4)) with
  | none => rfl
  | some kind =>
      simp only [Guarded.slice_add_eq nameInside, Guarded.of_ok_bind]
      generalize bytes.slice 0x18 Relocation.nameSize = name
      have short : (name.takeWhile (· != 0)).length ≤ name.length :=
        (List.takeWhile_sublist _).length_le
      have after : name.slice (name.takeWhile (· != 0)).length
          (name.length - (name.takeWhile (· != 0)).length) =
            name.drop (name.takeWhile (· != 0)).length := by
        rw [Bytes.slice, List.take_of_length_le (by rw [List.length_drop])]
      have before : name.slice 0 ((name.takeWhile (· != 0)).length - 0) =
          name.takeWhile (· != 0) := by
        rw [Bytes.slice, List.drop_zero, Nat.sub_zero]
        exact (List.prefix_iff_eq_take.mp (List.takeWhile_prefix _)).symm
      rw [Guarded.slice_eq short (Nat.le_refl _), Guarded.of_ok_bind, after,
        Guarded.slice_eq (Nat.zero_le _) short, before]
      split
      · rfl
      · rw [Guarded.of_ok_bind]
        cases Utf8.decode (name.takeWhile (· != 0)) with
        | error error => rfl
        | ok text =>
            have record : guardedWord bytes 4 = .of (.ok (word bytes 4)) :=
              guardedWord_eq (by omega)
            have offset : guardedLongWord bytes 8 = .of (.ok (longWord bytes 8)) :=
              guardedLongWord_eq (by omega)
            have length : guardedLongWord bytes 0x10 = .of (.ok (longWord bytes 0x10)) :=
              guardedLongWord_eq (by omega)
            simp only [record, offset, length]
            rfl

theorem guardedRelocations_eq (index count : Nat) :
    guardedRelocations bytes index count = .of (readRelocations bytes index count) := by
  induction count generalizing index with
  | zero => rfl
  | succ count inductionHypothesis =>
      rw [guardedRelocations, readRelocations]
      refine Guarded.of_bind ?_
      intro _ checked
      have inside := checkRange_eq_ok_iff.mp checked
      rw [Guarded.slice_add_eq inside, Guarded.of_ok_bind]
      refine Guarded.bind_eq_of (guardedRelocation_eq index (Bytes.length_slice inside)) ?_
      intro relocation _
      refine Guarded.bind_eq_of (inductionHypothesis (index + 1)) ?_
      intro rest _
      rfl

/-- A link that leads forward from a slot is at some distance from the first one. -/
theorem guardedLink_eq
    {length index offset target : Nat}
    (visited : List Nat)
    (behind : arrayOffset ≤ offset) :
    guardedLink length visited index offset target =
      .of (match linkError? length visited index offset target with
        | some error => .error error
        | none => .ok ()) := by
  rw [guardedLink, linkError?, checkRange]
  by_cases outside : length < target + Register.recordSize
  · rw [if_neg (by omega), if_pos outside]
    rfl
  rw [if_pos (by omega), if_neg outside, Guarded.of_ok_bind]
  by_cases seen : visited.contains target
  · rw [if_pos seen, if_pos seen]
    rfl
  rw [if_neg seen, if_neg seen]
  by_cases backward : target < offset + Register.recordSize
  · rw [if_pos backward, if_pos backward]
    rfl
  rw [if_neg backward, if_neg backward, Guarded.difference_eq (by omega), Guarded.of_ok_bind]
  by_cases misaligned : (target - arrayOffset) % Register.recordSize ≠ 0
  · rw [if_pos misaligned, if_pos misaligned]
    rfl
  · rw [if_neg misaligned, if_neg misaligned]
    rfl

/-- Each record that is followed lies behind the one before, so that there are no more of them
than fit.  The induction is on the steps that are left, which reach from the record to the
end. -/
theorem guardedWalkFrom_eq
    {steps : Nat}
    (visited : List Nat)
    (index : Nat)
    {offset : Nat}
    (behind : arrayOffset ≤ offset)
    (room : offset + Register.recordSize ≤ bytes.length)
    (enough : bytes.length < offset + (steps + 1) * Register.recordSize) :
    guardedWalkFrom bytes steps visited index offset =
      .of (walkFrom (linkAt bytes) bytes.length visited index offset) := by
  induction steps generalizing visited index offset with
  | zero => omega
  | succ steps inductionHypothesis =>
      rw [Nat.succ_mul] at enough
      rw [guardedWalkFrom, checkRange_eq_ok_iff.mpr room, Guarded.of_ok_bind,
        Guarded.slice_add_eq room, Guarded.of_ok_bind,
        Descriptor.guardedNext_eq (show (Descriptor.ofBytes _).table.Separate from
          Register.Table.standard_separate),
        Guarded.mapError_of, walkFrom]
      change (Guarded.of ((linkAt bytes offset).mapError _) >>= _) = _
      cases linkAt bytes offset with
      | error error => rfl
      | ok target =>
          change (if _ then _ else _) = _
          by_cases ends : target = Descriptor.chainEnd
          · rw [if_pos ends]
            dsimp only
            rw [if_pos ends]
            rfl
          rw [if_neg ends, guardedLink_eq _ behind]
          dsimp only
          rw [if_neg ends]
          split
          · next error wrong =>
              rw [wrong]
              rfl
          · next sound =>
              obtain ⟨forward, inside⟩ := linkError?_eq_none sound
              rw [sound]
              change (guardedWalkFrom bytes steps _ _ _ >>= _) = _
              rw [inductionHypothesis _ _ (by omega) inside (by omega)]
              cases walkFrom (linkAt bytes) bytes.length (offset :: visited) (index + 1)
                target with
              | error error => rfl
              | ok rest => rfl

/-- Records that lie one behind the other have gaps between them. -/
theorem guardedCheckGaps_eq
    {dataStart position : Nat}
    {entries : List Entry}
    (ordered : Ordered position entries)
    (before : endFrom position entries ≤ dataStart)
    (inside : dataStart ≤ bytes.length) :
    guardedCheckGaps bytes dataStart position entries =
      .of (checkGaps bytes dataStart position entries) := by
  induction entries generalizing position with
  | nil => exact guardedCheckClear_eq .dataPadding before inside
  | cons entry rest inductionHypothesis =>
      obtain ⟨forward, ordered⟩ := ordered
      rw [endFrom] at before
      have restEnds := ordered.le_endFrom
      rw [guardedCheckGaps, checkGaps]
      refine Guarded.bind_eq_of (guardedCheckClear_eq .recordGap forward (by omega)) ?_
      intro _ _
      exact inductionHypothesis ordered before

/-- Records of the built-in table. -/
def BuiltIn (entries : List Entry) : Prop :=
  ∀ entry ∈ entries, entry.descriptor.table = .standard

/-- A record gets its table without an access out of range, and stays one of the built-in
table. -/
theorem guardedAttachTable_eq
    {data : Bytes}
    {entries : List Entry}
    (builtIn : BuiltIn entries)
    (index : Nat)
    (relocation : Relocation) :
    guardedAttachTable data entries index relocation =
      .of (attachTable data entries index relocation) := by
  rw [guardedAttachTable, attachTable]
  split
  · rfl
  dsimp only
  cases present : entries[relocation.record.toNat]? with
  | none => rfl
  | some entry =>
      have separate : entry.descriptor.table.Separate := by
        rw [builtIn entry (List.mem_of_getElem? present)]
        exact Register.Table.standard_separate
      refine Guarded.of_bind ?_
      intro _ checked
      rw [Guarded.slice_add_eq (checkRange_eq_ok_iff.mp checked), Guarded.of_ok_bind,
        Descriptor.guardedGet_eq separate, Guarded.mapError_of]
      refine Guarded.of_bind ?_
      intro declared _
      refine Guarded.guard_eq_of ?_
      intro _
      rw [Descriptor.guardedAttach_eq separate, Guarded.mapError_of]
      refine Guarded.of_bind ?_
      intro descriptor _
      rfl

theorem BuiltIn.withTables
    {data : Bytes}
    {relocations : List Relocation}
    {entries : List Entry}
    (builtIn : BuiltIn entries) :
    BuiltIn (withTables data relocations entries) := by
  intro entry present
  obtain ⟨index, present⟩ := List.mem_iff_getElem?.mp present
  rw [getElem?_withTables, Option.map_eq_some_iff] at present
  obtain ⟨bare, barePresent, rfl⟩ := present
  exact builtIn bare (List.mem_of_getElem? barePresent)

theorem guardedAttachTables_eq
    {data : Bytes}
    {entries : List Entry}
    (builtIn : BuiltIn entries)
    (index : Nat)
    (relocations : List Relocation) :
    guardedAttachTables data entries index relocations =
      .of (attachTables data entries index relocations) := by
  induction relocations generalizing entries index with
  | nil => rfl
  | cons relocation rest inductionHypothesis =>
      rw [guardedAttachTables, attachTables]
      refine Guarded.bind_eq_of (guardedAttachTable_eq builtIn index relocation) ?_
      intro changed attached
      obtain ⟨-, rfl⟩ := attachTable_eq_ok_iff.mp attached
      exact inductionHypothesis builtIn.withTables (index + 1)

theorem guardedCheckHeader_eq (bytes : Bytes) :
    guardedCheckHeader bytes = .of (checkHeader bytes) := by
  rw [guardedCheckHeader, checkHeader]
  refine Guarded.of_bind ?_
  intro _ checked
  have inside : 0x40 ≤ bytes.length := checkRange_eq_ok_iff.mp checked
  rw [guardedWord_eq (by omega), Guarded.of_ok_bind]
  refine Guarded.guard_eq_of ?_
  intro _
  rw [guardedWord_eq (by omega), Guarded.of_ok_bind]
  refine Guarded.guard_eq_of ?_
  intro _
  rw [guardedWord_eq (by omega), Guarded.of_ok_bind]
  refine Guarded.guard_eq_of ?_
  intro _
  exact guardedCheckClear_eq .reservedHeader (by decide) inside

theorem guardedCheckData_eq (bytes : Bytes) (entries : List Entry) :
    guardedCheckData bytes (longWord bytes 0x18) (longWord bytes 0x20) entries =
      .of (checkData bytes entries) := by
  rw [guardedCheckData, checkData]
  refine Guarded.guard_eq_of ?_
  intro _
  refine Guarded.of_bind ?_
  intro _ checked
  split
  · rw [Guarded.difference_eq (checkRange_eq_ok_iff.mp checked)]
    rfl
  · rfl

/-- The chain of records is followed to its end in as many steps as records fit, and one more. -/
theorem guardedWalkFrom_eq_walk
    {steps : Nat}
    (enough : (bytes.length - arrayOffset) / Register.recordSize < steps) :
    guardedWalkFrom bytes steps [] 0 arrayOffset = .of (walk bytes) := by
  rw [walk]
  by_cases room : arrayOffset + Register.recordSize ≤ bytes.length
  · rw [checkRange_eq_ok_iff.mpr room, Outcome.ok_bind]
    have fits := Nat.lt_mul_of_div_lt enough recordSize_pos
    refine guardedWalkFrom_eq [] 0 (Nat.le_refl _) room ?_
    rw [Nat.succ_mul]
    omega
  · obtain ⟨more, equal⟩ := Nat.exists_eq_add_of_lt enough
    rw [equal, guardedWalkFrom]
    refine Guarded.of_bind ?_
    intro _ checked
    exact absurd (checkRange_eq_ok_iff.mp checked) room

/-- No access of the reader is out of range. -/
theorem guardedRead_eq (bytes : Bytes) : guardedRead bytes = .of (read bytes) := by
  rw [guardedRead, read]
  refine Guarded.bind_eq_of (guardedCheckHeader_eq bytes) ?_
  intro _ header
  have inside : 0x40 ≤ bytes.length := (checkHeader_eq_ok_iff.mp header).1
  rw [guardedWord_eq (by omega), Guarded.of_ok_bind, guardedWord_eq (by omega),
    Guarded.of_ok_bind, guardedWord_eq (by omega), Guarded.of_ok_bind,
    guardedWord_eq (by omega), Guarded.of_ok_bind, guardedLongWord_eq (by omega),
    Guarded.of_ok_bind, guardedLongWord_eq (by omega), Guarded.of_ok_bind]
  refine Guarded.guard_eq_of ?_
  intro few
  refine Guarded.bind_eq_of (guardedRelocations_eq 0 _) ?_
  intro relocations _
  have enough : (bytes.length - arrayOffset) / Register.recordSize < bytes.length :=
    Nat.lt_of_le_of_lt (Nat.div_le_self _ _) (by unfold arrayOffset; omega)
  refine Guarded.bind_eq_of (guardedWalkFrom_eq_walk enough) ?_
  intro positions walked
  obtain ⟨room, head, chained⟩ := walk_eq_ok_iff.mp walked
  have ordered := (chained.linked head room).ordered
  have arrayEnd := ordered.le_endFrom
  have builtIn : BuiltIn (entriesAt bytes positions) := by
    intro entry present
    rw [(mem_entriesAt present).2]
    rfl
  refine Guarded.guard_eq_of ?_
  intro _
  refine Guarded.bind_eq_of (guardedCheckData_eq bytes _) ?_
  intro _ dataChecked
  obtain ⟨offsetEq, sizeEq⟩ := checkData_eq_ok_iff.mp dataChecked
  -- The records end before the data section, which ends with the bytes.
  have behind : endFrom arrayOffset (entriesAt bytes positions) ≤ longWord bytes 0x18 := by
    rw [offsetEq, ← entriesEnd_eq]
    exact entriesEnd_le_dataOffset _
  refine Guarded.bind_eq_of (guardedCheckClear_eq .relocationPadding
    (relocations_end_le (Nat.le_of_not_gt few)) (by omega)) ?_
  intro _ _
  refine Guarded.bind_eq_of (guardedCheckGaps_eq ordered behind (by omega)) ?_
  intro _ _
  rw [Guarded.slice_add_eq (Nat.le_of_eq sizeEq), Guarded.of_ok_bind]
  refine Guarded.bind_eq_of (guardedAttachTables_eq builtIn 0 relocations) ?_
  intro entries _
  rfl

/-- Errors about the bytes of a container. -/
def AboutBytes (error : ProgramError) : Prop :=
  error.isContainerError = true

open Outcome

theorem checkRange_failsWith (part : Part) (offset needed length : Nat) :
    FailsWith AboutBytes (checkRange part offset needed length) := by
  unfold checkRange
  split
  · exact failsWith_ok _
  · exact failsWith_error.mpr rfl

theorem checkClear_failsWith (gap : Gap) (bytes : Bytes) (start stop : Nat) :
    FailsWith AboutBytes (checkClear gap bytes start stop) := by
  unfold checkClear
  split
  · exact failsWith_ok _
  · exact failsWith_error.mpr rfl

theorem ofBytes_failsWith (index : Nat) (bytes : Bytes) :
    FailsWith AboutBytes (Relocation.ofBytes index bytes) := by
  unfold Relocation.ofBytes
  dsimp only
  split
  · exact failsWith_error.mpr rfl
  split
  · exact failsWith_error.mpr rfl
  split
  · exact failsWith_error.mpr rfl
  · exact failsWith_ok _

theorem readRelocations_failsWith (bytes : Bytes) (index count : Nat) :
    FailsWith AboutBytes (readRelocations bytes index count) := by
  induction count generalizing index with
  | zero => exact failsWith_ok _
  | succ count inductionHypothesis =>
      rw [readRelocations]
      refine (checkRange_failsWith _ _ _ _).bind ?_
      intro _ _
      refine (ofBytes_failsWith _ _).bind ?_
      intro relocation _
      refine (inductionHypothesis _).bind ?_
      intro rest _
      exact failsWith_pure _

/-- Whatever is wrong with a link is about the bytes. -/
theorem linkError?_aboutBytes
    {length index offset target : Nat}
    {visited : List Nat}
    {error : ProgramError}
    (wrong : linkError? length visited index offset target = some error) :
    AboutBytes error := by
  unfold linkError? at wrong
  split at wrong
  · cases wrong
    rfl
  split at wrong
  · cases wrong
    rfl
  split at wrong
  · cases wrong
    rfl
  split at wrong
  · cases wrong
    rfl
  · cases wrong

/-- Every record says where the next one is, in the four bytes from its byte 0x20 on. -/
theorem linkAt_eq (bytes : Bytes) (offset : Nat) :
    linkAt bytes offset = .ok (word bytes (offset + 0x20)) := by
  obtain ⟨field, found, start, width⟩ :
      ∃ field, Register.Table.standard.lookup Registers.nextPointer = .ok field ∧
        field.bitStart = 8 * 0x20 ∧ field.width = 32 := by
    decide +kernel
  have value : field.unsigned (recordAt bytes offset).bits = word bytes (offset + 0x20) := by
    apply Nat.eq_of_testBit_eq
    intro index
    change (field.slice (Register.bitsOfBytes Register.recordSize _)).toNat.testBit index = _
    rw [BitVec.testBit_toNat, Register.Field.getLsbD_slice, width, start, Register.bitsOfBytes,
      BitVec.getLsbD_ofNat, Bytes.testBit_toNat_slice, word, Bytes.testBit_toNat_slice]
    by_cases small : index < 32
    · have inside : 8 * 0x20 + index < 8 * Register.recordSize := by
        have size : Register.recordSize = 0x300 := rfl
        omega
      have place : 8 * offset + (8 * 0x20 + index) = 8 * (offset + 0x20) + index := by omega
      simp only [small, inside, place, decide_true, Bool.true_and]
    · simp [small]
  have fits := field.unsigned_lt (recordAt bytes offset).bits
  rw [width] at fits
  rw [← value]
  refine Descriptor.next_eq_ok_iff.mpr ⟨?_, fits⟩
  change (Register.Table.standard.lookup Registers.nextPointer).map _ = _
  rw [found]
  rfl

theorem walkFrom_failsWith
    {link : Nat → Except Register.Error Nat}
    (linked : ∀ offset, ∃ target, link offset = .ok target)
    (length : Nat)
    (visited : List Nat)
    (index offset : Nat) :
    FailsWith AboutBytes (walkFrom link length visited index offset) := by
  fun_induction walkFrom link length visited index offset with
  | case1 visited index offset error failed =>
      obtain ⟨target, found⟩ := linked offset
      rw [failed] at found
      cases found
  | case2 => exact failsWith_ok _
  | case3 visited index offset target found notEnd error wrong =>
      exact failsWith_error.mpr (linkError?_aboutBytes wrong)
  | case4 visited index offset target found notEnd sound error failed inductionHypothesis =>
      rw [failed] at inductionHypothesis
      exact failsWith_error.mpr (failsWith_error.mp inductionHypothesis)
  | case5 => exact failsWith_ok _

theorem checkGaps_failsWith
    (bytes : Bytes)
    (dataStart position : Nat)
    (entries : List Entry) :
    FailsWith AboutBytes (checkGaps bytes dataStart position entries) := by
  induction entries generalizing position with
  | nil => exact checkClear_failsWith _ _ _ _
  | cons entry rest inductionHypothesis =>
      rw [checkGaps]
      refine (checkClear_failsWith _ _ _ _).bind ?_
      intro _ _
      exact inductionHypothesis _

/-- A record of the built-in table announces some length, and takes a table of that length. -/
theorem attachTable_failsWith
    {data : Bytes}
    {entries : List Entry}
    (builtIn : BuiltIn entries)
    (index : Nat)
    (relocation : Relocation) :
    FailsWith AboutBytes (attachTable data entries index relocation) := by
  unfold attachTable
  split
  · exact failsWith_ok _
  dsimp only
  cases present : entries[relocation.record.toNat]? with
  | none => exact failsWith_error.mpr rfl
  | some entry =>
      have announces : ∃ declared, entry.descriptor.get Registers.lookupLength = .ok declared := by
        obtain ⟨field, found, -⟩ :
            ∃ field, Register.Table.standard.lookup Registers.lookupLength = .ok field ∧
              field.width = 10 := by
          decide +kernel
        refine ⟨field.unsigned entry.descriptor.bits, ?_⟩
        rw [Descriptor.get, builtIn entry (List.mem_of_getElem? present), found]
        rfl
      obtain ⟨declared, declares⟩ := announces
      refine (checkRange_failsWith _ _ _ _).bind ?_
      intro _ _
      rw [declares]
      change FailsWith AboutBytes (if _ then _ else _)
      refine FailsWith.guard rfl ?_
      intro agrees
      have agrees := of_not_not (mt bne_iff_ne.mpr agrees)
      rw [Descriptor.attach_of_get (agrees ▸ declares)]
      exact failsWith_ok _

theorem attachTables_failsWith
    {data : Bytes}
    {entries : List Entry}
    (builtIn : BuiltIn entries)
    (index : Nat)
    (relocations : List Relocation) :
    FailsWith AboutBytes (attachTables data entries index relocations) := by
  induction relocations generalizing entries index with
  | nil => exact failsWith_ok _
  | cons relocation rest inductionHypothesis =>
      rw [attachTables]
      refine (attachTable_failsWith builtIn index relocation).bind ?_
      intro changed attached
      obtain ⟨-, rfl⟩ := attachTable_eq_ok_iff.mp attached
      exact inductionHypothesis builtIn.withTables (index + 1)

theorem checkHeader_failsWith (bytes : Bytes) : FailsWith AboutBytes (checkHeader bytes) := by
  unfold checkHeader
  refine (checkRange_failsWith _ _ _ _).bind ?_
  intro _ _
  refine FailsWith.guard rfl ?_
  intro _
  refine FailsWith.guard rfl ?_
  intro _
  refine FailsWith.guard rfl ?_
  intro _
  exact checkClear_failsWith _ _ _ _

theorem checkData_failsWith (bytes : Bytes) (entries : List Entry) :
    FailsWith AboutBytes (checkData bytes entries) := by
  unfold checkData
  refine FailsWith.guard rfl ?_
  intro _
  refine (checkRange_failsWith _ _ _ _).bind ?_
  intro _ _
  split
  · exact failsWith_throw.mpr rfl
  · exact failsWith_pure _

theorem read_failsWith (bytes : Bytes) : FailsWith AboutBytes (read bytes) := by
  unfold read
  refine (checkHeader_failsWith bytes).bind ?_
  intro _ _
  refine FailsWith.guard rfl ?_
  intro _
  refine (readRelocations_failsWith _ _ _).bind ?_
  intro relocations _
  have walkFails : FailsWith AboutBytes (walk bytes) := by
    unfold walk
    refine (checkRange_failsWith _ _ _ _).bind ?_
    intro _ _
    exact walkFrom_failsWith (fun offset => ⟨_, linkAt_eq bytes offset⟩) _ _ _ _
  refine walkFails.bind ?_
  intro positions _
  have builtIn : BuiltIn (entriesAt bytes positions) := by
    intro entry present
    rw [(mem_entriesAt present).2]
    rfl
  refine FailsWith.guard rfl ?_
  intro _
  refine (checkData_failsWith _ _).bind ?_
  intro _ _
  refine (checkClear_failsWith _ _ _ _).bind ?_
  intro _ _
  refine (checkGaps_failsWith _ _ _ _).bind ?_
  intro _ _
  refine (attachTables_failsWith builtIn 0 relocations).bind ?_
  intro entries _
  exact failsWith_pure _

/-- Every byte string is read to the end, without an access out of range.  The result is a
container, or else an error about the length of the bytes, about a cycle, or about what
they hold. -/
theorem read_total (bytes : Bytes) :
    guardedRead bytes = .of (read bytes) ∧
      ((∃ container, read bytes = .ok container) ∨
        (∃ part offset needed length,
          read bytes = .error (.truncated part offset needed length)) ∨
        (∃ offset, read bytes = .error (.cyclicChain offset)) ∨
        ∃ defect, read bytes = .error (.invalidContainer defect)) := by
  refine ⟨guardedRead_eq bytes, ?_⟩
  have fails := read_failsWith bytes
  cases outcome : read bytes with
  | ok container => exact Or.inl ⟨container, rfl⟩
  | error error =>
      have about : error.isContainerError = true := fails error outcome
      cases error with
      | truncated part offset needed length => exact Or.inr (Or.inl ⟨_, _, _, _, rfl⟩)
      | cyclicChain offset => exact Or.inr (Or.inr (Or.inl ⟨_, rfl⟩))
      | invalidContainer defect => exact Or.inr (Or.inr (Or.inr ⟨_, rfl⟩))
      | _ => cases about

end Container
end TileProgram
