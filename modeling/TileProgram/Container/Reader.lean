import TileProgram.Container.Basic

/-!
# Reading containers

The chain of records is followed from the fixed position of the first one; a
link must lead forward to another slot of the array.  Whatever the header, the
relocations, the records and the data do not account for has to be zero, so
that writing gives back every container that is read.
-/

namespace TileProgram
namespace Container

/-- Checks that a part lies inside a container of a given length. -/
def checkRange (part : Part) (offset needed length : Nat) : Except ProgramError Unit :=
  if offset + needed ≤ length then .ok () else .error (.truncated part offset needed length)

/-- Checks that the bytes from one position to another are zero. -/
def checkClear (gap : Gap) (bytes : Bytes) (start stop : Nat) : Except ProgramError Unit :=
  match (Bytes.slice bytes start (stop - start)).findIdx? (· != 0) with
  | none => .ok ()
  | some index => .error (.invalidContainer (.notZero gap (start + index)))

/-- The number in four bytes at a position. -/
def word (bytes : Bytes) (position : Nat) : Nat :=
  Bytes.toNat (Bytes.slice bytes position 4)

/-- The number in eight bytes at a position. -/
def longWord (bytes : Bytes) (position : Nat) : Nat :=
  Bytes.toNat (Bytes.slice bytes position 8)

/-- Reads a number of relocations from a given index on. -/
def readRelocations (bytes : Bytes) (index : Nat) : Nat → Except ProgramError (List Relocation)
  | 0 => .ok []
  | count + 1 => do
      let position := headerSize + index * Relocation.entrySize
      checkRange .relocation position Relocation.entrySize bytes.length
      let relocation ← Relocation.ofBytes index (Bytes.slice bytes position Relocation.entrySize)
      return relocation :: (← readRelocations bytes (index + 1) count)

/-- The record at a position. -/
def recordAt (bytes : Bytes) (offset : Nat) : Descriptor :=
  Descriptor.ofBytes (Bytes.slice bytes offset Register.recordSize)

/-- The position that the record at a position points to. -/
def linkAt (bytes : Bytes) (offset : Nat) : Except Register.Error Nat :=
  (recordAt bytes offset).next

/-- What is wrong with a link from a record to a position, given the positions visited so far. -/
def linkError? (length : Nat) (visited : List Nat) (index offset target : Nat) :
    Option ProgramError :=
  if length < target + Register.recordSize then
    some (.truncated .record target Register.recordSize length)
  else if visited.contains target then some (.cyclicChain target)
  else if target < offset + Register.recordSize then
    some (.invalidContainer (.backwardLink index offset target))
  else if (target - arrayOffset) % Register.recordSize ≠ 0 then
    some (.invalidContainer (.misalignedLink index target))
  else none

/-- A link that nothing is wrong with leads forward and stays inside. -/
theorem linkError?_eq_none {length index offset target : Nat} {visited : List Nat}
    (sound : linkError? length visited index offset target = none) :
    offset + Register.recordSize ≤ target ∧ target + Register.recordSize ≤ length := by
  unfold linkError? at sound
  split at sound
  · simp at sound
  · split at sound
    · simp at sound
    · split at sound
      · simp at sound
      · omega

/-- Follows links from a record that lies inside a container of a given length; gives the positions of the records. -/
def walkFrom (link : Nat → Except Register.Error Nat) (length : Nat) (visited : List Nat)
    (index offset : Nat) : Except ProgramError (List Nat) :=
  match link offset with
  | .error error => .error (.invalidRecord index error)
  | .ok target =>
      if target = Descriptor.chainEnd then .ok [offset]
      else
        match _sound : linkError? length (offset :: visited) index offset target with
        | some error => .error error
        | none =>
            match walkFrom link length (offset :: visited) (index + 1) target with
            | .error error => .error error
            | .ok rest => .ok (offset :: rest)
termination_by length - offset
decreasing_by
  have bounds := linkError?_eq_none _sound
  have positive : 0 < Register.recordSize := by decide
  omega

/-- The positions of the records of a container in chain order. -/
def walk (bytes : Bytes) : Except ProgramError (List Nat) := do
  checkRange .record arrayOffset Register.recordSize bytes.length
  walkFrom (linkAt bytes) bytes.length [] 0 arrayOffset

/-- The records at given positions, each one linked to the next. -/
def entriesAt (bytes : Bytes) (positions : List Nat) : List Entry :=
  positions.mapIdx fun index offset =>
    ⟨offset, recordAt bytes offset,
      if index + 1 < positions.length then some (index + 1) else none⟩

/-- Checks that nothing lies between records, from a given position on to the data section. -/
def checkGaps (bytes : Bytes) (dataStart position : Nat) : List Entry → Except ProgramError Unit
  | [] => checkClear .dataPadding bytes position dataStart
  | entry :: rest => do
      checkClear .recordGap bytes position entry.offset
      checkGaps bytes dataStart (entry.offset + Register.recordSize) rest

/-- Attaches the table of one relocation to its record. -/
def attachTable (data : Bytes) (entries : List Entry) (index : Nat) (relocation : Relocation) :
    Except ProgramError (List Entry) :=
  if relocation.kind != .lookupTable then .ok entries
  else
    let record := relocation.record.toNat
    match entries[record]? with
    | none => .error (.invalidContainer (.noSuchRecord index record))
    | some entry => do
        checkRange .lookupTable relocation.offset.toNat relocation.size.toNat data.length
        let table :=
          LookupTable.ofBytes (Bytes.slice data relocation.offset.toNat relocation.size.toNat)
        let declared ←
          (entry.descriptor.get Registers.lookupLength).mapError (.invalidRecord record)
        if declared != table.length then
          throw (.invalidContainer (.wrongTableLength record declared index table.length))
        let descriptor ← (entry.descriptor.attach table).mapError (.invalidRecord record)
        return entries.set record { entry with descriptor := descriptor }

/-- Attaches the tables of relocations from a given index on. -/
def attachTables (data : Bytes) (entries : List Entry) (index : Nat) :
    List Relocation → Except ProgramError (List Entry)
  | [] => .ok entries
  | relocation :: rest => do
      attachTables data (← attachTable data entries index relocation) (index + 1) rest

/-- Checks the fixed numbers of a header. -/
def checkHeader (bytes : Bytes) : Except ProgramError Unit := do
  checkRange .header 0 headerSize bytes.length
  if word bytes 0x00 != magic then
    throw (.invalidContainer (.badMagic (word bytes 0x00)))
  if word bytes 0x04 != formatVersion.toNat then
    throw (.invalidContainer (.badVersion (word bytes 0x04)))
  if word bytes 0x08 != arrayOffset then
    throw (.invalidContainer (.wrongArrayOffset (word bytes 0x08) arrayOffset))
  checkClear .reservedHeader bytes 0x28 headerSize

/-- Checks where the data section lies: right after the records and up to the end. -/
def checkData (bytes : Bytes) (entries : List Entry) : Except ProgramError Unit := do
  let expected := dataOffset entries
  let offset := longWord bytes 0x18
  let size := longWord bytes 0x20
  if offset != expected then
    throw (.invalidContainer (.wrongDataOffset offset expected))
  checkRange .dataSection offset size bytes.length
  if offset + size != bytes.length then
    throw (.invalidContainer (.trailingBytes (bytes.length - (offset + size))))

/-- Reads a container. -/
def read (bytes : Bytes) : Except ProgramError Container := do
  checkHeader bytes
  let count := word bytes 0x10
  if count > greatestRelocations then
    throw (.invalidContainer (.tooManyDeclared count greatestRelocations))
  let relocations ← readRelocations bytes 0 count
  let entries := entriesAt bytes (← walk bytes)
  if entries.length != word bytes 0x0C then
    throw (.invalidContainer (.wrongRecordCount (word bytes 0x0C) entries.length))
  checkData bytes entries
  checkClear .relocationPadding bytes (headerSize + count * Relocation.entrySize) arrayOffset
  let dataStart := longWord bytes 0x18
  checkGaps bytes dataStart arrayOffset entries
  let data := Bytes.slice bytes dataStart (longWord bytes 0x20)
  let entries ← attachTables data entries 0 relocations
  return ⟨UInt32.ofNat (word bytes 0x04), UInt32.ofNat (word bytes 0x14), relocations, entries, data⟩

end Container
end TileProgram
