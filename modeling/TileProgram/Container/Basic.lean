import TileProgram.Container.Relocation
import TileProgram.Layout.Allocator
import TileProgram.Residency.Check

/-!
# Containers and their bytes

What a container is, and how it is written.
-/

/-!
## Containers

A container holds the chained records of a program, its relocations and its
data.  Records lie at fixed distances from a fixed position; each one but the
last points to the next.
-/

namespace TileProgram
namespace Container

/-- A record at its position, with the index of the record it points to. -/
structure Entry where
  offset : Nat
  descriptor : Descriptor
  next : Option Nat
  deriving DecidableEq

end Container

/-- A program as it is stored. -/
structure Container where
  version : UInt32
  flags : UInt32
  relocations : List Container.Relocation
  entries : List Container.Entry
  data : Bytes
  deriving DecidableEq

namespace Container

/-- The version of the format. -/
def formatVersion : UInt32 := 1

/-- The bytes of the header. -/
def headerSize : Nat := 0x40

/-- The position of the first record. -/
def arrayOffset : Nat := 0x4000

/-- The most relocations that fit between the header and the first record. -/
def greatestRelocations : Nat := (arrayOffset - headerSize) / Relocation.entrySize

/-- The alignment of the data section. -/
def dataAlignment : Nat := 0x40

/-- The position of a record when records lie back to back. -/
def recordOffset (index : Nat) : Nat :=
  arrayOffset + index * Register.recordSize

/-- The records of a program in order. -/
def descriptors (container : Container) : List Descriptor :=
  container.entries.map Entry.descriptor

/-- Places chained records, of which a given number are placed already, back to back. -/
def placeFrom (count index : Nat) : List Descriptor → Except ProgramError (List Entry)
  | [] => .ok []
  | descriptor :: rest => do
      let next := if index + 1 < count then some (index + 1) else none
      let expected := (next.map recordOffset).getD Descriptor.chainEnd
      let actual ← descriptor.next.mapError (.invalidRecord index)
      if actual != expected then
        throw (.invalidContainer (.wrongLink index actual expected))
      return ⟨recordOffset index, descriptor, next⟩ :: (← placeFrom count (index + 1) rest)

/-- The container of chained records that lie back to back. -/
def ofRecords (descriptors : List Descriptor) (relocations : List Relocation) (data : Bytes) :
    Except ProgramError Container :=
  if descriptors.isEmpty then .error (.invalidContainer .noRecords)
  else if relocations.length > greatestRelocations then
    .error (.invalidContainer (.tooManyRelocations relocations.length greatestRelocations))
  else match relocations.find? fun relocation => !Relocation.nameFits relocation.name with
    | some relocation =>
        .error (.invalidContainer (.badName relocation.name Relocation.nameSize))
    | none => do
        let entries ← placeFrom descriptors.length 0 descriptors
        return ⟨formatVersion, 0, relocations, entries, data⟩

/-- Checks records from a given index on. -/
def validateFrom (index : Nat) : List Descriptor → Except ProgramError Unit
  | [] => .ok ()
  | descriptor :: rest =>
      match descriptor.validate with
      | .error error => .error (.invalidRecord index error)
      | .ok () => validateFrom (index + 1) rest

/-- Checks every record, then the residency of the sequence. -/
def validate (container : Container) : Except ProgramError Unit := do
  validateFrom 0 container.descriptors
  Residency.verify container.descriptors

/-- Follows the links from a record on, through at most a given number of records. -/
def follow (entries : List Entry) : Nat → Option Nat → Nat
  | 0, _ => 0
  | _, none => 0
  | fuel + 1, some index => follow entries fuel (entries[index]?.bind Entry.next) + 1

/-- The number of records that the links reach from the first one. -/
def chainLength (container : Container) : Nat :=
  follow container.entries (container.entries.length + 1)
    (if container.entries.isEmpty then none else some 0)

/-- The surfaces whose name is a given word with a number, by increasing number. -/
def surfaces (container : Container) (word : String) : List Relocation :=
  let numbered := container.relocations.filterMap fun relocation =>
    if relocation.kind == .surface then
      (Relocation.numberAfter? word relocation.name).map fun number => (number, relocation)
    else none
  (numbered.mergeSort fun left right => left.1 ≤ right.1).map Prod.snd

/-- The input surfaces of a program. -/
def inputs (container : Container) : List Relocation :=
  container.surfaces "input"

/-- The output surfaces of a program. -/
def outputs (container : Container) : List Relocation :=
  container.surfaces "output"

/-- Equality of records at their positions. -/
def Entry.equal (left right : Entry) : Bool :=
  left.offset == right.offset && left.descriptor.equal right.descriptor && left.next == right.next

/-- Equality of lists of records. -/
def entriesEqual : List Entry → List Entry → Bool
  | [], [] => true
  | left :: lefts, right :: rights => left.equal right && entriesEqual lefts rights
  | _, _ => false

/-- Equality of containers; lookup tables are compared numerically. -/
def equal (left right : Container) : Bool :=
  left.version == right.version && left.flags == right.flags &&
    left.relocations == right.relocations && entriesEqual left.entries right.entries &&
    left.data == right.data

end Container
end TileProgram

/-!
## Writing containers

The header, the relocations, the records and the data follow each other; what
lies between them is zero.
-/

namespace TileProgram
namespace Container

/-- The number that begins every container. -/
def magic : Nat := 0xBEEFFACE

/-- The position after the last record. -/
def entriesEnd (entries : List Entry) : Nat :=
  match entries.getLast? with
  | none => arrayOffset
  | some entry => entry.offset + Register.recordSize

/-- The position of the data section behind some records. -/
def dataOffset (entries : List Entry) : Nat :=
  Layout.alignUp (entriesEnd entries) dataAlignment

/-- The bytes of the header. -/
def headerBytes (container : Container) : Bytes :=
  Bytes.ofNat 4 magic ++ Bytes.ofNat 4 container.version.toNat ++ Bytes.ofNat 4 arrayOffset ++
    Bytes.ofNat 4 container.entries.length ++ Bytes.ofNat 4 container.relocations.length ++
    Bytes.ofNat 4 container.flags.toNat ++ Bytes.ofNat 8 (dataOffset container.entries) ++
    Bytes.ofNat 8 container.data.length ++ Bytes.zeros 24

/-- The bytes of records from a given position on, with zeros between them. -/
def recordBytes (position : Nat) : List Entry → Bytes
  | [] => []
  | entry :: rest =>
      Bytes.zeros (entry.offset - position) ++ entry.descriptor.toBytes ++
        recordBytes (entry.offset + Register.recordSize) rest

/-- The bytes of a container. -/
def write (container : Container) : Bytes :=
  let relocations := container.relocations.flatMap Relocation.toBytes
  container.headerBytes ++ relocations ++
    Bytes.zeros (arrayOffset - headerSize - relocations.length) ++
    recordBytes arrayOffset container.entries ++
    Bytes.zeros (dataOffset container.entries - entriesEnd container.entries) ++ container.data

end Container
end TileProgram
