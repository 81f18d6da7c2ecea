import TileProgram.Activation
import TileProgram.Register.Codec
import TileProgram.Register.Standard

/-!
# Tile descriptors

A tile descriptor is one instruction record: a bit string described by a
register table, and perhaps the lookup table that its activation uses.  All
changes are assignments to named registers, made one after another; the first
one that fails ends the sequence, and those before it stay.
-/

namespace TileProgram

open Register

/-- The bits of a record. -/
abbrev Record := BitVec (8 * recordSize)

/-- One instruction record. -/
structure Descriptor where
  table : Table
  bits : Record
  lookup : Option LookupTable
  deriving DecidableEq

/-- A value for a register, taken as unsigned or as two's complement. -/
inductive Amount where
  | unsigned (value : Nat)
  | signed (value : Int)
  deriving DecidableEq

/-- A value for a named register. -/
structure Assignment where
  name : Name
  amount : Amount
  deriving DecidableEq

namespace Assignment

/-- Assigns an unsigned value. -/
def unsigned (name : Name) (value : Nat) : Assignment :=
  ⟨name, .unsigned value⟩

/-- Assigns a signed value. -/
def signed (name : Name) (value : Int) : Assignment :=
  ⟨name, .signed value⟩

end Assignment

namespace Descriptor

/-- The zero record described by a table. -/
def ofTable (table : Table) : Descriptor :=
  ⟨table, 0, none⟩

/-- The zero record described by the built-in table. -/
def empty : Descriptor :=
  ofTable .standard

/-- The record of the built-in table with given bytes. -/
def ofBytes (bytes : Bytes) : Descriptor :=
  ⟨.standard, bitsOfBytes recordSize bytes, none⟩

/-- The bytes of a record. -/
def toBytes (descriptor : Descriptor) : Bytes :=
  bytesOfBits descriptor.bits

/-- Equality of records, whatever tables describe them: the same bits and numerically equal lookup tables. -/
def equal (left right : Descriptor) : Bool :=
  left.bits == right.bits &&
    match left.lookup, right.lookup with
    | none, none => true
    | some first, some second => first.equal second
    | _, _ => false

/-- The bytes of one region. -/
def regionBytes (descriptor : Descriptor) (region : Region) : Bytes :=
  Bytes.slice descriptor.toBytes region.start (region.stop - region.start)

/-- The unsigned value of a named register. -/
def get (descriptor : Descriptor) (name : Name) : Except Error Nat :=
  (descriptor.table.lookup name).map fun field => field.unsigned descriptor.bits

/-- The two's complement value of a named register. -/
def getSigned (descriptor : Descriptor) (name : Name) : Except Error Int :=
  (descriptor.table.lookup name).map fun field => field.twosComplement descriptor.bits

/-- Writes a value into a register. -/
def put (descriptor : Descriptor) (field : Field) : Amount → Except Error Descriptor
  | .unsigned value =>
      (field.pack descriptor.bits value).map fun bits => { descriptor with bits := bits }
  | .signed value =>
      (field.packSigned descriptor.bits value).map fun bits => { descriptor with bits := bits }

/-- Makes one assignment. -/
def assign (descriptor : Descriptor) (assignment : Assignment) : Except Error Descriptor :=
  (descriptor.table.lookup assignment.name).bind fun field =>
    descriptor.put field assignment.amount

/-- Makes assignments until one fails; gives the record then reached and the failure. -/
def assignAll (descriptor : Descriptor) : List Assignment → Descriptor × Option Error
  | [] => (descriptor, none)
  | assignment :: rest =>
      match descriptor.assign assignment with
      | .ok changed => changed.assignAll rest
      | .error error => (descriptor, some error)

@[simp] theorem assignAll_nil (descriptor : Descriptor) :
    descriptor.assignAll [] = (descriptor, none) := rfl

/-- The record after assignments that all succeed. -/
def assigned (descriptor : Descriptor) (assignments : List Assignment) :
    Except Error Descriptor :=
  match descriptor.assignAll assignments with
  | (changed, none) => .ok changed
  | (_, some error) => .error error

/-- The registers with a value other than zero, in table order. -/
def fields (descriptor : Descriptor) : List (Field × Nat) :=
  descriptor.table.fields.filterMap fun field =>
    let value := field.unsigned descriptor.bits
    if value = 0 then none else some (field, value)

/-- Changes a register whose qualified name is given as text. -/
def putText (descriptor : Descriptor) (text : String) (amount : Amount) :
    Except Error Descriptor :=
  (descriptor.table.lookupText text).bind fun field => descriptor.put field amount

/-- The unsigned value of a register whose qualified name is given as text. -/
def getText (descriptor : Descriptor) (text : String) : Except Error Nat :=
  (descriptor.table.lookupText text).map fun field => field.unsigned descriptor.bits

/-- The two's complement value of a register whose qualified name is given as text. -/
def getSignedText (descriptor : Descriptor) (text : String) : Except Error Int :=
  (descriptor.table.lookupText text).map fun field => field.twosComplement descriptor.bits

end Descriptor
end TileProgram
