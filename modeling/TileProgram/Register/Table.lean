import TileProgram.Register.Error

/-!
# Register tables

A table is a list of registers in a fixed order.  It is accepted when every
register has a width of 1 to 64 bits, starts at a bit of its byte, lies in its
region, and has a name of its own, and when no two registers of a region share
a bit unless one of them is an alias.
-/

namespace TileProgram
namespace Register

/-- An ordered collection of registers. -/
structure Table where
  fields : List Field
  deriving DecidableEq

namespace Table

/-- What is wrong with the shape of one register, if anything. -/
def shapeDefect? (field : Field) : Option TableDefect :=
  if field.width = 0 ∨ field.width > Field.greatestWidth then
    some (.badWidth field.name field.width)
  else if field.bitOffset > 7 then
    some (.badBitOffset field.name field.bitOffset)
  else if field.bitEnd > recordSize * 8 then
    some (.pastRecord field.name)
  else if field.bitStart < field.name.region.start * 8 ∨
      field.bitEnd > field.name.region.stop * 8 then
    some (.outsideRegion field.name)
  else none

/-- The first register with a bad shape or a name seen before, in table order. -/
def entryDefect? (seen : List Name) : List Field → Option TableDefect
  | [] => none
  | field :: rest =>
      match shapeDefect? field with
      | some defect => some defect
      | none =>
          if seen.contains field.name then some (.duplicate field.name)
          else entryDefect? (field.name :: seen) rest

/-- The first pair of neighbours of which the first one reaches into the second one. -/
def neighbourDefect? : List Field → Option TableDefect
  | first :: second :: rest =>
      if first.bitEnd > second.bitStart then some (.overlap first.name second.name)
      else neighbourDefect? (second :: rest)
  | _ => none

/-- The registers of a region that are not aliases, by increasing first bit. -/
def ordered (fields : List Field) (region : Region) : List Field :=
  (fields.filter fun field => field.name.region == region && !field.isAlias).mergeSort
    fun left right => left.bitStart ≤ right.bitStart

/-- What is wrong with a list of registers, if anything. -/
def defect? (fields : List Field) : Option TableDefect :=
  (entryDefect? [] fields).or
    (Region.all.findSome? fun region => neighbourDefect? (ordered fields region))

/-- The table of a list of registers. -/
def ofFields (fields : List Field) : Except Error Table :=
  match defect? fields with
  | some defect => .error (.invalidTable defect)
  | none => .ok ⟨fields⟩

/-- The register of a given name. -/
def find? (table : Table) (name : Name) : Option Field :=
  table.fields.find? fun field => field.name == name

/-- The register of a given name, or an error that shows the name. -/
def lookup (table : Table) (name : Name) : Except Error Field :=
  match table.find? name with
  | some field => .ok field
  | none => .error (.unknownField name.text)

/-- The register whose qualified name is given as text. -/
def lookupText (table : Table) (text : String) : Except Error Field :=
  match (Name.ofText? text).bind table.find? with
  | some field => .ok field
  | none => .error (.unknownField text)

/-- The registers of one region in table order. -/
def fieldsOf (table : Table) (region : Region) : List Field :=
  table.fields.filter fun field => field.name.region == region

end Table
end Register
end TileProgram
