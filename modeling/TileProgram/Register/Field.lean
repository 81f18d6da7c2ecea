/-!
# Regions and fields

A record is divided into regions, and registers are fields in them.
-/

/-!
## Regions of a descriptor record

A record is 768 bytes long and is divided into named regions, each with its
own byte range.  Bytes between regions carry no registers.
-/

namespace TileProgram
namespace Register

/-- The length of a record in bytes. -/
def recordSize : Nat := 0x300

/-- A named part of a record. -/
inductive Region where
  | header
  | kernelSource
  | common
  | tileSource
  | cache
  | engine
  | tileDestination
  deriving DecidableEq

namespace Region

/-- All regions in record order. -/
def all : List Region :=
  [.header, .kernelSource, .common, .tileSource, .cache, .engine, .tileDestination]

/-- The first byte of a region. -/
def start : Region → Nat
  | .header => 0x000
  | .kernelSource => 0x02C
  | .common => 0x128
  | .tileSource => 0x16C
  | .cache => 0x1E0
  | .engine => 0x22C
  | .tileDestination => 0x258

/-- One past the last byte of a region. -/
def stop : Region → Nat
  | .header => 0x02C
  | .kernelSource => 0x128
  | .common => 0x16C
  | .tileSource => 0x1E0
  | .cache => 0x22C
  | .engine => 0x240
  | .tileDestination => 0x274

/-- The name that begins the qualified name of each register of the region. -/
def name : Region → String
  | .header => "Header"
  | .kernelSource => "KernelDMASrc"
  | .common => "Common"
  | .tileSource => "TileDMASrc"
  | .cache => "L2"
  | .engine => "NE"
  | .tileDestination => "TileDMADst"

/-- The region of a given name. -/
def ofName? (text : String) : Option Region :=
  all.find? fun region => region.name == text

/-- Every region is named by its own name only. -/
theorem ofName?_name (region : Region) : ofName? region.name = some region := by
  cases region <;> decide

end Region
end Register
end TileProgram

/-!
## Register fields

A field is a named run of consecutive bits of a record.  Bits are counted from
the lowest bit of the first byte, so a field may straddle byte boundaries.
-/

namespace TileProgram
namespace Register

/-- A register name: a region and a label within it. -/
structure Name where
  region : Region
  label : String
  deriving DecidableEq

namespace Name

/-- The qualified text of a name: region, point, label. -/
def text (name : Name) : String :=
  name.region.name ++ "." ++ name.label

/-- Cuts a text at its first point. -/
def splitAtPoint? (text : String) : Option (String × String) :=
  match text.toList.span (· != '.') with
  | (_, []) => none
  | (before, _ :: after) => some (String.ofList before, String.ofList after)

/-- The name whose qualified text is given, if the part before the first point names a region. -/
def ofText? (text : String) : Option Name :=
  match splitAtPoint? text with
  | none => none
  | some (before, after) => (Region.ofName? before).map fun region => ⟨region, after⟩

end Name

/-- A register: its name, its bits, and whether it is in two's complement or shares bits with another one. -/
structure Field where
  name : Name
  byteOffset : Nat
  bitOffset : Nat
  width : Nat
  isSigned : Bool
  isAlias : Bool
  deriving DecidableEq

namespace Field

/-- The widest register there is. -/
def greatestWidth : Nat := 64

/-- The first bit of a field, counted from the start of the record. -/
def bitStart (field : Field) : Nat :=
  field.byteOffset * 8 + field.bitOffset

/-- One past the last bit of a field. -/
def bitEnd (field : Field) : Nat :=
  field.bitStart + field.width

/-- The number of bytes that a field touches. -/
def spanBytes (field : Field) : Nat :=
  (field.bitOffset + field.width + 7) / 8

/-- The bits of a field that values have, which are all bits of a field of a table. -/
def valueWidth (field : Field) : Nat :=
  min field.width greatestWidth

/-- The largest unsigned value of a field. -/
def greatest (field : Field) : Nat :=
  Nat.pow 2 field.valueWidth - 1

/-- The least signed value of a field. -/
def signedLeast (field : Field) : Int :=
  -(Nat.pow 2 (field.valueWidth - 1) : Int)

/-- The largest signed value of a field. -/
def signedGreatest (field : Field) : Int :=
  (Nat.pow 2 (field.valueWidth - 1) : Int) - 1

/-- Whether a word occurs in a text. -/
def occursIn (word : List Char) : List Char → Bool
  | [] => word.isEmpty
  | letter :: rest => word.isPrefixOf (letter :: rest) || occursIn word rest

/-- A field holds a stride when its label says so. -/
def isStride (field : Field) : Bool :=
  occursIn "Stride".toList field.name.label.toList

end Field
end Register
end TileProgram
