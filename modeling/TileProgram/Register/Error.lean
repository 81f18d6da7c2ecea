import TileProgram.Register.Field
import TileProgram.Text.Columns

/-!
# What can be wrong with a record or a register table

Every error is a cause with the data that its message needs.
-/

namespace TileProgram
namespace Register

/-- What makes a list of registers unusable as a table. -/
inductive TableDefect where
  | malformed
  | missingRegion (text : String)
  | unknownRegion (text region : String)
  | badWidth (name : Name) (width : Nat)
  | badBitOffset (name : Name) (bitOffset : Nat)
  | pastRecord (name : Name)
  | outsideRegion (name : Name)
  | duplicate (name : Name)
  | overlap (first second : Name)
  deriving DecidableEq

/-- What can be wrong with a record, a value for it, or its table. -/
inductive Error where
  | fieldOverflow (name : Name) (value : Int) (width : Nat)
  | invalidStride (name : Name) (value : Nat)
  | unsupportedType (field : String) (code : Nat)
  | unknownActivation (code : Nat)
  | missingTable
  | unknownField (text : String)
  | channelOutOfRange (channel limit : Nat)
  | invalidTable (defect : TableDefect)
  deriving DecidableEq

/-- The wording of a table defect. -/
def TableDefect.message : TableDefect → String
  | .malformed => "malformed JSON"
  | .missingRegion text => text ++ ": missing section prefix"
  | .unknownRegion text region => text ++ ": unknown section " ++ region
  | .badWidth name width => name.text ++ ": width " ++ toString width ++ " outside 1..=64"
  | .badBitOffset name bitOffset =>
      name.text ++ ": bit offset " ++ toString bitOffset ++ " outside 0..=7"
  | .pastRecord name =>
      name.text ++ ": ends past the " ++ Text.hexadecimal recordSize ++ "-byte record"
  | .outsideRegion name =>
      name.text ++ ": outside section range " ++ Text.hexadecimal name.region.start ++ ".." ++
        Text.hexadecimal name.region.stop
  | .duplicate name => "duplicate field " ++ name.text
  | .overlap first second => first.text ++ " overlaps " ++ second.text

/-- The wording of an error. -/
def Error.message : Error → String
  | .fieldOverflow name value width =>
      name.text ++ ": value " ++ toString value ++ " does not fit in " ++ toString width ++
        " bit(s)"
  | .invalidStride name value =>
      name.text ++ ": stride " ++ Text.hexadecimal value ++ " is not a multiple of 0x40"
  | .unsupportedType field code =>
      field ++ ": unsupported data type code " ++ toString code
  | .unknownActivation code => "unknown activation selector " ++ toString code
  | .missingTable => "lookup-table activation selected but no LUT payload is attached"
  | .unknownField text => "unknown register field: " ++ text
  | .channelOutOfRange channel limit =>
      "kernel DMA channel " ++ toString channel ++ " out of range (max " ++ toString limit ++ ")"
  | .invalidTable defect => "invalid register table: " ++ defect.message

/-- The name of the kind of an error. -/
def Error.kind : Error → String
  | .fieldOverflow .. => "FieldOverflow"
  | .invalidStride .. => "InvalidStride"
  | .unsupportedType .. => "UnsupportedDType"
  | .unknownActivation .. => "UnknownActivation"
  | .missingTable => "MissingLut"
  | .unknownField .. => "UnknownField"
  | .channelOutOfRange .. => "ChannelOutOfRange"
  | .invalidTable .. => "InvalidTable"

end Register
end TileProgram
