import TileProgram.Text.Columns
import TileProgram.Text.Quoted

/-!
# What can be wrong with a container
-/

namespace TileProgram
namespace Container

/-- The parts of a container that have to lie inside it. -/
inductive Part where
  | header
  | relocation
  | record
  | dataSection
  | lookupTable
  deriving DecidableEq

/-- The name of a part. -/
def Part.name : Part → String
  | .header => "header"
  | .relocation => "relocation"
  | .record => "record"
  | .dataSection => "data section"
  | .lookupTable => "LUT"

/-- The stretches of a container that hold nothing and have to be zero. -/
inductive Gap where
  | reservedHeader
  | relocationPadding
  | recordGap
  | dataPadding
  deriving DecidableEq

/-- The name of a gap. -/
def Gap.name : Gap → String
  | .reservedHeader => "reserved header"
  | .relocationPadding => "relocation table padding"
  | .recordGap => "TD array gap"
  | .dataPadding => "data section padding"

/-- What makes a container invalid. -/
inductive Defect where
  | noRecords
  | tooManyRelocations (count limit : Nat)
  | tooManyDeclared (count limit : Nat)
  | badName (name : String) (limit : Nat)
  | wrongLink (index actual expected : Nat)
  | badMagic (magic : Nat)
  | badVersion (version : Nat)
  | wrongArrayOffset (actual expected : Nat)
  | wrongRecordCount (declared found : Nat)
  | wrongDataOffset (actual expected : Nat)
  | trailingBytes (count : Nat)
  | notZero (gap : Gap) (position : Nat)
  | backwardLink (index offset target : Nat)
  | misalignedLink (index target : Nat)
  | unknownKind (relocation kind : Nat)
  | bytesAfterName (relocation : Nat)
  | nameNotText (relocation : Nat)
  | noSuchRecord (relocation record : Nat)
  | wrongTableLength (record declared relocation found : Nat)
  deriving DecidableEq

/-- The wording of a defect. -/
def Defect.message : Defect → String
  | .noRecords => "program has no records"
  | .tooManyRelocations count limit =>
      toString count ++ " relocations, at most " ++ toString limit ++ " fit before the TD array"
  | .tooManyDeclared count limit =>
      toString count ++ " relocations, at most " ++ toString limit
  | .badName name limit =>
      "relocation name " ++ Text.quoted name ++ " longer than " ++ toString limit ++
        " bytes or holds a NUL"
  | .wrongLink index actual expected =>
      "TD[" ++ toString index ++ "] links to " ++ Text.hexadecimal actual ++ ", expected " ++
        Text.hexadecimal expected
  | .badMagic magic => "bad magic " ++ Text.hexadecimalPadded 10 magic
  | .badVersion version => "unsupported version " ++ toString version
  | .wrongArrayOffset actual expected =>
      "TD array at " ++ Text.hexadecimal actual ++ ", expected " ++ Text.hexadecimal expected
  | .wrongRecordCount declared found =>
      "header declares " ++ toString declared ++ " records, chain has " ++ toString found
  | .wrongDataOffset actual expected =>
      "data section at " ++ Text.hexadecimal actual ++ ", expected " ++ Text.hexadecimal expected
  | .trailingBytes count => toString count ++ " trailing bytes after the data section"
  | .notZero gap position =>
      "non-zero " ++ gap.name ++ " byte at " ++ Text.hexadecimal position
  | .backwardLink index offset target =>
      "TD[" ++ toString index ++ "] at " ++ Text.hexadecimal offset ++
        " links backward or into itself (" ++ Text.hexadecimal target ++ ")"
  | .misalignedLink index target =>
      "TD[" ++ toString index ++ "] links to misaligned offset " ++ Text.hexadecimal target
  | .unknownKind relocation kind =>
      "relocation " ++ toString relocation ++ ": unknown kind " ++ toString kind
  | .bytesAfterName relocation =>
      "relocation " ++ toString relocation ++ ": non-zero bytes after the name"
  | .nameNotText relocation => "relocation " ++ toString relocation ++ ": name is not UTF-8"
  | .noSuchRecord relocation record =>
      "relocation " ++ toString relocation ++ ": no record " ++ toString record
  | .wrongTableLength record declared relocation found =>
      "TD[" ++ toString record ++ "] declares " ++ toString declared ++
        " LUT entries, relocation " ++ toString relocation ++ " holds " ++ toString found

end Container
end TileProgram
