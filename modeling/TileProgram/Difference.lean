import TileProgram.Container.Basic

/-!
# Differences between programs

Records are compared position by position and register by register.  A record
that only one side has is compared with an absent one, against which every
register that is not zero counts.
-/

namespace TileProgram

open Register

/-- A register whose values differ between two records at one position; a value is missing where there is no record. -/
structure Difference where
  record : Nat
  field : Field
  left : Option Nat
  right : Option Nat
  deriving DecidableEq

namespace Difference

/-- The same difference seen from the other side. -/
def swap (difference : Difference) : Difference :=
  { difference with left := difference.right, right := difference.left }

/-- Two values of a register count as different; zero counts as absent against nothing. -/
def differs : Option Nat → Option Nat → Bool
  | some left, some right => left != right
  | some value, none => value != 0
  | none, some value => value != 0
  | none, none => false

/-- The differences of the registers of a table between two records, either of which may be missing. -/
def ofFields (record : Nat) (left right : Option Descriptor) (fields : List Field) :
    List Difference :=
  fields.filterMap fun field =>
    let value (descriptor : Descriptor) : Nat := field.unsigned descriptor.bits
    if !field.isAlias && differs (left.map value) (right.map value) then
      some ⟨record, field, left.map value, right.map value⟩
    else none

/-- The differences between two records, by the table of the first one that is there. -/
def ofRecords (record : Nat) (left right : Option Descriptor) : List Difference :=
  match left.or right with
  | none => []
  | some descriptor => ofFields record left right descriptor.table.fields

/-- The differences of two lists of records from a given position on. -/
def ofLists (record : Nat) : List Descriptor → List Descriptor → List Difference
  | [], [] => []
  | left :: lefts, [] => ofRecords record (some left) none ++ ofLists (record + 1) lefts []
  | [], right :: rights => ofRecords record none (some right) ++ ofLists (record + 1) [] rights
  | left :: lefts, right :: rights =>
      ofRecords record (some left) (some right) ++ ofLists (record + 1) lefts rights

/-- The differences between two programs. -/
def ofContainers (left right : Container) : List Difference :=
  ofLists 0 left.descriptors right.descriptors

/-- The signed number that a value of a given width stands for: its last bit is carried up through a word, by a shift to the end of the word and an arithmetic shift back. -/
def signedValue (width value : Nat) : Int :=
  let word := BitVec.ofNat Field.greatestWidth value
  let distance := Field.greatestWidth - width
  if width < Field.greatestWidth then ((word <<< distance).sshiftRight distance).toInt
  else word.toInt

/-- The value of a register as text: signed registers in decimal, others in decimal up to 65535 and in base sixteen above. -/
def valueText (field : Field) (value : Nat) : String :=
  if field.isSigned then toString (signedValue field.width value)
  else if value > 0xFFFF then Text.hexadecimal value
  else toString value

/-- The value of a side as text, a dash where there is no record. -/
def sideText (field : Field) : Option Nat → String
  | none => "-"
  | some value => valueText field value

/-- The text of a difference. -/
def text (difference : Difference) : String :=
  "TD[" ++ toString difference.record ++ "] " ++ difference.field.name.text ++ ": " ++
    sideText difference.field difference.left ++ " vs " ++
    sideText difference.field difference.right

end Difference
end TileProgram
