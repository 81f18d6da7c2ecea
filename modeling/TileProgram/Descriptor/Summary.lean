import TileProgram.Descriptor.Accessors

/-!
# One-line summaries of descriptors
-/

namespace TileProgram
namespace Descriptor

/-- A value that may be missing, as `Some(value)` or `None`. -/
def optionText (value : Option Nat) : String :=
  match value with
  | none => "None"
  | some number => "Some(" ++ toString number ++ ")"

/-- The task number, the next position, the count of registers in use and the length of the lookup table. -/
def summary (descriptor : Descriptor) : String :=
  let task := (descriptor.get Registers.taskId).toOption
  let next := descriptor.next.toOption.getD chainEnd
  "TileDescriptor \x7b tid: " ++ optionText task ++ ", next: " ++ Text.hexadecimal next ++
    ", nonzero_fields: " ++ toString descriptor.fields.length ++ ", lut: " ++
    optionText (descriptor.lookup.map LookupTable.length) ++ ", .. \x7d"

end Descriptor
end TileProgram
