import TileProgram.Json.Decode
import TileProgram.Json.Reader
import TileProgram.Register.Table

/-!
# Register tables as JSON

A table is an array of entries, each with a qualified name, a byte offset of 16
bits, a bit offset and a width of 8 bits, and two flags that are false when
they are missing.
-/

namespace TileProgram
namespace Register

open Json

/-- An entry before its name has been taken apart. -/
structure Entry where
  text : String
  byteOffset : Nat
  bitOffset : Nat
  width : Nat
  isSigned : Bool
  isAlias : Bool
  deriving DecidableEq

namespace Entry

/-- Reads an entry. -/
def decode : Decoder Entry := fun value => do
  let entries ← Decoder.entries
    ["name", "byte_offset", "bit_offset", "width", "signed", "alias"] value
  return {
    text := ← Decoder.required entries "name" Decoder.text
    byteOffset := ← Decoder.required entries "byte_offset" (Decoder.natural 16)
    bitOffset := ← Decoder.required entries "bit_offset" (Decoder.natural 8)
    width := ← Decoder.required entries "width" (Decoder.natural 8)
    isSigned := ← Decoder.withDefault entries "signed" false Decoder.truth
    isAlias := ← Decoder.withDefault entries "alias" false Decoder.truth }

/-- The register of an entry. -/
def toField (entry : Entry) : Except Error Field :=
  match Name.splitAtPoint? entry.text with
  | none => .error (.invalidTable (.missingRegion entry.text))
  | some (before, label) =>
      match Region.ofName? before with
      | none => .error (.invalidTable (.unknownRegion entry.text before))
      | some region =>
          .ok ⟨⟨region, label⟩, entry.byteOffset, entry.bitOffset, entry.width,
            entry.isSigned, entry.isAlias⟩

end Entry

/-- The table that a JSON text describes. -/
def Table.ofJson (text : String) : Except Error Table :=
  match (Json.read text).bind (Decoder.list Entry.decode) with
  | none => .error (.invalidTable .malformed)
  | some entries => do Table.ofFields (← entries.mapM Entry.toField)

end Register
end TileProgram
