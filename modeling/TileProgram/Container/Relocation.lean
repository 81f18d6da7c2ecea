import TileProgram.ProgramError
import TileProgram.Text.Utf8

/-!
# Relocations

A container lists the surfaces that a program shares with its caller and the
blobs of its data section.  Each entry has 64 bytes: kind, record, offset,
size, and a name of at most 40 bytes filled up with zeros.
-/

namespace TileProgram
namespace Container

/-- What a relocation refers to. -/
inductive RelocationKind where
  | weight
  | surface
  | lookupTable
  deriving DecidableEq

namespace RelocationKind

/-- The code of a kind. -/
def code : RelocationKind → Nat
  | .weight => 1
  | .surface => 2
  | .lookupTable => 3

/-- All kinds, by increasing code. -/
def all : List RelocationKind := [.weight, .surface, .lookupTable]

/-- The kind of a code. -/
def ofCode? (code : Nat) : Option RelocationKind :=
  all.find? fun kind => kind.code == code

/-- The name of a kind. -/
def name : RelocationKind → String
  | .weight => "Weight"
  | .surface => "Surface"
  | .lookupTable => "Lut"

@[simp] theorem ofCode?_code (kind : RelocationKind) : ofCode? kind.code = some kind := by
  cases kind <;> rfl

end RelocationKind

/-- A surface in device memory or a blob in the data section, with its name. -/
structure Relocation where
  kind : RelocationKind
  record : UInt32
  offset : UInt64
  size : UInt64
  name : String
  deriving DecidableEq

namespace Relocation

/-- The bytes of an entry. -/
def entrySize : Nat := 0x40

/-- The longest name in bytes. -/
def nameSize : Nat := 40

/-- The record of an entry that belongs to the whole program. -/
def wholeProgram : UInt32 := 0xFFFFFFFF

/-- A surface shared with the caller. -/
def ofSurface (name : String) (address size : Nat) : Relocation :=
  ⟨.surface, wholeProgram, UInt64.ofNat address, UInt64.ofNat size, name⟩

/-- A blob of a record. -/
def ofBlob (kind : RelocationKind) (record : Nat) (name : String) (data : ChannelData) :
    Relocation :=
  ⟨kind, UInt32.ofNat record, UInt64.ofNat data.offset.toNat, UInt64.ofNat data.length.toNat, name⟩

/-- Whether a name fits into an entry. -/
def nameFits (name : String) : Bool :=
  (Utf8.encode name).length ≤ nameSize && !name.toList.contains '\x00'

/-- The bytes of a relocation whose name fits. -/
def toBytes (relocation : Relocation) : Bytes :=
  Bytes.ofNat 4 relocation.kind.code ++ Bytes.ofNat 4 relocation.record.toNat ++
    Bytes.ofNat 8 relocation.offset.toNat ++ Bytes.ofNat 8 relocation.size.toNat ++
    Bytes.resize (Utf8.encode relocation.name) nameSize

/-- Reads the entry with a given index from its bytes. -/
def ofBytes (index : Nat) (bytes : Bytes) : Except ProgramError Relocation :=
  let code := Bytes.toNat (Bytes.slice bytes 0 4)
  match RelocationKind.ofCode? code with
  | none => .error (.invalidContainer (.unknownKind index code))
  | some kind =>
      let name := Bytes.slice bytes 0x18 nameSize
      let text := name.takeWhile (· != 0)
      if !Bytes.isClear (name.drop text.length) then
        .error (.invalidContainer (.bytesAfterName index))
      else match Utf8.decode text with
        | .error _ => .error (.invalidContainer (.nameNotText index))
        | .ok name =>
            .ok
              { kind := kind
                record := UInt32.ofNat (Bytes.toNat (Bytes.slice bytes 4 4))
                offset := UInt64.ofNat (Bytes.toNat (Bytes.slice bytes 8 8))
                size := UInt64.ofNat (Bytes.toNat (Bytes.slice bytes 0x10 8))
                name := name }

/-- The number after a given word that makes up the rest of a name; it may have a plus sign and must fit 64 bits. -/
def numberAfter? (word : String) (name : String) : Option Nat :=
  if word.toList.isPrefixOf name.toList then
    let rest := name.toList.drop word.length
    let digits := if rest.head? == some '+' then rest.tail else rest
    match digits.mapM Decimal.Digit.ofChar? with
    | none => none
    | some [] => none
    | some digits =>
        let value := Decimal.valueOf digits
        if value < UInt64.size then some value else none
  else none

end Relocation
end Container
end TileProgram
