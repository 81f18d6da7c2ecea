import TileProgram.Json.Measure

/-!
# Data from documents

Decoders take documents apart.  A document whose tag is not known yet is kept whole.
-/

/-!
## From documents to data

A decoder takes a document and gives a value or nothing.  A record is read from
an object, where keys it does not have are skipped and its own keys may occur
once, or from an array of its fields in order.
-/

namespace TileProgram
namespace Json

/-- A reading of documents as values of a type. -/
abbrev Decoder (α : Type) := Value → Option α

namespace Decoder

/-- An integer within inclusive bounds. -/
def integer (least greatest : Int) : Decoder Int
  | .number numeral => numeral.toInt?.filter fun value => least ≤ value ∧ value ≤ greatest
  | _ => none

/-- An unsigned integer of a given number of bits. -/
def natural (bits : Nat) : Decoder Nat :=
  fun value => (integer 0 (Nat.pow 2 bits - 1 : Nat) value).map Int.toNat

/-- An unsigned integer of 32 bits. -/
def word : Decoder UInt32 :=
  fun value => (natural 32 value).map UInt32.ofNat

/-- A signed integer of 32 bits. -/
def signedWord : Decoder Int32 :=
  fun value => (integer (-0x80000000) 0x7FFFFFFF value).map Int32.ofInt

/-- A number, rounded to single precision. -/
def single : Decoder Binary.Single
  | .number numeral => numeral.single?
  | _ => none

/-- A truth value. -/
def truth : Decoder Bool
  | .truth value => some value
  | _ => none

/-- A text that stands for characters. -/
def text : Decoder String
  | .text quoted => quoted
  | _ => none

/-- An array of any length. -/
def list (decoder : Decoder α) : Decoder (List α)
  | .array items => items.mapM decoder
  | _ => none

/-- An array of two items. -/
def pair (decoder : Decoder α) : Decoder (α × α)
  | .array [first, second] => do return (← decoder first, ← decoder second)
  | _ => none

/-- A value that may be `null`. -/
def optional (decoder : Decoder α) : Decoder (Option α)
  | .null => some none
  | value => (decoder value).map some

/-- One of a list of named values, written as its name or as an object that maps the name to a unit. -/
def named (isUnit : Value → Bool) (name : α → String) (all : List α) : Decoder α
  | .text (some text) => all.find? fun value => name value == text
  | .object [(some text, unit)] =>
      if isUnit unit then all.find? fun value => name value == text else none
  | _ => none

/-- The unit of a named value is `null`. -/
def isNull : Value → Bool
  | .null => true
  | _ => false

/-- Inside a tagged value the unit may also be an empty object. -/
def isNullOrEmpty : Value → Bool
  | .null => true
  | .object [] => true
  | _ => false

/-- The values of a record's keys. -/
abbrev Entries := List (String × Value)

/-- The members of an object that a record has, or nothing if one is repeated or a key stands for no text. -/
def knownMembers (keys : List String) : List (Quoted × Value) → Option Entries
  | [] => some []
  | (none, _) :: _ => none
  | (some key, value) :: rest => do
      let others ← knownMembers keys rest
      if keys.contains key then
        if others.any fun entry => entry.1 == key then none else some ((key, value) :: others)
      else some others

/-- The entries of a record with given keys. -/
def entries (keys : List String) : Decoder Entries
  | .object members => knownMembers keys members
  | .array items => if items.length ≤ keys.length then some (keys.zip items) else none
  | _ => none

/-- A key that must be there. -/
def required (entries : Entries) (key : String) (decoder : Decoder α) : Option α :=
  (entries.lookup key).bind decoder

/-- A key with a value of its own when it is missing. -/
def withDefault (entries : Entries) (key : String) (standard : α) (decoder : Decoder α) : Option α :=
  match entries.lookup key with
  | none => some standard
  | some value => decoder value

end Decoder
end Json
end TileProgram

/-!
## Documents that can be kept whole

A value whose tag may stand anywhere has to be kept before it is understood.
That is possible for a document whose numbers are finite, whose texts stand for
characters, and which is not nested too deeply.
-/

namespace TileProgram
namespace Json

/-- The most arrays and objects that may be open at once. -/
def greatestDepth : Nat := 127

namespace Value

mutual

/-- Whether all numbers are finite and all texts stand for characters. -/
def isPlain : Value → Bool
  | .number numeral => numeral.isFinite
  | .text quoted => quoted.isSome
  | .array items => itemsArePlain items
  | .object members => membersArePlain members
  | _ => true

/-- Whether all documents of a list are plain. -/
def itemsArePlain : List Value → Bool
  | [] => true
  | item :: rest => item.isPlain && itemsArePlain rest

/-- Whether all keys and values of a list of members are plain. -/
def membersArePlain : List (Quoted × Value) → Bool
  | [] => true
  | (key, value) :: rest => key.isSome && value.isPlain && membersArePlain rest

end

/-- Whether a document can be kept whole inside a given number of open arrays and objects. -/
def canBeKept (outer : Nat) (value : Value) : Bool :=
  value.isPlain && outer + value.depth ≤ greatestDepth

end Value
end Json
end TileProgram
