import TileProgram.Decimal.Shortest

/-!
# JSON documents

A document is kept as it is written: a number is its digits, an object is the
list of its members in order, with repetitions.  A text is missing where an
escape names half of a surrogate pair, which is well formed but stands for no
character.
-/

namespace TileProgram
namespace Json

open Decimal

/-- A number as written; the flag of the exponent says whether it is negative. -/
structure Numeral where
  isNegative : Bool
  whole : List Digit
  fraction : Option (List Digit)
  exponent : Option (Bool × List Digit)
  deriving DecidableEq

/-- The text between quotation marks, if it stands for characters. -/
abbrev Quoted := Option String

/-- A JSON document. -/
inductive Value where
  | null
  | truth (value : Bool)
  | number (numeral : Numeral)
  | text (quoted : Quoted)
  | array (items : List Value)
  | object (members : List (Quoted × Value))

namespace Numeral

/-- The numeral of an integer. -/
def ofInt (value : Int) : Numeral :=
  ⟨value < 0, digitsOf value.natAbs, none, none⟩

/-- The integer that a numeral denotes: it has neither fraction nor exponent and is not a negative zero. -/
def toInt? (numeral : Numeral) : Option Int :=
  match numeral.fraction, numeral.exponent with
  | none, none =>
      let value := valueOf numeral.whole
      if numeral.isNegative then
        if value = 0 then none else some (-(value : Int))
      else some value
  | _, _ => none

end Numeral

namespace Value

/-- A text that stands for characters. -/
def ofText (text : String) : Value :=
  .text (some text)

/-- An integer. -/
def ofInt (value : Int) : Value :=
  .number (Numeral.ofInt value)

/-- A natural number. -/
def ofNat (value : Nat) : Value :=
  ofInt value

/-- An object with the given keys and values. -/
def ofMembers (members : List (String × Value)) : Value :=
  .object (members.map fun member => (some member.1, member.2))

mutual

/-- How many arrays and objects are nested in a document. -/
def depth : Value → Nat
  | .array items => depthOfItems items + 1
  | .object members => depthOfMembers members + 1
  | _ => 0

/-- The greatest depth of a list of documents. -/
def depthOfItems : List Value → Nat
  | [] => 0
  | item :: rest => max item.depth (depthOfItems rest)

/-- The greatest depth of the values of a list of members. -/
def depthOfMembers : List (Quoted × Value) → Nat
  | [] => 0
  | (_, value) :: rest => max value.depth (depthOfMembers rest)

end

end Value
end Json
end TileProgram
