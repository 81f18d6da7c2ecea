import TileProgram.Binary.Half
import TileProgram.Register.Error

/-!
# Activations

An activation is a selector and two scalar parameters.  The selector is stored
as one of 32 codes; the last one stands for a lookup table.
-/

namespace TileProgram
namespace Activation

/-- The function that the engine applies to each result. -/
inductive Kind where
  | identity
  | relu
  | relu6
  | leakyRelu
  | clamp
  | sigmoid
  | tanh
  | hardSigmoid
  | hardSwish
  | elu
  | selu
  | gelu
  | silu
  | mish
  | softplus
  | softsign
  | exp
  | log
  | sqrt
  | rsqrt
  | reciprocal
  | square
  | abs
  | sign
  | floor
  | ceil
  | round
  | sin
  | cos
  | erf
  | threshold
  | lut
  deriving DecidableEq, Inhabited

namespace Kind

/-- All selectors, by increasing code. -/
def all : List Kind :=
  [.identity, .relu, .relu6, .leakyRelu, .clamp, .sigmoid, .tanh, .hardSigmoid,
   .hardSwish, .elu, .selu, .gelu, .silu, .mish, .softplus, .softsign,
   .exp, .log, .sqrt, .rsqrt, .reciprocal, .square, .abs, .sign,
   .floor, .ceil, .round, .sin, .cos, .erf, .threshold, .lut]

/-- The code of a selector. -/
def code : Kind → Nat
  | .identity => 0
  | .relu => 1
  | .relu6 => 2
  | .leakyRelu => 3
  | .clamp => 4
  | .sigmoid => 5
  | .tanh => 6
  | .hardSigmoid => 7
  | .hardSwish => 8
  | .elu => 9
  | .selu => 10
  | .gelu => 11
  | .silu => 12
  | .mish => 13
  | .softplus => 14
  | .softsign => 15
  | .exp => 16
  | .log => 17
  | .sqrt => 18
  | .rsqrt => 19
  | .reciprocal => 20
  | .square => 21
  | .abs => 22
  | .sign => 23
  | .floor => 24
  | .ceil => 25
  | .round => 26
  | .sin => 27
  | .cos => 28
  | .erf => 29
  | .threshold => 30
  | .lut => 31

/-- The selector of a code. -/
def ofCode? (code : Nat) : Option Kind :=
  all[code]?

/-- The name of a selector. -/
def name : Kind → String
  | .identity => "none"
  | .relu => "relu"
  | .relu6 => "relu6"
  | .leakyRelu => "leaky_relu"
  | .clamp => "clamp"
  | .sigmoid => "sigmoid"
  | .tanh => "tanh"
  | .hardSigmoid => "hard_sigmoid"
  | .hardSwish => "hard_swish"
  | .elu => "elu"
  | .selu => "selu"
  | .gelu => "gelu"
  | .silu => "silu"
  | .mish => "mish"
  | .softplus => "softplus"
  | .softsign => "softsign"
  | .exp => "exp"
  | .log => "log"
  | .sqrt => "sqrt"
  | .rsqrt => "rsqrt"
  | .reciprocal => "reciprocal"
  | .square => "square"
  | .abs => "abs"
  | .sign => "sign"
  | .floor => "floor"
  | .ceil => "ceil"
  | .round => "round"
  | .sin => "sin"
  | .cos => "cos"
  | .erf => "erf"
  | .threshold => "threshold"
  | .lut => "lut"

/-- The selector of a name. -/
def ofName? (text : String) : Option Kind :=
  all.find? fun kind => kind.name == text

/-- Only the selector of custom tables needs a table. -/
def needsTable (kind : Kind) : Bool :=
  kind == .lut

/-- The selector of a code, or an error that shows the code. -/
def ofCode (code : Nat) : Except Register.Error Kind :=
  match ofCode? code with
  | some kind => .ok kind
  | none => .error (.unknownActivation code)

@[simp] theorem ofCode?_code (kind : Kind) : ofCode? kind.code = some kind := by
  cases kind <;> rfl

end Kind
end Activation

/-- An activation with its parameters. -/
structure Activation where
  kind : Activation.Kind
  first : Binary.Single
  second : Binary.Single
  deriving DecidableEq

namespace Activation

/-- An activation without parameters. -/
def ofKind (kind : Kind) : Activation :=
  ⟨kind, .zero, .zero⟩

/-- The identity. -/
def none : Activation :=
  ofKind .identity

/-- A linear function that is scaled below zero. -/
def leakyRelu (slope : Binary.Single) : Activation :=
  ⟨.leakyRelu, slope, .zero⟩

/-- A restriction to an interval. -/
def clamp (least greatest : Binary.Single) : Activation :=
  ⟨.clamp, least, greatest⟩

/-- Whether an activation is the identity. -/
def isNone (activation : Activation) : Bool :=
  activation.kind == .identity

/-- Numeric equality. -/
def equal (left right : Activation) : Bool :=
  left.kind == right.kind && left.first.equal right.first && left.second.equal right.second

end Activation
end TileProgram

/-!
## Lookup tables

The payload of a custom activation: a list of half precision samples.
-/

namespace TileProgram

/-- The samples of a custom activation. -/
structure LookupTable where
  samples : List Binary.Half
  deriving DecidableEq, Inhabited

namespace LookupTable

/-- The most entries that a record can announce. -/
def greatestLength : Nat := 1023

/-- The table of single precision samples, each rounded to half precision. -/
def ofSingles (samples : List Binary.Single) : LookupTable :=
  ⟨samples.map Binary.Single.toHalf⟩

/-- The table of a byte string; an odd last byte is ignored. -/
def ofBytes (bytes : Bytes) : LookupTable :=
  ⟨Binary.Half.listOfBytes bytes⟩

/-- The bytes of a table. -/
def toBytes (table : LookupTable) : Bytes :=
  Binary.Half.listToBytes table.samples

/-- The number of entries. -/
def length (table : LookupTable) : Nat :=
  table.samples.length

/-- Numeric equality, entry by entry. -/
def equal (left right : LookupTable) : Bool :=
  Binary.Half.listEqual left.samples right.samples

end LookupTable
end TileProgram
