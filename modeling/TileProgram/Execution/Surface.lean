import TileProgram.Binary.Half

/-!
# Surfaces in memory

A surface is a numbered byte string.  Numbers are given out when a surface is
submitted; until then it has number zero.
-/

namespace TileProgram
namespace Execution

/-- A byte string that is shared with a device. -/
structure Surface where
  id : UInt64
  bytes : Bytes
  deriving DecidableEq

namespace Surface

/-- A surface that has not been submitted. -/
def ofBytes (bytes : Bytes) : Surface :=
  ⟨0, bytes⟩

/-- A surface of zero bytes. -/
def zeroed (size : Nat) : Surface :=
  ofBytes (Bytes.zeros size)

/-- A surface that holds numbers rounded to half precision. -/
def ofSingles (numbers : List Binary.Single) : Surface :=
  ofBytes (Binary.Half.listToBytes (numbers.map Binary.Single.toHalf))

/-- The contents read as half precision numbers; an odd last byte is ignored. -/
def toSingles (surface : Surface) : List Binary.Single :=
  (Binary.Half.listOfBytes surface.bytes).map Binary.Half.toSingle

/-- The size in bytes. -/
def size (surface : Surface) : Nat :=
  surface.bytes.length

/-- The contents of several surfaces one after the other. -/
def concat (surfaces : List Surface) : Bytes :=
  surfaces.flatMap Surface.bytes

/-- Numbers surfaces from a given number on. -/
def numberFrom (first : UInt64) : List Surface → List Surface
  | [] => []
  | surface :: rest => { surface with id := first } :: numberFrom (first + 1) rest

@[simp] theorem numberFrom_nil (first : UInt64) : numberFrom first [] = [] := rfl

@[simp] theorem numberFrom_cons (first : UInt64) (surface : Surface) (rest : List Surface) :
    numberFrom first (surface :: rest) =
      { surface with id := first } :: numberFrom (first + 1) rest := rfl

@[simp] theorem length_numberFrom (first : UInt64) (surfaces : List Surface) :
    (numberFrom first surfaces).length = surfaces.length := by
  induction surfaces generalizing first with
  | nil => rfl
  | cons surface rest ih => simp [ih]

@[simp] theorem size_zeroed (count : Nat) : (zeroed count).size = count := by
  simp [size, zeroed, ofBytes, Bytes.zeros]

/-- Numbering changes no contents. -/
theorem map_bytes_numberFrom (first : UInt64) (surfaces : List Surface) :
    (numberFrom first surfaces).map Surface.bytes = surfaces.map Surface.bytes := by
  induction surfaces generalizing first with
  | nil => rfl
  | cons surface rest ih => simp [ih]

end Surface
end Execution
end TileProgram
