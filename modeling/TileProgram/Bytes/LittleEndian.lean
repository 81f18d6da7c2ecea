/-!
# Byte strings and little-endian numbers

A byte string is a list of bytes.  Besides cutting, padding and overwriting,
this module fixes how a number is laid out in a given count of bytes, least
significant byte first, and how such bytes are read back.
-/

namespace TileProgram

/-- A finite string of bytes. -/
abbrev Bytes := List UInt8

namespace Bytes

/-- A string of zero bytes. -/
def zeros (count : Nat) : Bytes :=
  List.replicate count 0

/-- The bytes from an offset on, at most a given number of them. -/
def slice (bytes : Bytes) (offset length : Nat) : Bytes :=
  (bytes.drop offset).take length

/-- Cuts a string to a length, or pads it with zeros up to that length. -/
def resize (bytes : Bytes) (length : Nat) : Bytes :=
  bytes.take length ++ zeros (length - bytes.length)

/-- Replaces the bytes at an offset by a patch that lies inside the string. -/
def overwrite (bytes : Bytes) (offset : Nat) (patch : Bytes) : Bytes :=
  bytes.take offset ++ patch ++ bytes.drop (offset + patch.length)

/-- A string is clear when all its bytes are zero. -/
def isClear (bytes : Bytes) : Bool :=
  bytes.all (· == 0)

/-- The given number of little-endian bytes of a number; higher bits are dropped. -/
def ofNat : Nat → Nat → Bytes
  | 0, _ => []
  | count + 1, value => UInt8.ofNat value :: ofNat count (value / 256)

/-- How many numbers a given count of bytes can hold. -/
def capacity (count : Nat) : Nat :=
  Nat.pow 256 count

/-- The number that a little-endian byte string stands for. -/
def toNat : Bytes → Nat
  | [] => 0
  | byte :: rest => byte.toNat + 256 * toNat rest

@[simp] theorem ofNat_zero (value : Nat) : ofNat 0 value = [] := rfl

@[simp] theorem ofNat_succ (count value : Nat) :
    ofNat (count + 1) value = UInt8.ofNat value :: ofNat count (value / 256) := rfl

@[simp] theorem capacity_zero : capacity 0 = 1 := rfl

theorem capacity_succ (count : Nat) : capacity (count + 1) = 256 * capacity count :=
  Nat.mul_comm _ _

@[simp] theorem toNat_nil : toNat [] = 0 := rfl

@[simp] theorem toNat_cons (byte : UInt8) (rest : Bytes) :
    toNat (byte :: rest) = byte.toNat + 256 * toNat rest := rfl

@[simp] theorem length_ofNat (count value : Nat) : (ofNat count value).length = count := by
  induction count generalizing value with
  | zero => rfl
  | succ count ih => simp [ih]

/-- Reading back gives the number reduced to the bits that fit. -/
theorem toNat_ofNat (count value : Nat) :
    toNat (ofNat count value) = value % capacity count := by
  induction count generalizing value with
  | zero => simp [Nat.mod_one]
  | succ count ih =>
      have low : (UInt8.ofNat value).toNat = value % 256 := by simp
      rw [ofNat_succ, toNat_cons, ih, low, capacity_succ, Nat.mod_mul]

/-- A number that fits is read back unchanged. -/
theorem toNat_ofNat_of_lt {count value : Nat} (fits : value < capacity count) :
    toNat (ofNat count value) = value := by
  rw [toNat_ofNat, Nat.mod_eq_of_lt fits]

/-- A string of some length stands for a number that fits in that length. -/
theorem toNat_lt (bytes : Bytes) : toNat bytes < capacity bytes.length := by
  induction bytes with
  | nil => simp
  | cons byte rest ih =>
      have bound : byte.toNat < 256 := byte.toNat_lt
      rw [toNat_cons, List.length_cons, capacity_succ]
      omega

/-- Writing the number that a string stands for gives the string again. -/
theorem ofNat_toNat (bytes : Bytes) : ofNat bytes.length (toNat bytes) = bytes := by
  induction bytes with
  | nil => rfl
  | cons byte rest ih =>
      have bound : byte.toNat < 256 := byte.toNat_lt
      have head : UInt8.ofNat (byte.toNat + 256 * toNat rest) = byte := by
        apply UInt8.toNat_inj.mp
        simp only [UInt8.toNat_ofNat']
        omega
      have tail : (byte.toNat + 256 * toNat rest) / 256 = toNat rest := by omega
      rw [List.length_cons, ofNat_succ, toNat_cons, head, tail, ih]

end Bytes
end TileProgram
