import TileProgram.Bytes.LittleEndian

/-!
# Consecutive slices

A byte string is the concatenation of its consecutive slices.  The central
statement is `slice_add_eq_append`: a slice is a concatenation exactly when its
first part and its second part are the two strings.  Layouts are checked part
by part with it, in both directions.
-/

namespace TileProgram
namespace Bytes

@[simp] theorem length_zeros (count : Nat) : (zeros count).length = count :=
  List.length_replicate

@[simp] theorem length_resize (bytes : Bytes) (length : Nat) :
    (bytes.resize length).length = length := by
  rw [resize, List.length_append, List.length_take, length_zeros]
  omega

/-- A string that fits is padded with zeros. -/
theorem resize_eq {bytes : Bytes} {length : Nat} (fits : bytes.length ≤ length) :
    bytes.resize length = bytes ++ zeros (length - bytes.length) := by
  rw [resize, List.take_of_length_le fits]

/-- A slice that lies inside the string has the length that was asked for. -/
theorem length_slice
    {bytes : Bytes}
    {offset length : Nat}
    (inside : offset + length ≤ bytes.length) :
    (bytes.slice offset length).length = length := by
  unfold slice
  rw [List.length_take, List.length_drop]
  omega

@[simp] theorem slice_zero_right (bytes : Bytes) (offset : Nat) :
    bytes.slice offset 0 = [] := List.take_zero

/-- The slice of the whole string. -/
@[simp] theorem slice_all (bytes : Bytes) : bytes.slice 0 bytes.length = bytes := by
  unfold slice
  rw [List.drop_zero, List.take_length]

/-- Two slices that follow each other make one slice. -/
theorem slice_append_slice (bytes : Bytes) (offset first second : Nat) :
    bytes.slice offset first ++ bytes.slice (offset + first) second =
      bytes.slice offset (first + second) := by
  unfold slice
  rw [List.take_add, List.drop_drop]

/-- A slice is a concatenation exactly when its two parts are the two strings. -/
theorem slice_add_eq_append
    {bytes left right : Bytes}
    {offset first second : Nat}
    (lengthLeft : left.length = first) :
    bytes.slice offset (first + second) = left ++ right ↔
      bytes.slice offset first = left ∧ bytes.slice (offset + first) second = right := by
  rw [← slice_append_slice]
  constructor
  · intro equal
    have whole : first ≤
        (bytes.slice offset first ++ bytes.slice (offset + first) second).length := by
      rw [equal, List.length_append]
      omega
    have lengthFirst : (bytes.slice offset first).length = left.length := by
      unfold slice at whole ⊢
      simp only [List.length_append, List.length_take, List.length_drop] at whole ⊢
      omega
    exact List.append_inj equal lengthFirst
  · rintro ⟨firstEq, secondEq⟩
    rw [firstEq, secondEq]

/-- A slice of the first string is not changed by what is appended. -/
theorem slice_append_of_le
    {bytes : Bytes}
    {offset length : Nat}
    (inside : offset + length ≤ bytes.length)
    (rest : Bytes) :
    slice (bytes ++ rest) offset length = bytes.slice offset length := by
  unfold slice
  rw [List.drop_append_of_le_length (by omega),
    List.take_append_of_le_length (by rw [List.length_drop]; omega)]

/-- What is appended is found behind the first string. -/
theorem slice_append_right (bytes rest : Bytes) :
    slice (bytes ++ rest) bytes.length rest.length = rest := by
  unfold slice
  rw [List.drop_left, List.take_length]

/-- A string that lies inside a slice of its own length lies inside the whole. -/
theorem le_length_of_slice_eq
    {bytes part : Bytes}
    {offset length : Nat}
    (equal : bytes.slice offset length = part)
    (lengthPart : part.length = length)
    (positive : 0 < length) :
    offset + length ≤ bytes.length := by
  have lengths := congrArg List.length equal
  unfold slice at lengths
  rw [List.length_take, List.length_drop, lengthPart] at lengths
  omega

/-- The bytes of a slice are those of the number it stands for. -/
theorem ofNat_toNat_slice
    {bytes : Bytes}
    {offset length : Nat}
    (inside : offset + length ≤ bytes.length) :
    ofNat length (toNat (bytes.slice offset length)) = bytes.slice offset length := by
  have whole := ofNat_toNat (bytes.slice offset length)
  rwa [length_slice inside] at whole

/-- A slice stands for a number that fits the length that was asked for. -/
theorem toNat_slice_lt (bytes : Bytes) (offset length : Nat) :
    toNat (bytes.slice offset length) < capacity length := by
  have short : (bytes.slice offset length).length ≤ length := by
    unfold slice
    rw [List.length_take]
    omega
  exact Nat.lt_of_lt_of_le (toNat_lt _) (Nat.pow_le_pow_right (by decide) short)

/-- A slice holds the bytes of a number that fits exactly when it stands for
that number. -/
theorem slice_eq_ofNat_iff
    {bytes : Bytes}
    {offset length value : Nat}
    (inside : offset + length ≤ bytes.length)
    (fits : value < capacity length) :
    bytes.slice offset length = ofNat length value ↔
      toNat (bytes.slice offset length) = value := by
  constructor
  · intro equal
    rw [equal, toNat_ofNat_of_lt fits]
  · intro equal
    rw [← equal, ofNat_toNat_slice inside]

/-- A string is clear exactly when it is a string of zeros. -/
theorem isClear_iff (bytes : Bytes) : bytes.isClear = true ↔ bytes = zeros bytes.length := by
  simp [isClear, zeros, List.eq_replicate_iff]

/-- Nothing but zeros is found where every byte is zero. -/
theorem findIdx?_ne_zero_eq_none (bytes : Bytes) :
    bytes.findIdx? (· != 0) = none ↔ bytes = zeros bytes.length := by
  simp [zeros, List.eq_replicate_iff, List.findIdx?_eq_none_iff]

end Bytes
end TileProgram
