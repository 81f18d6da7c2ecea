import Mathlib.Tactic.SplitIfs
import TileProgram.Text.Utf8

/-!
# UTF-8 round trips

Reading gives back every text that is written, and writing gives back every
byte string that is read.  Both follow from the same fact about one character:
`next` takes a point and a count off a byte string exactly when the string
begins with the bytes of that point.
-/

namespace TileProgram
namespace Utf8

/-- The byte of a number below 256 stands for that number. -/
private theorem toNat_byte {value : Nat} (small : value < 256) :
    (UInt8.ofNat value).toNat = value :=
  UInt8.toNat_ofNat_of_lt' small

/-- A byte is that of its number. -/
private theorem byte_eq (byte : UInt8) {value : Nat} (equal : byte.toNat = value) :
    UInt8.ofNat value = byte := by
  rw [← equal, UInt8.ofNat_toNat]

/-- A character is read off the bytes of its point, whatever follows them. -/
theorem next_encodePoint
    {point : Nat}
    (valid : point.isValidChar)
    (more : Bytes) :
    ∃ first tail,
      encodePoint point = first :: tail ∧
        next first (tail ++ more) = .ok (point, tail.length + 1) := by
  have bounds : point < 0xD800 ∨ 0xDFFF < point ∧ point < 0x110000 := valid
  unfold encodePoint
  split_ifs with one two three
  · refine ⟨_, _, rfl, ?_⟩
    rw [next, toNat_byte (by omega), if_pos one]
    rfl
  · have lead : lead? (0xC0 + point / 0x40) = some ⟨1, 0x80, 0xBF⟩ := by
      rw [lead?, if_pos (by omega)]
    refine ⟨_, _, rfl, ?_⟩
    simp only [next, toNat_byte (show 0xC0 + point / 0x40 < 256 by omega), lead,
      List.cons_append, List.nil_append,
      toNat_byte (show 0x80 + point % 0x40 < 256 by omega)]
    rw [if_neg (by omega), if_neg (by omega), if_pos trivial]
    exact congrArg (fun value => Except.ok (value, 2)) (by omega)
  · have lead : ∃ least greatest,
        lead? (0xE0 + point / 0x1000) = some ⟨2, least, greatest⟩ ∧
          least ≤ 0x80 + point / 0x40 % 0x40 ∧ 0x80 + point / 0x40 % 0x40 ≤ greatest := by
      unfold lead?
      split_ifs <;> first | omega | exact ⟨_, _, rfl, by omega, by omega⟩
    obtain ⟨least, greatest, lead, above, below⟩ := lead
    refine ⟨_, _, rfl, ?_⟩
    simp only [next, toNat_byte (show 0xE0 + point / 0x1000 < 256 by omega), lead,
      List.cons_append, List.nil_append, continues,
      toNat_byte (show 0x80 + point / 0x40 % 0x40 < 256 by omega),
      toNat_byte (show 0x80 + point % 0x40 < 256 by omega)]
    rw [if_neg (by omega), if_neg (by omega), if_neg (by decide), if_neg (by simp; omega),
      if_pos trivial]
    exact congrArg (fun value => Except.ok (value, 3)) (by omega)
  · have lead : ∃ least greatest,
        lead? (0xF0 + point / 0x40000) = some ⟨3, least, greatest⟩ ∧
          least ≤ 0x80 + point / 0x1000 % 0x40 ∧ 0x80 + point / 0x1000 % 0x40 ≤ greatest := by
      unfold lead?
      split_ifs <;> first | omega | exact ⟨_, _, rfl, by omega, by omega⟩
    obtain ⟨least, greatest, lead, above, below⟩ := lead
    refine ⟨_, _, rfl, ?_⟩
    simp only [next, toNat_byte (show 0xF0 + point / 0x40000 < 256 by omega), lead,
      List.cons_append, List.nil_append, continues,
      toNat_byte (show 0x80 + point / 0x1000 % 0x40 < 256 by omega),
      toNat_byte (show 0x80 + point / 0x40 % 0x40 < 256 by omega),
      toNat_byte (show 0x80 + point % 0x40 < 256 by omega)]
    rw [if_neg (by omega), if_neg (by omega), if_neg (by decide), if_neg (by simp; omega),
      if_neg (by decide), if_neg (by simp; omega)]
    exact congrArg (fun value => Except.ok (value, 4)) (by omega)

/-- The bounds that a first byte puts on the second one leave no longer form, no
surrogate and nothing above the last point. -/
private theorem lead?_eq_some
    {byte : Nat}
    {lead : Lead}
    (found : lead? byte = some lead) :
    0x80 ≤ lead.least ∧ lead.greatest ≤ 0xBF ∧
      (lead.following = 1 ∧ 0xC2 ≤ byte ∧ byte ≤ 0xDF ∨
        lead.following = 2 ∧ 0xE0 ≤ byte ∧ byte ≤ 0xEF ∧
          (byte ≠ 0xE0 ∨ 0xA0 ≤ lead.least) ∧ (byte ≠ 0xED ∨ lead.greatest ≤ 0x9F) ∨
        lead.following = 3 ∧ 0xF0 ≤ byte ∧ byte ≤ 0xF4 ∧
          (byte ≠ 0xF0 ∨ 0x90 ≤ lead.least) ∧ (byte ≠ 0xF4 ∨ lead.greatest ≤ 0x8F)) := by
  unfold lead? at found
  split_ifs at found <;> cases found <;> simp <;> omega

/-- The character of a point stands for that point. -/
private theorem toNat_character {point : Nat} (valid : point.isValidChar) :
    (Char.ofNat point).toNat = point := by
  rw [Char.ofNat, dif_pos valid]
  rfl

/-- Two bytes in their bounds are those of the point they stand for. -/
private theorem encodePoint_two
    (first second : UInt8)
    (lead : 0xC2 ≤ first.toNat ∧ first.toNat ≤ 0xDF)
    (fits : 0x80 ≤ second.toNat ∧ second.toNat ≤ 0xBF) :
    ((first.toNat - 0xC0) * 0x40 + (second.toNat - 0x80)).isValidChar ∧
      encodePoint ((first.toNat - 0xC0) * 0x40 + (second.toNat - 0x80)) = [first, second] := by
  refine ⟨Or.inl (by omega), ?_⟩
  rw [encodePoint, if_neg (by omega), if_pos (by omega), byte_eq first (by omega),
    byte_eq second (by omega)]

/-- Three bytes in their bounds are those of the point they stand for. -/
private theorem encodePoint_three
    (first second third : UInt8)
    (lead : 0xE0 ≤ first.toNat ∧ first.toNat ≤ 0xEF)
    (fits : 0x80 ≤ second.toNat ∧ second.toNat ≤ 0xBF)
    (shortest : first.toNat ≠ 0xE0 ∨ 0xA0 ≤ second.toNat)
    (scalar : first.toNat ≠ 0xED ∨ second.toNat ≤ 0x9F)
    (tail : continues third = true) :
    ((first.toNat - 0xE0) * 0x1000 + (second.toNat - 0x80) * 0x40 +
        (third.toNat - 0x80)).isValidChar ∧
      encodePoint ((first.toNat - 0xE0) * 0x1000 + (second.toNat - 0x80) * 0x40 +
        (third.toNat - 0x80)) = [first, second, third] := by
  simp only [continues, Bool.and_eq_true, decide_eq_true_eq] at tail
  refine ⟨by unfold Nat.isValidChar; omega, ?_⟩
  rw [encodePoint, if_neg (by omega), if_neg (by omega), if_pos (by omega),
    byte_eq first (by omega), byte_eq second (by omega),
    byte_eq third (by omega)]

/-- Four bytes in their bounds are those of the point they stand for. -/
private theorem encodePoint_four
    (first second third fourth : UInt8)
    (lead : 0xF0 ≤ first.toNat ∧ first.toNat ≤ 0xF4)
    (fits : 0x80 ≤ second.toNat ∧ second.toNat ≤ 0xBF)
    (shortest : first.toNat ≠ 0xF0 ∨ 0x90 ≤ second.toNat)
    (greatest : first.toNat ≠ 0xF4 ∨ second.toNat ≤ 0x8F)
    (tail : continues third = true)
    (last : continues fourth = true) :
    ((first.toNat - 0xF0) * 0x40000 + (second.toNat - 0x80) * 0x1000 +
        (third.toNat - 0x80) * 0x40 + (fourth.toNat - 0x80)).isValidChar ∧
      encodePoint ((first.toNat - 0xF0) * 0x40000 + (second.toNat - 0x80) * 0x1000 +
        (third.toNat - 0x80) * 0x40 + (fourth.toNat - 0x80)) =
          [first, second, third, fourth] := by
  simp only [continues, Bool.and_eq_true, decide_eq_true_eq] at tail last
  refine ⟨by unfold Nat.isValidChar; omega, ?_⟩
  rw [encodePoint, if_neg (by omega), if_neg (by omega), if_neg (by omega),
    byte_eq first (by omega), byte_eq second (by omega),
    byte_eq third (by omega), byte_eq fourth (by omega)]

/-- What is read off a byte string is a point, and the string begins with its bytes. -/
theorem eq_encodePoint_of_next
    {first : UInt8}
    {rest : Bytes}
    {point count : Nat}
    (found : next first rest = .ok (point, count)) :
    point.isValidChar ∧
      first :: rest = encodePoint point ++ rest.drop (count - 1) := by
  -- The splits follow the tests of `next`; every branch that refuses contradicts `found`.
  unfold next at found
  split at found
  · next ascii =>
      obtain ⟨rfl, rfl⟩ : first.toNat = point ∧ 1 = count := by simpa using found
      refine ⟨Or.inl (by omega), ?_⟩
      rw [encodePoint, if_pos ascii, byte_eq first rfl]
      rfl
  split at found
  · cases found
  rename_i lead leadEq
  obtain ⟨least, greatest, form⟩ := lead?_eq_some leadEq
  split at found
  · cases found
  rename_i second more
  split at found
  · cases found
  rename_i secondFits
  split at found
  · next two =>
      obtain ⟨rfl, rfl⟩ := Prod.mk.inj (Except.ok.inj found)
      have bytes := encodePoint_two first second (by omega) (by omega)
      exact ⟨bytes.1, by rw [bytes.2]; rfl⟩
  split at found
  · cases found
  rename_i third others
  split at found
  · cases found
  rename_i thirdFits
  split at found
  · next three =>
      obtain ⟨rfl, rfl⟩ := Prod.mk.inj (Except.ok.inj found)
      have bytes := encodePoint_three first second third (by omega) (by omega)
        (by omega) (by omega) (by simpa using thirdFits)
      exact ⟨bytes.1, by rw [bytes.2]; rfl⟩
  split at found
  · cases found
  rename_i fourth last
  split at found
  · cases found
  rename_i fourthFits
  obtain ⟨rfl, rfl⟩ := Prod.mk.inj (Except.ok.inj found)
  have bytes := encodePoint_four first second third fourth (by omega)
    (by omega) (by omega) (by omega) (by simpa using thirdFits)
    (by simpa using fourthFits)
  exact ⟨bytes.1, by rw [bytes.2]; rfl⟩

/-- Reading goes on behind the letters that were read before. -/
theorem decodeFrom_encode
    (index : Nat)
    (before letters : List Char) :
    decodeFrom index before (letters.flatMap fun letter => encodePoint letter.toNat) =
      .ok (before.reverse ++ letters) := by
  induction letters generalizing index before with
  | nil => simp [decodeFrom]
  | cons letter letters inductionHypothesis =>
      have valid : letter.toNat.isValidChar := letter.valid
      obtain ⟨first, tail, bytes, found⟩ := next_encodePoint valid
        (letters.flatMap fun letter => encodePoint letter.toNat)
      rw [List.flatMap_cons, bytes, List.cons_append, decodeFrom, found]
      simp only [Nat.add_sub_cancel, List.drop_left, inductionHypothesis,
        Char.ofNat_toNat, List.reverse_cons, List.append_assoc, List.cons_append,
        List.nil_append]

/-- What was read is behind the letters read before, and its bytes are those read from. -/
theorem encode_of_decodeFrom
    {index : Nat}
    {before letters : List Char}
    {bytes : Bytes}
    (read : decodeFrom index before bytes = .ok letters) :
    ∃ found, letters = before.reverse ++ found ∧
      bytes = found.flatMap fun letter => encodePoint letter.toNat := by
  induction index, before, bytes using decodeFrom.induct with
  | case1 index before =>
      rw [decodeFrom] at read
      exact ⟨[], by simpa using (Except.ok.inj read).symm, rfl⟩
  | case2 index before first rest length refused =>
      rw [decodeFrom, refused] at read
      cases read
  | case3 index before first rest point count nextEq inductionHypothesis =>
      rw [decodeFrom, nextEq] at read
      obtain ⟨found, lettersEq, restEq⟩ := inductionHypothesis read
      obtain ⟨valid, bytesEq⟩ := eq_encodePoint_of_next nextEq
      refine ⟨Char.ofNat point :: found, by simpa using lettersEq, ?_⟩
      rw [bytesEq, restEq, List.flatMap_cons, toNat_character valid]

/-- Reading a written text gives the text. -/
theorem decode_encode (text : String) : decode (encode text) = .ok text := by
  unfold decode encode
  rw [decodeFrom_encode]
  simp [Except.map]

/-- Writing a text that was read gives the bytes it was read from. -/
theorem encode_of_decode
    {bytes : Bytes}
    {text : String}
    (read : decode bytes = .ok text) :
    encode text = bytes := by
  unfold decode at read
  cases lettersEq : decodeFrom 0 [] bytes with
  | error failure =>
      rw [lettersEq] at read
      cases read
  | ok letters =>
      rw [lettersEq] at read
      obtain ⟨found, rfl, rfl⟩ := encode_of_decodeFrom lettersEq
      rw [← Except.ok.inj read]
      simp [encode]

/-- The zero byte is that of zero alone. -/
private theorem zero_eq_byte {value : Nat} (small : value < 256) :
    (0 : UInt8) = UInt8.ofNat value ↔ value = 0 := by
  rw [← UInt8.toNat_inj, toNat_byte small]
  exact eq_comm

/-- The bytes of a point hold a zero exactly when the point is zero. -/
theorem zero_mem_encodePoint
    {point : Nat}
    (valid : point.isValidChar) :
    (0 : UInt8) ∈ encodePoint point ↔ point = 0 := by
  have bounds : point < 0xD800 ∨ 0xDFFF < point ∧ point < 0x110000 := valid
  unfold encodePoint
  split_ifs with one two three
  · rw [List.mem_singleton, zero_eq_byte (by omega)]
  · simp only [List.mem_cons, List.not_mem_nil, or_false]
    rw [zero_eq_byte (by omega), zero_eq_byte (by omega)]
    omega
  · simp only [List.mem_cons, List.not_mem_nil, or_false]
    rw [zero_eq_byte (by omega), zero_eq_byte (by omega), zero_eq_byte (by omega)]
    omega
  · simp only [List.mem_cons, List.not_mem_nil, or_false]
    rw [zero_eq_byte (by omega), zero_eq_byte (by omega), zero_eq_byte (by omega),
      zero_eq_byte (by omega)]
    omega

/-- The bytes of a text hold a zero exactly when the text holds the zero character. -/
theorem zero_mem_encode (text : String) :
    (0 : UInt8) ∈ encode text ↔ '\x00' ∈ text.toList := by
  unfold encode
  simp only [List.mem_flatMap]
  constructor
  · rintro ⟨letter, present, zero⟩
    have letterEq : letter = '\x00' := by
      rw [← Char.toNat_inj]
      exact (zero_mem_encodePoint letter.valid).mp zero
    rwa [← letterEq]
  · intro present
    exact ⟨_, present, by decide⟩

end Utf8
end TileProgram
