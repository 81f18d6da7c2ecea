import TileProgram.Bytes.LittleEndian

/-!
# UTF-8

Characters as one to four bytes.  Reading refuses everything that is not the
shortest form of a character; it reports where the first bad sequence begins
and how many bytes of it can be skipped, unless the input ends within it.
-/

namespace TileProgram
namespace Utf8

/-- A refusal: the index of the first bad sequence, and its length unless it only lacks bytes. -/
structure Failure where
  index : Nat
  length : Option Nat
  deriving DecidableEq

/-- The wording of a refusal. -/
def Failure.message (failure : Failure) : String :=
  match failure.length with
  | some length =>
      "invalid utf-8 sequence of " ++ toString length ++ " bytes from index " ++
        toString failure.index
  | none => "incomplete utf-8 byte sequence from index " ++ toString failure.index

/-- The bytes of a code point. -/
def encodePoint (point : Nat) : Bytes :=
  if point < 0x80 then [UInt8.ofNat point]
  else if point < 0x800 then
    [UInt8.ofNat (0xC0 + point / 0x40), UInt8.ofNat (0x80 + point % 0x40)]
  else if point < 0x10000 then
    [ UInt8.ofNat (0xE0 + point / 0x1000), UInt8.ofNat (0x80 + point / 0x40 % 0x40),
      UInt8.ofNat (0x80 + point % 0x40) ]
  else
    [ UInt8.ofNat (0xF0 + point / 0x40000), UInt8.ofNat (0x80 + point / 0x1000 % 0x40),
      UInt8.ofNat (0x80 + point / 0x40 % 0x40), UInt8.ofNat (0x80 + point % 0x40) ]

/-- The bytes of a text. -/
def encode (text : String) : Bytes :=
  text.toList.flatMap fun letter => encodePoint letter.toNat

/-- The form that a first byte announces: how many bytes follow it and the bounds of the first of them. -/
structure Lead where
  following : Nat
  least : Nat
  greatest : Nat
  deriving DecidableEq

/-- The form that a byte above ASCII announces, if it can begin a character. -/
def lead? (byte : Nat) : Option Lead :=
  if 0xC2 ≤ byte ∧ byte ≤ 0xDF then some ⟨1, 0x80, 0xBF⟩
  else if byte = 0xE0 then some ⟨2, 0xA0, 0xBF⟩
  else if byte = 0xED then some ⟨2, 0x80, 0x9F⟩
  else if 0xE1 ≤ byte ∧ byte ≤ 0xEF then some ⟨2, 0x80, 0xBF⟩
  else if byte = 0xF0 then some ⟨3, 0x90, 0xBF⟩
  else if 0xF1 ≤ byte ∧ byte ≤ 0xF3 then some ⟨3, 0x80, 0xBF⟩
  else if byte = 0xF4 then some ⟨3, 0x80, 0x8F⟩
  else none

/-- Whether a byte continues a character. -/
def continues (byte : UInt8) : Bool :=
  0x80 ≤ byte.toNat && byte.toNat ≤ 0xBF

/-- The next character and the number of its bytes, or the length to skip as in a refusal; the input is not empty. -/
def next (first : UInt8) (rest : Bytes) : Except (Option Nat) (Nat × Nat) :=
  if first.toNat < 0x80 then .ok (first.toNat, 1)
  else match lead? first.toNat with
    | none => .error (some 1)
    | some lead =>
        match rest with
        | [] => .error none
        | second :: more =>
            if second.toNat < lead.least ∨ lead.greatest < second.toNat then .error (some 1)
            else if lead.following = 1 then
              .ok ((first.toNat - 0xC0) * 0x40 + (second.toNat - 0x80), 2)
            else match more with
              | [] => .error none
              | third :: others =>
                  if !continues third then .error (some 2)
                  else if lead.following = 2 then
                    .ok ((first.toNat - 0xE0) * 0x1000 + (second.toNat - 0x80) * 0x40 +
                      (third.toNat - 0x80), 3)
                  else match others with
                    | [] => .error none
                    | fourth :: _ =>
                        if !continues fourth then .error (some 3)
                        else
                          .ok ((first.toNat - 0xF0) * 0x40000 + (second.toNat - 0x80) * 0x1000 +
                            (third.toNat - 0x80) * 0x40 + (fourth.toNat - 0x80), 4)

/-- Reads characters from a given index on, after those already read, last one first. -/
def decodeFrom (index : Nat) (letters : List Char) : Bytes → Except Failure (List Char)
  | [] => .ok letters.reverse
  | first :: rest =>
      match next first rest with
      | .error length => .error ⟨index, length⟩
      | .ok (point, count) =>
          decodeFrom (index + count) (Char.ofNat point :: letters) (rest.drop (count - 1))
termination_by bytes => bytes.length
decreasing_by simp only [List.length_drop, List.length_cons]; omega

/-- Reads characters and puts a replacement character for every bad sequence. -/
def decodeLossy : Bytes → List Char
  | [] => []
  | first :: rest =>
      match next first rest with
      | .ok (point, count) => Char.ofNat point :: decodeLossy (rest.drop (count - 1))
      | .error (some count) => Char.ofNat 0xFFFD :: decodeLossy (rest.drop (count - 1))
      | .error none => [Char.ofNat 0xFFFD]
termination_by bytes => bytes.length
decreasing_by all_goals simp only [List.length_drop, List.length_cons]; omega

/-- The text of a byte string. -/
def decode (bytes : Bytes) : Except Failure String :=
  (decodeFrom 0 [] bytes).map String.ofList

end Utf8
end TileProgram
