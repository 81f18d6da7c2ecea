import TileProgram.Register.Standard

/-!
# Names with numbers

The decimal numeral of a number determines it, and so does a name that is made
of fixed words around the numeral.
-/

namespace TileProgram
namespace Text

/-- A number is determined by its numeral. -/
theorem toString_injective {first second : Nat} (equal : toString first = toString second) :
    first = second := by
  rw [Nat.toString_eq_ofList_toDigits, Nat.toString_eq_ofList_toDigits] at equal
  have digits := congrArg String.toList equal
  rw [String.toList_ofList, String.toList_ofList] at digits
  rw [← @Nat.ofDigitChars_ten_toDigits first, digits, Nat.ofDigitChars_ten_toDigits]

/-- The letters of a word with a number are those of the word and the digits of the number. -/
theorem toList_append_toString (word : String) (number : Nat) :
    (word ++ toString number).toList = word.toList ++ Nat.toDigits 10 number := by
  rw [String.toList_append, Nat.toString_eq_ofList_toDigits, String.toList_ofList]

/-- A number is determined by its numeral behind a word. -/
theorem append_toString_inj {word : String} {first second : Nat} :
    word ++ toString first = word ++ toString second ↔ first = second := by
  rw [String.append_right_inj]
  exact ⟨toString_injective, congrArg toString⟩

/-- Texts that begin with different words differ, if the words differ at a place
that both have. -/
theorem append_ne_append
    {word other : String}
    (different : ∃ place, word.toList[place]? ≠ other.toList[place]? ∧
      place < word.toList.length ∧ place < other.toList.length)
    (rest tail : String) :
    word ++ rest ≠ other ++ tail := by
  obtain ⟨place, different, inWord, inOther⟩ := different
  intro equal
  have letters := congrArg (fun text => text.toList[place]?) equal
  simp only [String.toList_append] at letters
  rw [List.getElem?_append_left inWord, List.getElem?_append_left inOther] at letters
  exact different letters

end Text

namespace Register
namespace Standard

/-- An index is determined by the label it stands in. -/
theorem indexed_inj {label rest : String} {first second : Nat} :
    indexed label first rest = indexed label second rest ↔ first = second := by
  unfold indexed
  rw [String.append_left_inj, String.append_left_inj]
  exact Text.append_toString_inj

end Standard
end Register
end TileProgram
