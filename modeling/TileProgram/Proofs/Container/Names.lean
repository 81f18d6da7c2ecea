import TileProgram.Container.Basic
import TileProgram.Proofs.Text.Numerals

/-!
# Names of relocations

A name made of a word and the numeral of a number fits into an entry, and the
number is read back from it.  So the surfaces of a container that are numbered
in order are listed in that order.
-/

namespace TileProgram
namespace Container

/-- The letters of a numeral are digits. -/
theorem isDigit_of_mem_numeral
    {number : Nat}
    {letter : Char}
    (member : letter ∈ Nat.toDigits 10 number) :
    48 ≤ letter.toNat ∧ letter.toNat ≤ 57 := by
  have digit := Nat.isDigit_of_mem_toDigits (by decide) (by decide) member
  simpa [Char.isDigit, UInt32.le_iff_toNat_le] using digit

/-- Letters that are digits are read as the number they stand for. -/
theorem mapM_ofChar?
    {letters : List Char}
    (digits : ∀ letter ∈ letters, 48 ≤ letter.toNat ∧ letter.toNat ≤ 57)
    (value : Nat) :
    ∃ read, letters.mapM Decimal.Digit.ofChar? = some read ∧
      read.foldl (fun value digit => 10 * value + digit.val) value =
        Nat.ofDigitChars 10 letters value ∧
      read.length = letters.length := by
  induction letters generalizing value with
  | nil => exact ⟨[], rfl, rfl, rfl⟩
  | cons letter rest inductionHypothesis =>
      obtain ⟨here, others⟩ := List.forall_mem_cons.mp digits
      have bound : '0'.toNat ≤ letter.toNat ∧ letter.toNat - '0'.toNat < 10 := by
        show 48 ≤ letter.toNat ∧ letter.toNat - 48 < 10
        omega
      obtain ⟨read, found, valueEq, lengthEq⟩ :=
        inductionHypothesis others (10 * value + (letter.toNat - '0'.toNat))
      refine ⟨⟨letter.toNat - '0'.toNat, bound.2⟩ :: read, ?_, ?_, ?_⟩
      · rw [List.mapM_cons, Decimal.Digit.ofChar?, dif_pos bound, found]
        rfl
      · rw [List.foldl_cons, Nat.ofDigitChars_cons]
        exact valueEq
      · rw [List.length_cons, List.length_cons, lengthEq]

/-- The number behind a word is read back. -/
theorem numberAfter?_numbered
    {number : Nat}
    (word : String)
    (small : number < UInt64.size) :
    Relocation.numberAfter? word (word ++ toString number) = some number := by
  have isDigit : ∀ letter ∈ Nat.toDigits 10 number, 48 ≤ letter.toNat ∧ letter.toNat ≤ 57 :=
    fun letter member => isDigit_of_mem_numeral member
  have noSign : (Nat.toDigits 10 number).head? ≠ some '+' := by
    intro first
    have bound := isDigit '+' (List.mem_of_head? first)
    exact absurd bound (by decide)
  obtain ⟨read, found, valueEq, lengthEq⟩ := mapM_ofChar? isDigit 0
  have value : Decimal.valueOf read = number := by
    rw [Decimal.valueOf, valueEq, Nat.ofDigitChars_ten_toDigits]
  unfold Relocation.numberAfter?
  rw [Text.toList_append_toString, if_pos (by simp), ← String.length_toList, List.drop_left]
  dsimp only
  rw [if_neg (by simpa using noSign), found]
  cases read with
  | nil =>
      rw [List.length_nil] at lengthEq
      exact absurd (List.length_eq_zero_iff.mp lengthEq.symm) Nat.toDigits_ne_nil
  | cons digit rest =>
      dsimp only
      rw [value, if_pos small]

/-- No number is read behind a word that the name does not begin with. -/
theorem numberAfter?_of_ne
    {word other : String}
    (different : ∃ place, word.toList[place]? ≠ other.toList[place]? ∧
      place < word.toList.length ∧ place < other.toList.length)
    (rest : String) :
    Relocation.numberAfter? word (other ++ rest) = none := by
  unfold Relocation.numberAfter?
  rw [if_neg]
  intro begins
  obtain ⟨tail, equal⟩ := List.isPrefixOf_iff_prefix.mp begins
  apply Text.append_ne_append different (String.ofList tail) rest
  apply String.toList_injective
  rw [String.toList_append, String.toList_ofList, equal]

/-- Plain letters take one byte each. -/
theorem length_encode_of_plain
    {text : String}
    (plain : ∀ letter ∈ text.toList, letter.toNat < 0x80) :
    (Utf8.encode text).length = text.toList.length := by
  unfold Utf8.encode
  generalize text.toList = letters at plain
  induction letters with
  | nil => rfl
  | cons letter rest inductionHypothesis =>
      obtain ⟨here, others⟩ := List.forall_mem_cons.mp plain
      rw [List.flatMap_cons, List.length_append, inductionHypothesis others, Utf8.encodePoint,
        if_pos here, List.length_singleton, List.length_cons, Nat.add_comm]

/-- A short word with a number that is not too large is a name that fits. -/
theorem nameFits_numbered
    {word : String}
    {number : Nat}
    (plain : ∀ letter ∈ word.toList, 0 < letter.toNat ∧ letter.toNat < 0x80)
    (short : word.toList.length + 5 ≤ Relocation.nameSize)
    (small : number < 65536) :
    Relocation.nameFits (word ++ toString number) = true := by
  have plain : ∀ letter ∈ (word ++ toString number).toList,
      0 < letter.toNat ∧ letter.toNat < 0x80 := by
    intro letter member
    rw [Text.toList_append_toString] at member
    rcases List.mem_append.mp member with inWord | inNumeral
    · exact plain letter inWord
    · have := isDigit_of_mem_numeral inNumeral
      omega
  have digits : (Nat.toDigits 10 number).length ≤ 5 :=
    (Nat.length_toDigits_le_iff (by decide) (by decide)).mpr (by omega)
  have bytes := length_encode_of_plain fun letter member => (plain letter member).2
  rw [Relocation.nameFits, Bool.and_eq_true, decide_eq_true_eq, bytes]
  refine ⟨?_, ?_⟩
  · rw [Text.toList_append_toString, List.length_append]
    omega
  · rw [Bool.not_eq_true', List.contains_eq_mem, decide_eq_false_iff_not]
    intro zero
    exact absurd (plain _ zero).1 (by decide)

/-- Choosing items by their index keeps all of them in order. -/
theorem filterMap_eq_mapIdx
    {α β : Type}
    {items : List α}
    {choose : α → Option β}
    {result : Nat → α → β}
    (chosen : ∀ (index : Nat) (item : α), items[index]? = some item →
      choose item = some (result index item)) :
    items.filterMap choose = items.mapIdx result := by
  induction items generalizing result with
  | nil => rfl
  | cons item rest inductionHypothesis =>
      rw [List.filterMap_cons, chosen 0 item rfl, List.mapIdx_cons]
      dsimp only
      rw [inductionHypothesis fun index other present => chosen (index + 1) other present]

/-- The number of a surface that a word and a number name. -/
def numbered? (word : String) (relocation : Relocation) : Option (Nat × Relocation) :=
  if relocation.kind == .surface then
    (Relocation.numberAfter? word relocation.name).map fun number => (number, relocation)
  else none

section Numbered

variable {word : String} {list : List Relocation}

/-- Relocations without the word have no number. -/
theorem filterMap_numbered?_eq_nil
    (others : ∀ relocation ∈ list, relocation.kind = .surface →
      Relocation.numberAfter? word relocation.name = none) :
    list.filterMap (numbered? word) = [] := by
  rw [List.filterMap_eq_nil_iff]
  intro relocation member
  unfold numbered?
  split
  · next kind =>
      rw [others relocation member (by simpa using kind)]
      rfl
  · rfl

/-- Surfaces that are named in order have their indices as numbers. -/
theorem filterMap_numbered?_eq_mapIdx
    (numbered : ∀ (index : Nat) (relocation : Relocation), list[index]? = some relocation →
      relocation.kind = .surface ∧ relocation.name = word ++ toString index)
    (few : list.length ≤ UInt64.size) :
    list.filterMap (numbered? word) = list.mapIdx fun index relocation => (index, relocation) := by
  apply filterMap_eq_mapIdx
  intro index relocation present
  obtain ⟨kind, name⟩ := numbered index relocation present
  have inside := (List.getElem?_eq_some_iff.mp present).1
  rw [numbered?, if_pos (by rw [kind]; rfl), name, numberAfter?_numbered word (by omega)]
  rfl

end Numbered

/-- The surfaces of a container that a word names in order are listed in order. -/
theorem surfaces_eq
    {container : Container}
    {word : String}
    {before own after : List Relocation}
    (relocations : container.relocations = before ++ own ++ after)
    (others : ∀ relocation ∈ before ++ after, relocation.kind = .surface →
      Relocation.numberAfter? word relocation.name = none)
    (numbered : ∀ (index : Nat) (relocation : Relocation), own[index]? = some relocation →
      relocation.kind = .surface ∧ relocation.name = word ++ toString index)
    (few : container.relocations.length ≤ UInt64.size) :
    container.surfaces word = own := by
  have fewer : own.length ≤ UInt64.size := by
    rw [relocations, List.length_append, List.length_append] at few
    omega
  obtain ⟨noneBefore, noneAfter⟩ := List.forall_mem_append.mp others
  have listed : container.relocations.filterMap (numbered? word) =
      own.mapIdx fun index relocation => (index, relocation) := by
    rw [relocations, List.filterMap_append, List.filterMap_append,
      filterMap_numbered?_eq_nil noneBefore, filterMap_numbered?_eq_nil noneAfter,
      filterMap_numbered?_eq_mapIdx numbered fewer, List.nil_append, List.append_nil]
  show ((container.relocations.filterMap (numbered? word)).mergeSort _).map Prod.snd = own
  rw [listed, List.mergeSort_of_pairwise]
  · apply List.ext_getElem?
    intro index
    rw [List.getElem?_map, List.getElem?_mapIdx, Option.map_map]
    exact congrFun Option.map_id _
  · rw [List.pairwise_iff_getElem]
    intro first second firstInside secondInside less
    rw [List.getElem_mapIdx, List.getElem_mapIdx]
    exact decide_eq_true (Nat.le_of_lt less)

end Container
end TileProgram
