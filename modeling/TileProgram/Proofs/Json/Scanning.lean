import TileProgram.Json.Printer
import TileProgram.Json.Reader
import TileProgram.Proofs.Decimal.Digits

/-!
# Scanning printed letters

The letters of a number and of a text are scanned back into one token each,
whatever stands after them; blanks give no token.
-/

namespace TileProgram
namespace Json

open Decimal

/-! ## Numbers -/

theorem ofChar?_toChar (digit : Digit) : Digit.ofChar? digit.toChar = some digit := by
  revert digit
  decide

theorem endsWord_toChar (digit : Digit) : Scanner.endsWord digit.toChar = false := by
  revert digit
  decide

theorem toChar_ne_minus (digit : Digit) : digit.toChar ≠ '-' := by
  revert digit
  decide

/-- Digits are taken up to the first letter that is none. -/
theorem takeDigits_append
    (digits : List Digit)
    {rest : List Char}
    (stops : ∀ letter ∈ rest.head?, Digit.ofChar? letter = none) :
    takeDigits (digits.map Digit.toChar ++ rest) = (digits, rest) := by
  induction digits with
  | nil =>
      cases rest with
      | nil => rfl
      | cons letter rest =>
          rw [List.map_nil, List.nil_append, takeDigits, stops letter rfl]
  | cons digit digits inductionHypothesis =>
      rw [List.map_cons, List.cons_append, takeDigits, ofChar?_toChar, inductionHypothesis]

namespace Numeral

/-- A numeral that can be written: it has digits in each of its parts, and the first one of several
before the point is not zero. -/
structure WellFormed (numeral : Numeral) : Prop where
  whole : numeral.whole ≠ []
  leading : 1 < numeral.whole.length → numeral.whole.head? ≠ some .zero
  fraction : numeral.fraction ≠ some []
  exponent : ∀ negative digits, numeral.exponent = some (negative, digits) → digits ≠ []

/-- The letters of an exponent. -/
def exponentLetters : Option (Bool × List Digit) → List Char
  | none => []
  | some (negative, digits) =>
      'e' :: (if negative then '-' else '+') :: digits.map Digit.toChar

/-- The letters of a fraction. -/
def fractionLetters : Option (List Digit) → List Char
  | none => []
  | some digits => '.' :: digits.map Digit.toChar

theorem letters_eq (numeral : Numeral) :
    numeral.letters = (if numeral.isNegative then ['-'] else []) ++
      (numeral.whole.map Digit.toChar ++
        (fractionLetters numeral.fraction ++ exponentLetters numeral.exponent)) := by
  obtain ⟨negative, whole, fraction, exponent⟩ := numeral
  rw [letters]
  cases fraction <;> cases exponent <;> simp [fractionLetters, exponentLetters]

theorem exponentOf?_exponentLetters
    {exponent : Option (Bool × List Digit)}
    (digitsPresent : ∀ negative digits, exponent = some (negative, digits) → digits ≠ []) :
    exponentOf? (exponentLetters exponent) = some exponent := by
  cases exponent with
  | none => rfl
  | some parts =>
      obtain ⟨negative, digits⟩ := parts
      have taken : takeDigits (digits.map Digit.toChar ++ []) = (digits, []) :=
        takeDigits_append digits (by simp)
      rw [List.append_nil] at taken
      cases digits with
      | nil => exact absurd rfl (digitsPresent negative [] rfl)
      | cons digit digits =>
          cases negative <;> simp [exponentLetters, exponentOf?, -List.map_cons, taken]

/-- No digit stands where the digits before an exponent end. -/
theorem stops_exponentLetters (exponent : Option (Bool × List Digit)) :
    ∀ letter ∈ (exponentLetters exponent).head?, Digit.ofChar? letter = none := by
  cases exponent with
  | none => simp [exponentLetters]
  | some parts =>
      intro letter present
      obtain rfl := Option.some.inj present
      decide

theorem tailOf?_letters
    {numeral : Numeral}
    (wellFormed : numeral.WellFormed) :
    tailOf? numeral.isNegative numeral.whole
        (fractionLetters numeral.fraction ++ exponentLetters numeral.exponent) = some numeral := by
  obtain ⟨negative, whole, fraction, exponent⟩ := numeral
  have exponentRead := exponentOf?_exponentLetters wellFormed.exponent
  simp only at *
  cases fraction with
  | none =>
      rw [fractionLetters, List.nil_append]
      cases exponent with
      | none => rfl
      | some parts =>
          rw [tailOf?, exponentRead]
          · rfl
          · intro rest equal
            simp [exponentLetters] at equal
  | some digits =>
      cases digits with
      | nil => exact absurd rfl wellFormed.fraction
      | cons digit digits =>
          rw [fractionLetters, List.cons_append, tailOf?,
            takeDigits_append _ (stops_exponentLetters exponent)]
          simp only [exponentRead, Option.map_some]

theorem unsignedOf?_letters
    {numeral : Numeral}
    (wellFormed : numeral.WellFormed) :
    unsignedOf? numeral.isNegative (numeral.whole.map Digit.toChar ++
      (fractionLetters numeral.fraction ++ exponentLetters numeral.exponent)) = some numeral := by
  have stops : ∀ letter ∈
      (fractionLetters numeral.fraction ++ exponentLetters numeral.exponent).head?,
      Digit.ofChar? letter = none := by
    cases numeral.fraction with
    | none => exact stops_exponentLetters numeral.exponent
    | some digits =>
        intro letter present
        obtain rfl := Option.some.inj present
        decide
  have tail := tailOf?_letters wellFormed
  have digits := wellFormed.whole
  have leading := wellFormed.leading
  rw [unsignedOf?, takeDigits_append _ stops]
  cases present : numeral.whole with
  | nil => exact absurd present digits
  | cons first others =>
      rw [present] at leading tail
      simp only
      rw [if_neg, tail]
      rintro ⟨zero, several⟩
      exact leading (by simpa [List.length_pos_iff] using several) (by rw [zero]; rfl)

/-- A numeral is read back from its letters. -/
theorem ofLetters?_letters
    {numeral : Numeral}
    (wellFormed : numeral.WellFormed) :
    ofLetters? numeral.letters = some numeral := by
  have unsigned := unsignedOf?_letters wellFormed
  rw [letters_eq]
  cases sign : numeral.isNegative with
  | true =>
      rw [sign] at unsigned
      exact unsigned
  | false =>
      rw [sign] at unsigned
      cases present : numeral.whole with
      | nil => exact absurd present wellFormed.whole
      | cons first others =>
          rw [present] at unsigned
          rw [if_neg (by decide), List.nil_append, List.map_cons, List.cons_append, ofLetters?]
          · exact unsigned
          · intro letters equal
            exact toChar_ne_minus first (List.cons.inj equal).1

/-- No letter of a numeral ends a word. -/
theorem endsWord_letters (numeral : Numeral) :
    ∀ letter ∈ numeral.letters, Scanner.endsWord letter = false := by
  have ofDigits : ∀ (digits : List Digit), ∀ letter ∈ digits.map Digit.toChar,
      Scanner.endsWord letter = false := by
    intro digits letter present
    obtain ⟨digit, -, rfl⟩ := List.mem_map.mp present
    exact endsWord_toChar digit
  intro letter present
  rw [letters_eq, List.mem_append, List.mem_append, List.mem_append] at present
  rcases present with sign | whole | fraction | exponent
  · split at sign
    · obtain rfl := List.mem_singleton.mp sign
      decide
    · exact absurd sign List.not_mem_nil
  · exact ofDigits _ letter whole
  · cases digits : numeral.fraction with
    | none => rw [digits] at fraction; exact absurd fraction List.not_mem_nil
    | some digits =>
        rw [digits] at fraction
        rcases List.mem_cons.mp fraction with rfl | fraction
        · decide
        · exact ofDigits _ letter fraction
  · cases parts : numeral.exponent with
    | none => rw [parts] at exponent; exact absurd exponent List.not_mem_nil
    | some parts =>
        rw [parts] at exponent
        rcases List.mem_cons.mp exponent with rfl | exponent
        · decide
        · rcases List.mem_cons.mp exponent with rfl | exponent
          · split <;> decide
          · exact ofDigits _ letter exponent

end Numeral

/-! ## Words, blanks and punctuation -/

namespace Scanner

/-- The tokens that a scanner finds when it reads the rest of a text. -/
def tokensFrom (scanner : Scanner) (letters : List Char) : Option (List Token) :=
  (letters.foldlM step scanner).bind finish

theorem tokensFrom_cons (scanner : Scanner) (letter : Char) (rest : List Char) :
    scanner.tokensFrom (letter :: rest) =
      (scanner.step letter).bind fun next => next.tokensFrom rest := by
  rw [tokensFrom, List.foldlM_cons]
  cases scanner.step letter <;> rfl

variable {tokens : List Token} {rest : List Char}

/-- A rest of a text that ends a word before it. -/
def EndsWord (rest : List Char) : Prop :=
  ∀ letter ∈ rest.head?, endsWord letter = true

theorem endsWord_nil : EndsWord [] := by
  simp [EndsWord]

theorem endsWord_cons {letter : Char} (ends : endsWord letter = true) :
    EndsWord (letter :: rest) := by
  intro first present
  obtain rfl := Option.some.inj present
  exact ends

/-- Punctuation is one token. -/
theorem tokensFrom_punctuation
    {letter : Char}
    {token : Token}
    (meant : stepBetween tokens letter = ⟨.between, token :: tokens⟩) :
    tokensFrom ⟨.between, tokens⟩ (letter :: rest) = tokensFrom ⟨.between, token :: tokens⟩ rest := by
  rw [tokensFrom_cons]
  exact congrArg (fun next => tokensFrom next rest) meant

/-- Blanks are no tokens. -/
theorem tokensFrom_blanks
    {blanks : List Char}
    (allBlank : ∀ letter ∈ blanks, isBlank letter = true) :
    tokensFrom ⟨.between, tokens⟩ (blanks ++ rest) = tokensFrom ⟨.between, tokens⟩ rest := by
  induction blanks with
  | nil => rfl
  | cons letter blanks inductionHypothesis =>
      obtain ⟨blank, others⟩ := List.forall_mem_cons.mp allBlank
      have stays : step ⟨.between, tokens⟩ letter = some ⟨.between, tokens⟩ :=
        congrArg some (if_pos blank)
      rw [List.cons_append, tokensFrom_cons, stays]
      exact inductionHypothesis others

/-- A word that was begun is one token when it ends. -/
theorem tokensFrom_begun
    {letters begun : List Char}
    (inside : ∀ letter ∈ letters, endsWord letter = false)
    {token : Token}
    (meant : wordToken? (begun.reverse ++ letters) = some token)
    (ends : EndsWord rest) :
    tokensFrom ⟨.word begun, tokens⟩ (letters ++ rest) =
      tokensFrom ⟨.between, token :: tokens⟩ rest := by
  induction letters generalizing begun with
  | nil =>
      rw [List.append_nil] at meant
      cases rest with
      | nil => simp [tokensFrom, finish, meant]
      | cons letter rest =>
          have ended := ends letter rfl
          rw [List.nil_append, tokensFrom_cons, tokensFrom_cons]
          simp only [step, ended, if_true, meant, Option.map_some]
  | cons letter letters inductionHypothesis =>
      obtain ⟨inWord, others⟩ := List.forall_mem_cons.mp inside
      rw [List.cons_append, tokensFrom_cons]
      simp only [step, inWord]
      refine inductionHypothesis others ?_
      rw [List.reverse_cons, List.append_assoc]
      exact meant

/-- A letter that does not end a word begins one. -/
theorem stepBetween_of_inside {letter : Char} (inside : endsWord letter = false) :
    stepBetween tokens letter = ⟨.word [letter], tokens⟩ := by
  simp only [endsWord, Bool.or_eq_false_iff, beq_eq_false_iff_ne, Option.isSome_eq_false_iff,
    Option.isNone_iff_eq_none] at inside
  obtain ⟨⟨notBlank, notQuote⟩, notPunctuation⟩ := inside
  rw [stepBetween, notBlank, if_neg (by decide), if_neg notQuote, notPunctuation]

/-- A word is one token. -/
theorem tokensFrom_word
    {letters : List Char}
    (nonempty : letters ≠ [])
    (inside : ∀ letter ∈ letters, endsWord letter = false)
    {token : Token}
    (meant : wordToken? letters = some token)
    (ends : EndsWord rest) :
    tokensFrom ⟨.between, tokens⟩ (letters ++ rest) =
      tokensFrom ⟨.between, token :: tokens⟩ rest := by
  cases letters with
  | nil => exact absurd rfl nonempty
  | cons letter letters =>
      obtain ⟨inWord, others⟩ := List.forall_mem_cons.mp inside
      rw [List.cons_append, tokensFrom_cons]
      simp only [step, stepBetween_of_inside inWord, Option.bind_some]
      exact tokensFrom_begun others meant ends

/-- A numeral is one token. -/
theorem tokensFrom_numeral
    {numeral : Numeral}
    (wellFormed : numeral.WellFormed)
    (ends : EndsWord rest) :
    tokensFrom ⟨.between, tokens⟩ (numeral.letters ++ rest) =
      tokensFrom ⟨.between, .number numeral :: tokens⟩ rest := by
  have read := Numeral.ofLetters?_letters wellFormed
  have first : ∀ word : List Char, Numeral.ofLetters? word = none → numeral.letters ≠ word := by
    rintro word none rfl
    rw [none] at read
    cases read
  refine tokensFrom_word ?_ numeral.endsWord_letters ?_ ends
  · exact first [] rfl
  · rw [wordToken?, if_neg (first _ (by decide)), if_neg (first _ (by decide)),
      if_neg (first _ (by decide)), read, Option.map_some]

/-! ## Texts -/

theorem hexDigit?_digitChar {digit : Nat} (small : digit < 16) :
    Text.hexDigit? (Nat.digitChar digit) = some digit := by
  revert digit
  decide

/-- A unit outside the surrogates is a character. -/
theorem pushUnit_of_lt (done : List Char) {unit : Nat} (small : unit < 0x20) :
    Draft.pushUnit ⟨done, none, false⟩ unit = ⟨Char.ofNat unit :: done, none, false⟩ := by
  rw [Draft.pushUnit, if_neg (by omega), if_neg (by omega)]
  rfl

/-- The letters of a quoted character are scanned as the character. -/
theorem foldlM_quotedLetter (done : List Char) (letter : Char) :
    (quotedLetter letter).foldlM step ⟨.quoted ⟨done, none, false⟩, tokens⟩ =
      some ⟨.quoted ⟨letter :: done, none, false⟩, tokens⟩ := by
  unfold quotedLetter
  split
  · next equal => subst equal; rfl
  split
  · next equal => subst equal; rfl
  split
  · next equal => subst equal; rfl
  split
  · next equal => subst equal; rfl
  split
  · next equal => subst equal; rfl
  split
  · next equal => subst equal; rfl
  split
  · next equal => subst equal; rfl
  split
  · next control =>
    have high := hexDigit?_digitChar (by omega : letter.toNat / 16 < 16)
    have low := hexDigit?_digitChar (Nat.mod_lt letter.toNat (by decide : 0 < 16))
    have zero : Text.hexDigit? '0' = some 0 := rfl
    have unit := pushUnit_of_lt done control
    have code : 16 * (letter.toNat / 16) + letter.toNat % 16 = letter.toNat :=
      Nat.div_add_mod _ _
    rw [Char.ofNat_toNat] at unit
    simp [step, high, low, zero, code, unit]
  · next quote backslash _ _ _ _ _ plain =>
    simp [step, quote, backslash, plain, Draft.push]

/-- The letters of quoted characters and the quotation mark after them are scanned as a text. -/
theorem tokensFrom_quotedLetters (done letters : List Char) :
    tokensFrom ⟨.quoted ⟨done, none, false⟩, tokens⟩ (letters.flatMap quotedLetter ++ '"' :: rest) =
      tokensFrom ⟨.between, .text (some (String.ofList (done.reverse ++ letters))) :: tokens⟩
        rest := by
  induction letters generalizing done with
  | nil =>
      rw [List.flatMap_nil, List.nil_append, List.append_nil, tokensFrom_cons]
      rfl
  | cons letter letters inductionHypothesis =>
      have next := inductionHypothesis (letter :: done)
      rw [List.reverse_cons, List.append_assoc, List.singleton_append] at next
      rw [← next, List.flatMap_cons, List.append_assoc, tokensFrom, List.foldlM_append,
        foldlM_quotedLetter]
      rfl

/-- A quoted text is one token. -/
theorem tokensFrom_text (text : String) :
    tokensFrom ⟨.between, tokens⟩ (quotedLetters (some text) ++ rest) =
      tokensFrom ⟨.between, .text (some text) :: tokens⟩ rest := by
  have scanned : tokensFrom ⟨.quoted ⟨[], none, false⟩, tokens⟩
      (text.toList.flatMap quotedLetter ++ '"' :: rest) = _ :=
    tokensFrom_quotedLetters [] text.toList
  rw [List.reverse_nil, List.nil_append, String.ofList_toList] at scanned
  rw [← scanned, quotedLetters, List.cons_append, List.append_assoc, List.singleton_append,
    tokensFrom_cons]
  rfl

end Scanner

end Json
end TileProgram
