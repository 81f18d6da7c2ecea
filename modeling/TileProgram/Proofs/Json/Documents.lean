import TileProgram.Proofs.Json.Scanning

/-!
# Reading printed documents

A printed document is scanned into the tokens of its parts, whatever blanks
stand between them, and the tokens are read back as the document.
-/

namespace TileProgram
namespace Json

namespace Value

mutual

/-- A document can be printed so that it is read back: its numbers are well formed, and its texts and
keys stand for characters. -/
def IsWritable : Value → Prop
  | .number numeral => numeral.WellFormed
  | .text quoted => quoted.isSome = true
  | .array items => ItemsAreWritable items
  | .object members => MembersAreWritable members
  | _ => True

/-- All documents of a list can be printed so. -/
def ItemsAreWritable : List Value → Prop
  | [] => True
  | item :: rest => item.IsWritable ∧ ItemsAreWritable rest

/-- All keys and values of a list of members can be printed so. -/
def MembersAreWritable : List (Quoted × Value) → Prop
  | [] => True
  | (key, value) :: rest => key.isSome = true ∧ value.IsWritable ∧ MembersAreWritable rest

end

mutual

/-- The tokens of a document. -/
def tokens : Value → List Token
  | .null => [.null]
  | .truth value => [.truth value]
  | .number numeral => [.number numeral]
  | .text quoted => [.text quoted]
  | .array [] => [.arrayStart, .arrayStop]
  | .array (first :: rest) => .arrayStart :: (first.tokens ++ (itemTokens rest ++ [.arrayStop]))
  | .object [] => [.objectStart, .objectStop]
  | .object ((key, value) :: rest) =>
      .objectStart :: .text key :: .colon ::
        (value.tokens ++ (memberTokens rest ++ [.objectStop]))

/-- The tokens of the items after the first one. -/
def itemTokens : List Value → List Token
  | [] => []
  | item :: rest => .comma :: (item.tokens ++ itemTokens rest)

/-- The tokens of the members after the first one. -/
def memberTokens : List (Quoted × Value) → List Token
  | [] => []
  | (key, value) :: rest =>
      .comma :: .text key :: .colon :: (value.tokens ++ memberTokens rest)

end

end Value

/-! ## Reading tokens -/

namespace Reader

open Value

/-- What is left of a reading when the machine meets the rest of the tokens. -/
def runFrom (reader : Reader) (tokens : List Token) : Option Reader :=
  tokens.foldlM step reader

/-- The first token of a document is not the end of an array. -/
theorem runFrom_expectFirstItem (value : Value) (stack : List Frame) (rest : List Token) :
    runFrom (.expectFirstItem stack) (value.tokens ++ rest) =
      runFrom (.expectValue (.array [] :: stack)) (value.tokens ++ rest) := by
  cases value with
  | array items => cases items <;> rfl
  | object members =>
      cases members with
      | nil => rfl
      | cons member others => obtain ⟨key, value⟩ := member; rfl
  | _ => rfl

mutual

/-- The tokens of a document hand it to what is open. -/
theorem runFrom_tokens (value : Value) (stack : List Frame) (rest : List Token) :
    runFrom (.expectValue stack) (value.tokens ++ rest) = runFrom (deliver stack value) rest := by
  cases value with
  | null => rfl
  | truth value => rfl
  | number numeral => rfl
  | text quoted => rfl
  | array items =>
      cases items with
      | nil => rfl
      | cons first others =>
          rw [tokens, List.cons_append, List.append_assoc, List.append_assoc]
          have start : runFrom (.expectValue stack)
              (.arrayStart :: (first.tokens ++ (itemTokens others ++ ([.arrayStop] ++ rest)))) =
              runFrom (.expectFirstItem stack)
                (first.tokens ++ (itemTokens others ++ ([.arrayStop] ++ rest))) := rfl
          rw [start, runFrom_expectFirstItem, runFrom_tokens first]
          exact runFrom_itemTokens others stack [first] rest
  | object members =>
      cases members with
      | nil => rfl
      | cons member others =>
          obtain ⟨key, value⟩ := member
          rw [tokens, List.cons_append, List.cons_append, List.cons_append, List.append_assoc,
            List.append_assoc]
          have start : runFrom (.expectValue stack) (.objectStart :: .text key :: .colon ::
              (value.tokens ++ (memberTokens others ++ ([.objectStop] ++ rest)))) =
              runFrom (.expectValue (.object [] key :: stack))
                (value.tokens ++ (memberTokens others ++ ([.objectStop] ++ rest))) := rfl
          rw [start, runFrom_tokens value]
          exact runFrom_memberTokens others stack [(key, value)] rest

/-- The tokens of the last items of an array finish it. -/
theorem runFrom_itemTokens
    (items : List Value)
    (stack : List Frame)
    (done : List Value)
    (rest : List Token) :
    runFrom (.afterItem stack done) (itemTokens items ++ ([.arrayStop] ++ rest)) =
      runFrom (deliver stack (.array (done.reverse ++ items))) rest := by
  cases items with
  | nil => rw [List.append_nil]; rfl
  | cons item others =>
      rw [itemTokens, List.cons_append, List.append_assoc]
      have start : runFrom (.afterItem stack done)
          (.comma :: (item.tokens ++ (itemTokens others ++ ([.arrayStop] ++ rest)))) =
          runFrom (.expectValue (.array done :: stack))
            (item.tokens ++ (itemTokens others ++ ([.arrayStop] ++ rest))) := rfl
      have others := runFrom_itemTokens others stack (item :: done) rest
      rw [List.reverse_cons, List.append_assoc, List.singleton_append] at others
      rw [start, runFrom_tokens item]
      exact others

/-- The tokens of the last members of an object finish it. -/
theorem runFrom_memberTokens
    (members : List (Quoted × Value))
    (stack : List Frame)
    (done : List (Quoted × Value))
    (rest : List Token) :
    runFrom (.afterMember stack done) (memberTokens members ++ ([.objectStop] ++ rest)) =
      runFrom (deliver stack (.object (done.reverse ++ members))) rest := by
  cases members with
  | nil => rw [List.append_nil]; rfl
  | cons member others =>
      obtain ⟨key, value⟩ := member
      rw [memberTokens, List.cons_append, List.cons_append, List.cons_append, List.append_assoc]
      have start : runFrom (.afterMember stack done) (.comma :: .text key :: .colon ::
          (value.tokens ++ (memberTokens others ++ ([.objectStop] ++ rest)))) =
          runFrom (.expectValue (.object done key :: stack))
            (value.tokens ++ (memberTokens others ++ ([.objectStop] ++ rest))) := rfl
      have others := runFrom_memberTokens others stack ((key, value) :: done) rest
      rw [List.reverse_cons, List.append_assoc, List.singleton_append] at others
      rw [start, runFrom_tokens value]
      exact others

end

end Reader

/-- The tokens of a document are read as the document. -/
theorem readTokens_tokens (value : Value) : readTokens value.tokens = some value := by
  have run := Reader.runFrom_tokens value [] []
  rw [List.append_nil] at run
  rw [readTokens]
  exact congrArg (Option.bind · Reader.result?) run

/-! ## Scanning documents -/

/-- A spacing puts blanks only. -/
structure Spacing.IsBlank (spacing : Spacing) : Prop where
  line : ∀ depth, ∀ letter ∈ spacing.line depth, Json.isBlank letter = true
  afterColon : ∀ letter ∈ spacing.afterColon, Json.isBlank letter = true

theorem Spacing.compact_isBlank : Spacing.compact.IsBlank :=
  ⟨fun _ _ member => absurd member List.not_mem_nil,
    fun _ member => absurd member List.not_mem_nil⟩

theorem Spacing.pretty_isBlank : Spacing.pretty.IsBlank := by
  refine ⟨fun depth letter member => ?_, fun letter member => ?_⟩
  · rcases List.mem_cons.mp member with rfl | member
    · rfl
    · obtain rfl := List.eq_of_mem_replicate member
      rfl
  · obtain rfl := List.mem_singleton.mp member
    rfl

namespace Scanner

open Value

variable {spacing : Spacing} {rest : List Char}

/-- A line of blanks and a letter that ends a word end a word. -/
theorem endsWord_line
    (blank : spacing.IsBlank)
    (depth : Nat)
    {letter : Char}
    (ends : endsWord letter = true) :
    EndsWord (spacing.line depth ++ letter :: rest) := by
  cases line : spacing.line depth with
  | nil => exact endsWord_cons ends
  | cons first others =>
      have isBlank := blank.line depth first (line ▸ List.mem_cons_self)
      exact endsWord_cons (by rw [endsWord, isBlank]; rfl)

theorem endsWord_itemLetters
    (items : List Value)
    (depth : Nat)
    (ends : EndsWord rest) :
    EndsWord (itemLetters spacing depth items ++ rest) := by
  cases items with
  | nil => exact ends
  | cons item others => exact endsWord_cons rfl

theorem endsWord_memberLetters
    (members : List (Quoted × Value))
    (depth : Nat)
    (ends : EndsWord rest) :
    EndsWord (memberLetters spacing depth members ++ rest) := by
  cases members with
  | nil => exact ends
  | cons member others =>
      obtain ⟨key, value⟩ := member
      exact endsWord_cons rfl

/-- A key with its colon and the blanks after it. -/
theorem tokensFrom_key
    (blank : spacing.IsBlank)
    {key : Quoted}
    (present : key.isSome = true)
    (tokens : List Token) :
    tokensFrom ⟨.between, tokens⟩ (quotedLetters key ++ ':' :: (spacing.afterColon ++ rest)) =
      tokensFrom ⟨.between, .colon :: .text key :: tokens⟩ rest := by
  obtain ⟨text, rfl⟩ := Option.isSome_iff_exists.mp present
  rw [tokensFrom_text, tokensFrom_punctuation rfl, tokensFrom_blanks blank.afterColon]

mutual

/-- The letters of a document are scanned into its tokens. -/
theorem tokensFrom_letters
    (blank : spacing.IsBlank)
    (value : Value)
    (writable : value.IsWritable)
    (depth : Nat)
    (tokens : List Token)
    (rest : List Char)
    (ends : EndsWord rest) :
    tokensFrom ⟨.between, tokens⟩ (value.letters spacing depth ++ rest) =
      tokensFrom ⟨.between, value.tokens.reverse ++ tokens⟩ rest := by
  cases value with
  | null =>
      rw [letters]
      exact tokensFrom_word (by decide) (by simp [endsWord, isBlank, punctuation?]) rfl ends
  | truth value =>
      cases value
      · rw [letters]
        exact tokensFrom_word (by decide) (by simp [endsWord, isBlank, punctuation?]) rfl ends
      · rw [letters]
        exact tokensFrom_word (by decide) (by simp [endsWord, isBlank, punctuation?]) rfl ends
  | number numeral =>
      exact tokensFrom_numeral writable ends
  | text quoted =>
      obtain ⟨text, rfl⟩ := Option.isSome_iff_exists.mp writable
      exact tokensFrom_text text
  | array items =>
      cases items with
      | nil =>
          rw [letters, List.cons_append, List.cons_append, tokensFrom_punctuation rfl,
            tokensFrom_punctuation rfl]
          rfl
      | cons first others =>
          obtain ⟨firstWritable, othersWritable⟩ := writable
          have close : EndsWord (spacing.line depth ++ ']' :: rest) :=
            endsWord_line blank depth rfl
          rw [letters, Value.tokens]
          simp only [List.cons_append, List.append_assoc, List.nil_append]
          rw [tokensFrom_punctuation rfl, tokensFrom_blanks (blank.line _),
            tokensFrom_letters blank first firstWritable _ _ _ (endsWord_itemLetters _ _ close),
            tokensFrom_itemLetters blank others othersWritable _ _ _ close,
            tokensFrom_blanks (blank.line _), tokensFrom_punctuation rfl]
          simp
  | object members =>
      cases members with
      | nil =>
          rw [letters, List.cons_append, List.cons_append, tokensFrom_punctuation rfl,
            tokensFrom_punctuation rfl]
          rfl
      | cons member others =>
          obtain ⟨key, value⟩ := member
          obtain ⟨keyPresent, valueWritable, othersWritable⟩ := writable
          have close : EndsWord (spacing.line depth ++ '\x7d' :: rest) :=
            endsWord_line blank depth rfl
          rw [letters, Value.tokens]
          simp only [List.cons_append, List.append_assoc, List.nil_append]
          rw [tokensFrom_punctuation rfl, tokensFrom_blanks (blank.line _),
            tokensFrom_key blank keyPresent,
            tokensFrom_letters blank value valueWritable _ _ _ (endsWord_memberLetters _ _ close),
            tokensFrom_memberLetters blank others othersWritable _ _ _ close,
            tokensFrom_blanks (blank.line _), tokensFrom_punctuation rfl]
          simp

/-- The letters of the items after the first one. -/
theorem tokensFrom_itemLetters
    (blank : spacing.IsBlank)
    (items : List Value)
    (writable : ItemsAreWritable items)
    (depth : Nat)
    (tokens : List Token)
    (rest : List Char)
    (ends : EndsWord rest) :
    tokensFrom ⟨.between, tokens⟩ (itemLetters spacing depth items ++ rest) =
      tokensFrom ⟨.between, (itemTokens items).reverse ++ tokens⟩ rest := by
  cases items with
  | nil => rfl
  | cons item others =>
      obtain ⟨itemWritable, othersWritable⟩ := writable
      rw [itemLetters, itemTokens]
      simp only [List.cons_append, List.append_assoc]
      rw [tokensFrom_punctuation rfl, tokensFrom_blanks (blank.line _),
        tokensFrom_letters blank item itemWritable _ _ _ (endsWord_itemLetters _ _ ends),
        tokensFrom_itemLetters blank others othersWritable _ _ _ ends]
      simp

/-- The letters of the members after the first one. -/
theorem tokensFrom_memberLetters
    (blank : spacing.IsBlank)
    (members : List (Quoted × Value))
    (writable : MembersAreWritable members)
    (depth : Nat)
    (tokens : List Token)
    (rest : List Char)
    (ends : EndsWord rest) :
    tokensFrom ⟨.between, tokens⟩ (memberLetters spacing depth members ++ rest) =
      tokensFrom ⟨.between, (memberTokens members).reverse ++ tokens⟩ rest := by
  cases members with
  | nil => rfl
  | cons member others =>
      obtain ⟨key, value⟩ := member
      obtain ⟨keyPresent, valueWritable, othersWritable⟩ := writable
      rw [memberLetters, memberTokens]
      simp only [List.cons_append, List.append_assoc]
      rw [tokensFrom_punctuation rfl, tokensFrom_blanks (blank.line _),
        tokensFrom_key blank keyPresent,
        tokensFrom_letters blank value valueWritable _ _ _ (endsWord_memberLetters _ _ ends),
        tokensFrom_memberLetters blank others othersWritable _ _ _ ends]
      simp

end

end Scanner

/-- A printed document is read back, whatever blanks it is printed with. -/
theorem read_letters
    {spacing : Spacing}
    (blank : spacing.IsBlank)
    {value : Value}
    (writable : value.IsWritable) :
    read (String.ofList (value.letters spacing 0)) = some value := by
  have scanned := Scanner.tokensFrom_letters blank value writable 0 [] [] Scanner.endsWord_nil
  rw [List.append_nil, List.append_nil] at scanned
  have found : scan (value.letters spacing 0) = some value.tokens := by
    rw [scan, Scanner.start]
    refine scanned.trans ?_
    simp [Scanner.tokensFrom, Scanner.finish]
  rw [read, String.toList_ofList, found, Option.bind_some, readTokens_tokens]

theorem read_pretty {value : Value} (writable : value.IsWritable) :
    read value.pretty = some value :=
  read_letters Spacing.pretty_isBlank writable

theorem read_compact {value : Value} (writable : value.IsWritable) :
    read value.compact = some value :=
  read_letters Spacing.compact_isBlank writable

end Json
end TileProgram
