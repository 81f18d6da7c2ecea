import TileProgram.Json.Decode
import TileProgram.Proofs.Json.Documents
import TileProgram.Proofs.Json.Numerals

/-!
# Decoding encoded data

Numbers, names and records are decoded from the documents they are encoded as.
A list, and every other thing that holds singles, is decoded exactly when the
singles are finite.
-/

namespace TileProgram
namespace Json

open Binary Decimal

/-! ## Integers -/

namespace Numeral

@[simp] theorem toInt?_ofInt (value : Int) : (ofInt value).toInt? = some value := by
  rw [toInt?, ofInt]
  simp only [valueOf_digitsOf, decide_eq_true_eq]
  split
  · rw [if_neg (by omega)]
    congr 1
    omega
  · congr 1
    omega

theorem ofInt_wellFormed (value : Int) : (ofInt value).WellFormed where
  whole := digitsOf_ne_nil _
  leading := head?_digitsOf_of_long
  fraction := nofun
  exponent := nofun

/-- The numeral of a regular written decimal is well formed. -/
theorem ofWritten_wellFormed
    (negative : Bool)
    {written : Written}
    (regular : written.Regular) :
    (ofWritten negative written).WellFormed where
  whole := regular.whole
  leading := regular.leading
  fraction := by
    unfold ofWritten
    cases written.fraction <;> simp
  exponent := by
    intro sign digits present
    obtain ⟨power, -, equal⟩ := Option.map_eq_some_iff.mp present
    obtain ⟨-, rfl⟩ := Prod.mk.inj equal
    exact digitsOf_ne_nil _

end Numeral

namespace Decoder

theorem integer_ofInt
    {least greatest value : Int}
    (atLeast : least ≤ value)
    (atMost : value ≤ greatest) :
    integer least greatest (.ofInt value) = some value := by
  show (Numeral.ofInt value).toInt?.filter _ = _
  rw [Numeral.toInt?_ofInt]
  simp [atLeast, atMost]

theorem natural_ofNat {bits value : Nat} (small : value < 2 ^ bits) :
    natural bits (.ofNat value) = some value := by
  have most : (value : Int) ≤ (Nat.pow 2 bits - 1 : Nat) := by
    rw [Nat.pow_eq]
    omega
  rw [natural, Value.ofNat, integer_ofInt (Int.natCast_nonneg value) most]
  rfl

@[simp] theorem word_ofNat (value : UInt32) : word (.ofNat value.toNat) = some value := by
  rw [word, natural_ofNat value.toNat_lt, Option.map_some, UInt32.ofNat_toNat]

@[simp] theorem signedWord_ofInt (value : Int32) :
    signedWord (.ofInt value.toInt) = some value := by
  have least : -0x80000000 ≤ value.toInt := value.le_toInt
  have greatest : value.toInt ≤ 0x7FFFFFFF := Int.le_sub_one_of_lt value.toInt_lt
  rw [signedWord, integer_ofInt least greatest, Option.map_some, Int32.ofInt_toInt]

/-! ## Names and records -/

/-- A value is decoded from its name when it is the first one of that name. -/
theorem named_ofText
    {isUnit : Value → Bool}
    {name : α → String}
    {all : List α}
    {value : α}
    (found : all.find? (fun other => name other == name value) = some value) :
    named isUnit name all (.ofText (name value)) = some value :=
  found

/-- The members of a record are its entries, if their names are known and distinct. -/
theorem entries_ofMembers
    {keys : List String}
    {members : List (String × Value)}
    (names : List String)
    (named : members.map Prod.fst = names)
    (valid : names.Nodup ∧ ∀ name ∈ names, keys.contains name = true) :
    entries keys (.ofMembers members) = some members := by
  rw [Value.ofMembers, entries]
  induction members generalizing names with
  | nil => rfl
  | cons member members inductionHypothesis =>
      obtain ⟨key, value⟩ := member
      subst named
      obtain ⟨distinct, known⟩ := valid
      obtain ⟨fresh, distinct⟩ := List.nodup_cons.mp distinct
      obtain ⟨keyKnown, known⟩ := List.forall_mem_cons.mp known
      have unrepeated : (members.any fun entry => entry.1 == key) = false := by
        rw [List.any_eq_false]
        intro entry member repeated
        have listed := List.mem_map_of_mem (f := Prod.fst) member
        rw [eq_of_beq repeated] at listed
        exact fresh listed
      rw [List.map_cons, knownMembers, inductionHypothesis _ rfl ⟨distinct, known⟩]
      simp only [Option.bind_eq_bind, Option.bind_some, keyKnown, if_true, unrepeated]
      rfl

section Entries

variable {entries : Entries} {key other : String} {value : Value} {decoder : Decoder α} {standard : α}

theorem required_here : required ((key, value) :: entries) key decoder = decoder value := by
  rw [required, List.lookup_cons_self, Option.bind_some]

theorem required_there (different : key ≠ other) :
    required ((other, value) :: entries) key decoder = required entries key decoder := by
  rw [required, required, List.lookup_cons, beq_false_of_ne different]

theorem withDefault_here :
    withDefault ((key, value) :: entries) key standard decoder = decoder value := by
  rw [withDefault, List.lookup_cons_self]

theorem withDefault_there (different : key ≠ other) :
    withDefault ((other, value) :: entries) key standard decoder =
      withDefault entries key standard decoder := by
  rw [withDefault, withDefault, List.lookup_cons, beq_false_of_ne different]

theorem withDefault_missing : withDefault [] key standard decoder = some standard :=
  rfl

end Entries

/-- What follows a value that is decoded under a condition is under that condition, too. -/
theorem ite_some_bind {good : Prop} [Decidable good] {value : α} {next : α → Option β} :
    ((if good then some value else none).bind next) = if good then next value else none :=
  apply_ite_left Option.bind good (some value) none next

/-! ## Lists -/

/-- A list is decoded exactly when its items are. -/
theorem list_map
    {decode : Decoder α}
    {encode : α → Value}
    {good : α → Bool}
    {items : List α}
    (decoded : ∀ item ∈ items, decode (encode item) = if good item then some item else none) :
    list decode (.array (items.map encode)) = if items.all good then some items else none := by
  rw [list]
  induction items with
  | nil => rfl
  | cons item items inductionHypothesis =>
      obtain ⟨first, others⟩ := List.forall_mem_cons.mp decoded
      rw [List.map_cons, List.mapM_cons, first, inductionHypothesis others, List.all_cons]
      cases good item
      · rfl
      · cases items.all good <;> rfl

/-- A list of items that are always decoded. -/
theorem list_map_of_forall
    {decode : Decoder α}
    {encode : α → Value}
    {items : List α}
    (decoded : ∀ item ∈ items, decode (encode item) = some item) :
    list decode (.array (items.map encode)) = some items := by
  have always : ∀ item ∈ items,
      decode (encode item) = if (fun _ => true) item then some item else none := by
    simpa using decoded
  rw [list_map always, if_pos (by simp)]

/-- A list of singles is decoded exactly when they are finite. -/
theorem list_singles (numbers : List Single) :
    list single (.array (numbers.map Value.ofSingle)) =
      if numbers.all Single.isFinite then some numbers else none :=
  list_map fun number _ => single_ofSingle number

end Decoder

/-! ## What decoded data satisfies -/

namespace Decoder

theorem lt_of_natural {bits result : Nat} {value : Value} (decoded : natural bits value = some result) :
    result < 2 ^ bits := by
  obtain ⟨number, inside, rfl⟩ := Option.map_eq_some_iff.mp decoded
  cases value with
  | number numeral =>
      obtain ⟨-, bounds⟩ := Option.filter_eq_some_iff.mp inside
      obtain ⟨-, atMost⟩ := of_decide_eq_true bounds
      have positive : 0 < 2 ^ bits := Nat.two_pow_pos bits
      rw [Nat.pow_eq] at atMost
      omega
  | _ => cases inside

theorem exists_of_required
    {entries : Entries}
    {key : String}
    {decoder : Decoder α}
    {result : α}
    (decoded : required entries key decoder = some result) :
    ∃ value, decoder value = some result :=
  let ⟨value, _, decoded⟩ := Option.bind_eq_some_iff.mp decoded
  ⟨value, decoded⟩

theorem exists_of_list
    {decoder : Decoder α}
    {value : Value}
    {results : List α}
    (decoded : list decoder value = some results) :
    ∀ result ∈ results, ∃ item, decoder item = some result := by
  cases value with
  | array items =>
      rw [list] at decoded
      induction items generalizing results with
      | nil =>
          obtain rfl := Option.some.inj decoded
          simp
      | cons item items inductionHypothesis =>
          rw [List.mapM_cons] at decoded
          obtain ⟨first, firstDecoded, decoded⟩ := Option.bind_eq_some_iff.mp decoded
          obtain ⟨others, othersDecoded, decoded⟩ := Option.bind_eq_some_iff.mp decoded
          obtain rfl := Option.some.inj decoded
          exact List.forall_mem_cons.mpr
            ⟨⟨item, firstDecoded⟩, inductionHypothesis othersDecoded⟩
  | _ => cases decoded

end Decoder

/-! ## Documents that can be printed and kept -/

namespace Value

theorem ofInt_isWritable (value : Int) : (ofInt value).IsWritable :=
  Numeral.ofInt_wellFormed value

theorem ofNat_isWritable (value : Nat) : (ofNat value).IsWritable :=
  ofInt_isWritable value

theorem ofText_isWritable (text : String) : (ofText text).IsWritable :=
  rfl

theorem ofSingle_isWritable (number : Single) : (ofSingle number).IsWritable := by
  by_cases finite : number.isFinite = true
  · rw [ofSingle_of_isFinite finite]
    exact Numeral.ofWritten_wellFormed _ (readsBack_write (of_decide_eq_true finite)).regular
  · rw [ofSingle, if_neg finite]
    trivial

theorem array_isWritable
    {items : List Value}
    (writable : ∀ item ∈ items, item.IsWritable) :
    (array items).IsWritable := by
  show ItemsAreWritable items
  induction items with
  | nil => trivial
  | cons item items inductionHypothesis =>
      obtain ⟨first, others⟩ := List.forall_mem_cons.mp writable
      exact ⟨first, inductionHypothesis others⟩

theorem ofMembers_isWritable
    {members : List (String × Value)}
    (writable : ∀ member ∈ members, member.2.IsWritable) :
    (ofMembers members).IsWritable := by
  show MembersAreWritable (members.map fun member => (some member.1, member.2))
  induction members with
  | nil => trivial
  | cons member members inductionHypothesis =>
      obtain ⟨first, others⟩ := List.forall_mem_cons.mp writable
      exact ⟨rfl, first, inductionHypothesis others⟩

theorem isPlain_ofInt
    {value : Int}
    (least : -0x8000000000000000 ≤ value)
    (greatest : value < UInt64.size) :
    (ofInt value).isPlain = true := by
  have word : (Numeral.ofInt value).word? = some value := by
    rw [Numeral.word?, Numeral.toInt?_ofInt, Option.filter_some,
      if_pos (decide_eq_true ⟨least, greatest⟩)]
  simp [ofInt, isPlain, Numeral.isFinite, word]

theorem isPlain_ofNat {value : Nat} (small : value < UInt64.size) : (ofNat value).isPlain = true :=
  isPlain_ofInt (by omega) (by exact_mod_cast small)

theorem isPlain_ofSingle (number : Single) : (ofSingle number).isPlain = true := by
  by_cases finite : number.isFinite = true
  · have reads := single?_ofWritten finite
    rw [ofSingle_of_isFinite finite, isPlain, Numeral.isFinite]
    rw [Numeral.single?] at reads
    cases word : (Numeral.ofWritten number.isNegative
        (numberLayout.write Format.single number.magnitude)).word? with
    | some value => rfl
    | none =>
        rw [word] at reads
        obtain ⟨pattern, double, -⟩ := Option.map_eq_some_iff.mp reads
        rw [double]
        rfl
  · rw [ofSingle, if_neg finite]
    rfl

theorem isPlain_ofMembers
    {members : List (String × Value)}
    (plain : ∀ member ∈ members, member.2.isPlain = true) :
    (ofMembers members).isPlain = true := by
  show membersArePlain (members.map fun member => (some member.1, member.2)) = true
  induction members with
  | nil => rfl
  | cons member members inductionHypothesis =>
      obtain ⟨first, others⟩ := List.forall_mem_cons.mp plain
      rw [List.map_cons, membersArePlain, first, inductionHypothesis others]
      rfl

theorem depth_ofMembers_le
    {members : List (String × Value)}
    {most : Nat}
    (shallow : ∀ member ∈ members, member.2.depth ≤ most) :
    (ofMembers members).depth ≤ most + 1 := by
  rw [ofMembers, depth, Nat.add_le_add_iff_right]
  induction members with
  | nil => exact Nat.zero_le most
  | cons member members inductionHypothesis =>
      obtain ⟨first, others⟩ := List.forall_mem_cons.mp shallow
      exact max_le first (inductionHypothesis others)

theorem depth_ofSingle (number : Single) : (ofSingle number).depth = 0 := by
  unfold ofSingle
  split <;> rfl

end Value

end Json
end TileProgram
