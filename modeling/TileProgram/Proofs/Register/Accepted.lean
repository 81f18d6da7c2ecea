import Mathlib.Data.List.Nodup
import Mathlib.Data.List.Permutation
import Mathlib.Data.List.TakeDrop
import TileProgram.Proofs.Outcome
import TileProgram.Proofs.Register.Window
import TileProgram.Register.Json

/-!
# Accepted tables

A table is accepted after its registers have been looked at one by one and
after neighbours have been compared in every region.  Comparing neighbours is
enough: registers that do not reach into the next one do not reach further.
-/

namespace TileProgram
namespace Register

namespace Name

/-- No region has a point in its name. -/
theorem ne_point_of_mem {region : Region} {letter : Char} (present : letter ∈ region.name.toList) :
    letter ≠ '.' := by
  rintro rfl
  cases region <;> exact absurd present (by decide)

/-- A name is read back from its qualified text, also if its label has points. -/
theorem ofText?_text (name : Name) : ofText? name.text = some name := by
  have split : splitAtPoint? name.text = some (name.region.name, name.label) := by
    have clear : ∀ letter ∈ name.region.name.toList, (letter != '.') = true := by
      intro letter present
      simpa using ne_point_of_mem present
    have letters : name.text.toList =
        name.region.name.toList ++ '.' :: name.label.toList := by
      simp [text]
    rw [splitAtPoint?, letters, List.span_eq_takeWhile_dropWhile,
      List.takeWhile_append_of_pos clear, List.dropWhile_append_of_pos clear]
    simp
  rw [ofText?, split]
  simp [Region.ofName?_name]

theorem text_injective : Function.Injective text := by
  intro first second same
  have read := ofText?_text first
  rw [same, ofText?_text] at read
  exact (Option.some.inj read).symm

/-- What is cut at its first point is put together again by a point. -/
theorem eq_of_splitAtPoint?
    {text before after : String}
    (split : splitAtPoint? text = some (before, after)) :
    before ++ "." ++ after = text := by
  unfold splitAtPoint? at split
  split at split
  · cases split
  · next front point rest spanEq =>
      cases split
      rw [List.span_eq_takeWhile_dropWhile] at spanEq
      obtain ⟨frontEq, backEq⟩ := Prod.mk.inj spanEq
      have whole : front ++ point :: rest = text.toList := by
        rw [← frontEq, ← backEq, List.takeWhile_append_dropWhile]
      have isPoint : point = '.' := by
        have first := List.head?_dropWhile_not (· != '.') text.toList
        rw [backEq] at first
        simpa using first
      apply String.toList_inj.mp
      rw [← whole, isPoint]
      simp

/-- A text is read as a name exactly when it is the qualified text of that name. -/
theorem ofText?_eq_some_iff {text : String} {name : Name} :
    ofText? text = some name ↔ name.text = text := by
  constructor
  · intro read
    unfold ofText? at read
    split at read
    · cases read
    · next before after split =>
        obtain ⟨region, found, rfl⟩ := Option.map_eq_some_iff.mp read
        have named : region.name = before := by
          simpa using List.find?_some found
        rw [Name.text, named]
        exact eq_of_splitAtPoint? split
  · rintro rfl
    exact ofText?_text name

end Name

namespace Table

/-- The table of a list of registers, or of a JSON text. -/
def Accepted (table : Table) : Prop :=
  (∃ fields, ofFields fields = .ok table) ∨ ∃ text, ofJson text = .ok table

/-- A register in its region. -/
def Placed (field : Field) : Prop :=
  8 * field.name.region.start ≤ field.bitStart ∧ field.bitEnd ≤ 8 * field.name.region.stop

/-- Registers of the right shape in their regions, with names of their own, and disjoint unless one is an alias. -/
structure Orderly (table : Table) : Prop where
  shaped : ∀ field ∈ table.fields, field.Shaped recordSize
  placed : ∀ field ∈ table.fields, Placed field
  named : (table.fields.map Field.name).Nodup
  disjoint : ∀ first ∈ table.fields, ∀ second ∈ table.fields, first ≠ second →
    first.isAlias = false → second.isAlias = false → first.Disjoint second

theorem shapeDefect?_eq_none_iff {field : Field} :
    shapeDefect? field = none ↔ field.Shaped recordSize ∧ Placed field := by
  have widest : Field.greatestWidth = 64 := rfl
  constructor
  · intro sound
    unfold shapeDefect? at sound
    split at sound
    · cases sound
    split at sound
    · cases sound
    split at sound
    · cases sound
    split at sound
    · cases sound
    refine ⟨⟨?_, ?_, ?_, ?_⟩, ?_, ?_⟩ <;> omega
  · rintro ⟨⟨positive, narrow, offset, inside⟩, above, below⟩
    rw [shapeDefect?, if_neg (by omega), if_neg (by omega), if_neg (by omega), if_neg (by omega)]

/-- The registers of a list pass one by one when their shapes are right and no name occurs twice. -/
theorem entryDefect?_eq_none_iff {seen : List Name} {fields : List Field} :
    entryDefect? seen fields = none ↔
      (∀ field ∈ fields, shapeDefect? field = none ∧ field.name ∉ seen) ∧
        (fields.map Field.name).Nodup := by
  induction fields generalizing seen with
  | nil => simp [entryDefect?]
  | cons field rest inductionHypothesis =>
      rw [entryDefect?]
      cases shape : shapeDefect? field with
      | some defect => simp [shape]
      | none =>
          by_cases known : field.name ∈ seen
          · simp [known]
          · have next : entryDefect? seen (field :: rest) = entryDefect? (field.name :: seen) rest := by
              simp [entryDefect?, shape, known]
            rw [entryDefect?, shape] at next
            rw [next, inductionHypothesis, List.forall_mem_cons, List.map_cons, List.nodup_cons]
            constructor
            · rintro ⟨others, distinct⟩
              refine ⟨⟨⟨shape, known⟩, ?_⟩, ?_, distinct⟩
              · intro other present
                obtain ⟨sound, fresh⟩ := others other present
                exact ⟨sound, fun old => fresh (List.mem_cons_of_mem _ old)⟩
              · intro repeated
                obtain ⟨other, present, same⟩ := List.mem_map.mp repeated
                exact (others other present).2 (same ▸ List.mem_cons_self)
            · rintro ⟨⟨-, others⟩, fresh, distinct⟩
              refine ⟨?_, distinct⟩
              intro other present
              obtain ⟨sound, unseen⟩ := others other present
              refine ⟨sound, fun old => ?_⟩
              rcases List.mem_cons.mp old with same | before
              · exact fresh (List.mem_map.mpr ⟨other, present, same⟩)
              · exact unseen before

theorem neighbourDefect?_eq_none_iff {fields : List Field} :
    neighbourDefect? fields = none ↔
      fields.IsChain fun first second => first.bitEnd ≤ second.bitStart := by
  induction fields with
  | nil => simp [neighbourDefect?]
  | cons first rest inductionHypothesis =>
      cases rest with
      | nil => simp [neighbourDefect?]
      | cons second rest =>
          rw [neighbourDefect?, List.isChain_cons_cons, ← inductionHypothesis]
          by_cases reaches : first.bitEnd > second.bitStart
          · simp [reaches]
          · simp [reaches, Nat.le_of_not_lt reaches]

/-- The registers of a region that are compared. -/
theorem mem_ordered {fields : List Field} {region : Region} {field : Field} :
    field ∈ ordered fields region ↔
      field ∈ fields ∧ field.name.region = region ∧ field.isAlias = false := by
  simp [ordered]

/-- Disjoint registers in the order of their first bits follow each other. -/
theorem isChain_ordered
    {fields : List Field}
    {region : Region}
    (positive : ∀ field ∈ fields, 0 < field.width)
    (apart : fields.Pairwise fun first second => first.name.region = second.name.region →
      first.isAlias = false → second.isAlias = false → first.Disjoint second) :
    (ordered fields region).IsChain fun first second => first.bitEnd ≤ second.bitStart := by
  have disjoint : (ordered fields region).Pairwise Field.Disjoint := by
    refine List.Pairwise.perm ?_ (List.mergeSort_perm _ _).symm Field.Disjoint.symm
    rw [List.pairwise_filter]
    refine apart.imp ?_
    intro first second disjoint firstKept secondKept
    simp only [Bool.and_eq_true, beq_iff_eq, Bool.not_eq_true'] at firstKept secondKept
    exact disjoint (firstKept.1.trans secondKept.1.symm) firstKept.2 secondKept.2
  have increasing : (ordered fields region).Pairwise fun first second =>
      first.bitStart ≤ second.bitStart := by
    refine (List.pairwise_mergeSort ?_ ?_ _).imp of_decide_eq_true
    · intro first second third
      simpa using Nat.le_trans
    · intro first second
      simpa using Nat.le_total first.bitStart second.bitStart
  refine ((increasing.and disjoint).imp_of_mem ?_).isChain
  intro first second _ present both
  have wide := positive second (mem_ordered.mp present).1
  have reach : second.bitEnd = second.bitStart + second.width := rfl
  rcases both.2 with before | after
  · exact before
  · exact absurd both.1 (by omega)

/-- Registers in different regions are disjoint. -/
theorem Placed.disjoint
    {first second : Field}
    (firstPlaced : Placed first)
    (secondPlaced : Placed second)
    (different : first.name.region ≠ second.name.region) :
    first.Disjoint second := by
  have apart : ∀ one other : Region, one ≠ other →
      one.stop ≤ other.start ∨ other.stop ≤ one.start := by
    intro one other
    cases one <;> cases other <;> decide
  obtain ⟨above, below⟩ := firstPlaced
  obtain ⟨above', below'⟩ := secondPlaced
  rcases apart _ _ different with before | after
  · exact Or.inl (by omega)
  · exact Or.inr (by omega)

/-- A list of registers without a defect is orderly. -/
theorem orderly_of_defect?
    {fields : List Field}
    (sound : defect? fields = none) :
    Orderly ⟨fields⟩ := by
  rw [defect?, Option.or_eq_none_iff, entryDefect?_eq_none_iff, List.findSome?_eq_none_iff] at sound
  obtain ⟨⟨entries, named⟩, neighbours⟩ := sound
  have shapes := fun field present => shapeDefect?_eq_none_iff.mp (entries field present).1
  refine ⟨fun field present => (shapes field present).1,
    fun field present => (shapes field present).2, named, ?_⟩
  intro first firstPresent second secondPresent different firstPlain secondPlain
  by_cases same : first.name.region = second.name.region
  · have every : first.name.region ∈ Region.all := by
      cases first.name.region <;> decide
    exact disjoint_of_isChain (neighbourDefect?_eq_none_iff.mp (neighbours _ every))
      first (mem_ordered.mpr ⟨firstPresent, rfl, firstPlain⟩)
      second (mem_ordered.mpr ⟨secondPresent, same.symm, secondPlain⟩) different
  · exact (shapes first firstPresent).2.disjoint (shapes second secondPresent).2 same

theorem orderly_of_ofFields
    {fields : List Field}
    {table : Table}
    (made : ofFields fields = .ok table) :
    table.Orderly := by
  unfold ofFields at made
  split at made
  · cases made
  · next sound =>
    cases made
    exact orderly_of_defect? sound

namespace Accepted

variable {table : Table}

/-- A table of a JSON text is the table of its registers. -/
theorem exists_fields (accepted : table.Accepted) : ∃ fields, ofFields fields = .ok table := by
  rcases accepted with made | ⟨text, read⟩
  · exact made
  · unfold ofJson at read
    split at read
    · cases read
    · obtain ⟨fields, -, made⟩ := Outcome.seq_eq_ok.mp read
      exact ⟨fields, made⟩

/-- An accepted table is orderly. -/
theorem orderly (accepted : table.Accepted) : table.Orderly := by
  obtain ⟨fields, made⟩ := accepted.exists_fields
  exact orderly_of_ofFields made

end Accepted

namespace Orderly

variable {table : Table} (orderly : table.Orderly)

include orderly

/-- Registers of one name are one register. -/
theorem eq_of_name
    {first second : Field}
    (firstPresent : first ∈ table.fields)
    (secondPresent : second ∈ table.fields)
    (same : first.name = second.name) :
    first = second :=
  List.inj_on_of_nodup_map orderly.named firstPresent secondPresent same

/-- A register is found by its name. -/
theorem lookupText_text {field : Field} (present : field ∈ table.fields) :
    table.lookupText field.name.text = .ok field := by
  have found : table.find? field.name = some field := by
    cases search : table.find? field.name with
    | none => exact absurd (List.find?_eq_none.mp search field present) (by simp)
    | some other =>
        have same : other.name = field.name := by simpa using List.find?_some search
        rw [orderly.eq_of_name (List.mem_of_find?_eq_some search) present same]
  rw [lookupText, Name.ofText?_text, Option.bind_some, found]

end Orderly
end Table
end Register
end TileProgram

/-!
## What acceptance comes to

The checks are passed by exactly the lists that are orderly.  A register of an
accepted table is found by its qualified name, which for a table of a JSON text
is the text of its entry.
-/

namespace TileProgram
namespace Register
namespace Table

/-- Orderly registers pass all checks. -/
theorem Orderly.ofFields_eq
    {fields : List Field}
    (orderly : Orderly ⟨fields⟩) :
    ofFields fields = .ok ⟨fields⟩ := by
  have entries : entryDefect? [] fields = none := by
    refine entryDefect?_eq_none_iff.mpr ⟨?_, orderly.named⟩
    intro field present
    exact ⟨shapeDefect?_eq_none_iff.mpr ⟨orderly.shaped field present, orderly.placed field present⟩,
      List.not_mem_nil⟩
  have distinct : fields.Nodup := orderly.named.of_map _
  have apart := distinct.pairwise_of_forall_ne
    (r := fun first second => first.name.region = second.name.region →
      first.isAlias = false → second.isAlias = false → first.Disjoint second)
    fun first firstPresent second secondPresent different _ =>
      orderly.disjoint first firstPresent second secondPresent different
  have neighbours : Region.all.findSome? (fun region => neighbourDefect? (ordered fields region)) =
      none := by
    rw [List.findSome?_eq_none_iff]
    intro region _
    exact neighbourDefect?_eq_none_iff.mpr
      (isChain_ordered (fun field present => (orderly.shaped field present).positive) apart)
  rw [ofFields, defect?, entries, neighbours]
  rfl

/-- A register is found by a text exactly when the text is its qualified name. -/
theorem Orderly.lookupText_eq_ok_iff
    {table : Table}
    {text : String}
    {field : Field}
    (orderly : table.Orderly) :
    table.lookupText text = .ok field ↔ field ∈ table.fields ∧ field.name.text = text := by
  constructor
  · intro found
    unfold lookupText at found
    split at found
    · next other located =>
        cases found
        obtain ⟨name, read, search⟩ := Option.bind_eq_some_iff.mp located
        have same : field.name = name := by simpa using List.find?_some search
        exact ⟨List.mem_of_find?_eq_some search, same ▸ Name.ofText?_eq_some_iff.mp read⟩
    · cases found
  · rintro ⟨present, rfl⟩
    exact orderly.lookupText_text present

/-- A text that is no register's qualified name finds nothing. -/
theorem lookupText_of_unnamed
    {table : Table}
    {text : String}
    (unnamed : ∀ field ∈ table.fields, field.name.text ≠ text) :
    table.lookupText text = .error (.unknownField text) := by
  unfold lookupText
  split
  · next field located =>
      obtain ⟨name, read, search⟩ := Option.bind_eq_some_iff.mp located
      have same : field.name = name := by simpa using List.find?_some search
      exact absurd (same ▸ Name.ofText?_eq_some_iff.mp read)
        (unnamed field (List.mem_of_find?_eq_some search))
  · rfl

end Table

namespace Entry

/-- The qualified name of a register is the text of its entry. -/
theorem name_text_of_toField
    {entry : Entry}
    {field : Field}
    (made : entry.toField = .ok field) :
    field.name.text = entry.text := by
  unfold toField at made
  split at made
  · cases made
  · next before label split =>
      split at made
      · cases made
      · next region found =>
          cases made
          exact Name.ofText?_eq_some_iff.mp (by rw [Name.ofText?, split]; simp [found])

/-- Registers have the texts of their entries as qualified names. -/
theorem map_text_of_toField
    {entries : List Entry}
    {fields : List Field}
    (made : entries.map toField = fields.map .ok) :
    fields.map (fun field => field.name.text) = entries.map text := by
  induction entries generalizing fields with
  | nil =>
      cases fields with
      | nil => rfl
      | cons field rest => cases made
  | cons entry entries inductionHypothesis =>
      cases fields with
      | nil => cases made
      | cons field rest =>
          obtain ⟨here, later⟩ := List.cons.inj made
          rw [List.map_cons, List.map_cons, name_text_of_toField here, inductionHypothesis later]

end Entry

namespace Table

/-- A table of a JSON text has the registers of its entries. -/
theorem ofJson_eq_ok_iff {text : String} {table : Table} :
    ofJson text = .ok table ↔
      ∃ entries, (Json.read text).bind (Json.Decoder.list Entry.decode) = some entries ∧
        ∃ fields, entries.map Entry.toField = fields.map .ok ∧ ofFields fields = .ok table := by
  unfold ofJson
  cases (Json.read text).bind (Json.Decoder.list Entry.decode) with
  | none => simp
  | some entries =>
      simp only [Outcome.seq_eq_ok, Outcome.mapM_eq_ok, Option.some.injEq, exists_eq_left']

/-- What the checks of a table come to: widths and places in range, different qualified names, and
no bit of a region in two registers of their own. -/
theorem orderly_iff {fields : List Field} :
    Orderly ⟨fields⟩ ↔
      (∀ field ∈ fields, 1 ≤ field.width ∧ field.width ≤ 64 ∧ field.bitOffset ≤ 7 ∧
        Placed field) ∧
      (fields.map fun field => field.name.text).Nodup ∧
      fields.Pairwise fun first second => first.name.region = second.name.region →
        first.isAlias = false → second.isAlias = false →
        ∀ index, ¬(first.Covers index ∧ second.Covers index) := by
  have texts : (fields.map fun field => field.name.text) = (fields.map Field.name).map Name.text :=
    by rw [List.map_map]; rfl
  rw [texts, List.nodup_map_iff Name.text_injective]
  constructor
  · intro orderly
    have distinct : fields.Nodup := orderly.named.of_map _
    refine ⟨?_, orderly.named, ?_⟩
    · intro field present
      have shaped := orderly.shaped field present
      exact ⟨shaped.positive, shaped.narrow, shaped.offset, orderly.placed field present⟩
    · refine distinct.pairwise_of_forall_ne ?_
      intro first firstPresent second secondPresent different _ firstPlain secondPlain
      exact (Field.disjoint_iff (orderly.shaped first firstPresent).positive
        (orderly.shaped second secondPresent).positive).mp
          (orderly.disjoint first firstPresent second secondPresent different firstPlain secondPlain)
  · rintro ⟨each, named, apart⟩
    refine ⟨?_, fun field present => (each field present).2.2.2, named, ?_⟩
    · intro field present
      obtain ⟨positive, narrow, offset, -, below⟩ := each field present
      have last : field.name.region.stop ≤ recordSize := by
        cases field.name.region <;> decide
      exact ⟨positive, narrow, offset, Nat.le_trans below (Nat.mul_le_mul_left 8 last)⟩
    · intro first firstPresent second secondPresent different firstPlain secondPlain
      by_cases same : first.name.region = second.name.region
      · have symmetric : Std.Symm fun first second : Field =>
            first.name.region = second.name.region → first.isAlias = false →
              second.isAlias = false → ∀ index, ¬(first.Covers index ∧ second.Covers index) :=
          ⟨fun _ _ apart same onePlain otherPlain index both =>
            apart same.symm otherPlain onePlain index both.symm⟩
        exact (Field.disjoint_iff (each first firstPresent).1 (each second secondPresent).1).mpr
          (apart.forall firstPresent secondPresent different same firstPlain secondPlain)
      · exact (each first firstPresent).2.2.2.disjoint (each second secondPresent).2.2.2 same

/-- A list of registers is accepted as a table exactly when widths and places are in range, qualified
names differ, and no two registers of a region share a bit unless one is an alias.  The table has
the registers in the order of the list, each found by its qualified name and nothing found by other
texts.  The qualified names of a table of a JSON text are the texts of its entries. -/
theorem acceptance_exact :
    (∀ fields : List Field,
      ((∃ table, ofFields fields = .ok table) ↔
        (∀ field ∈ fields, 1 ≤ field.width ∧ field.width ≤ 64 ∧ field.bitOffset ≤ 7 ∧
          Placed field) ∧
        (fields.map fun field => field.name.text).Nodup ∧
        fields.Pairwise fun first second => first.name.region = second.name.region →
          first.isAlias = false → second.isAlias = false →
          ∀ index, ¬(first.Covers index ∧ second.Covers index)) ∧
      ∀ table, ofFields fields = .ok table →
        table.fields = fields ∧
        (∀ text field, table.lookupText text = .ok field ↔
          field ∈ fields ∧ field.name.text = text) ∧
        ∀ text, (∀ field ∈ fields, field.name.text ≠ text) →
          table.lookupText text = .error (.unknownField text)) ∧
    ∀ text table, ofJson text = .ok table →
      ∃ entries, (Json.read text).bind (Json.Decoder.list Entry.decode) = some entries ∧
        table.fields.map (fun field => field.name.text) = entries.map Entry.text := by
  have kept : ∀ {fields table}, ofFields fields = .ok table → table = ⟨fields⟩ := by
    intro fields table made
    unfold ofFields at made
    split at made
    · cases made
    · cases made
      rfl
  refine ⟨?_, ?_⟩
  · intro fields
    rw [← orderly_iff]
    refine ⟨⟨?_, fun orderly => ⟨_, orderly.ofFields_eq⟩⟩, ?_⟩
    · rintro ⟨table, made⟩
      exact kept made ▸ orderly_of_ofFields made
    · intro table made
      have orderly := orderly_of_ofFields made
      cases kept made
      exact ⟨rfl, fun text field => orderly.lookupText_eq_ok_iff,
        fun text unnamed => lookupText_of_unnamed unnamed⟩
  · intro text table made
    obtain ⟨entries, read, fields, fieldsEq, accepted⟩ := ofJson_eq_ok_iff.mp made
    cases kept accepted
    exact ⟨entries, read, Entry.map_text_of_toField fieldsEq⟩

/-- Two registers that share a byte, and an alias of both of them. -/
def overlaid : List Field :=
  [ ⟨⟨.engine, "Low"⟩, 0x230, 0, 4, false, false⟩,
    ⟨⟨.engine, "Low.Rest"⟩, 0x230, 4, 5, true, false⟩,
    ⟨⟨.engine, "Both"⟩, 0x230, 0, 9, false, true⟩ ]

/-- The same registers as a JSON text. -/
def overlaidText : String :=
  "[[\"NE.Low\", 560, 0, 4],
    [\"NE.Low.Rest\", 560, 4, 5, true],
    [\"NE.Both\", 560, 0, 9, false, true]]"

/-- The alias may cover both registers, a register of its own may not; each is found by its name. -/
theorem overlaid_accepted :
    ofJson overlaidText = .ok ⟨overlaid⟩ ∧
      (¬∃ table, ofFields (overlaid.map fun field => { field with isAlias := false }) = .ok table) ∧
      (Table.mk overlaid).lookupText "NE.Low.Rest" =
        .ok ⟨⟨.engine, "Low.Rest"⟩, 0x230, 4, 5, true, false⟩ ∧
      (Table.mk overlaid).lookupText "NE.Rest" = .error (.unknownField "NE.Rest") ∧
      ∃ entries, (Json.read overlaidText).bind (Json.Decoder.list Entry.decode) = some entries ∧
        ["NE.Low", "NE.Low.Rest", "NE.Both"] = entries.map Entry.text := by
  have accepted : ofFields overlaid = .ok ⟨overlaid⟩ := by cbv
  have read : (Json.read overlaidText).bind (Json.Decoder.list Entry.decode) =
      some [⟨"NE.Low", 560, 0, 4, false, false⟩, ⟨"NE.Low.Rest", 560, 4, 5, true, false⟩,
        ⟨"NE.Both", 560, 0, 9, false, true⟩] := by decide +kernel
  have made : ofJson overlaidText = .ok ⟨overlaid⟩ :=
    ofJson_eq_ok_iff.mpr ⟨_, read, overlaid, by decide +kernel, accepted⟩
  obtain ⟨-, found, unnamed⟩ := (acceptance_exact.1 overlaid).2 _ accepted
  refine ⟨made, ?_, (found _ _).mpr ⟨by decide, by decide +kernel⟩,
    unnamed _ (by decide +kernel), acceptance_exact.2 _ _ made⟩
  intro possible
  have apart := ((acceptance_exact.1 _).1.mp possible).2.2
  exact (List.pairwise_cons.mp apart).1 _ (List.mem_cons_of_mem _ List.mem_cons_self) rfl rfl rfl
    (0x230 * 8) (by unfold Field.Covers; decide)

end Table
end Register
end TileProgram
