import TileProgram.Proofs.Descriptor.Soundness
import TileProgram.Proofs.Register.Accepted

/-!
# What makes a record valid

A record is checked register by register: the strides in table order, the
formats, the selector of the activation, and last its lookup table.  A record is
valid exactly when it passes each of these checks, and otherwise the error is
that of the first check that it does not pass.
-/

namespace TileProgram

open Register

/-- A code stands for an element type when it is one of three. -/
theorem Tensor.ElementType.ofCode_eq_error_iff {text : String} {code : Nat} {error : Error} :
    ofCode text code = .error error ↔ code ∉ [0, 1, 2] ∧ error = .unsupportedType text code := by
  by_cases small : code < all.length
  · have known : code ∈ [0, 1, 2] := by
      have small : code < 3 := small
      simp only [List.mem_cons, List.not_mem_nil, or_false]
      omega
    simp [ofCode, List.getElem?_eq_getElem small, known]
  · have unknown : code ∉ [0, 1, 2] := by
      have large : ¬ code < 3 := small
      simp only [List.mem_cons, List.not_mem_nil, or_false]
      omega
    rw [ofCode, List.getElem?_eq_none (by omega)]
    simp [unknown, eq_comm]

namespace Activation.Kind

/-- A selector is found by its own code. -/
theorem code_of_ofCode? {code : Nat} {kind : Kind} (found : ofCode? code = some kind) :
    kind.code = code := by
  have inside := (List.getElem?_eq_some_iff.mp found).1
  have each : ∀ index < all.length, ∀ kind, all[index]? = some kind → kind.code = index := by
    decide
  exact each code inside kind found

/-- The selector of a code has that code. -/
theorem code_of_ofCode {code : Nat} {kind : Kind} (found : ofCode code = .ok kind) :
    kind.code = code := by
  unfold ofCode at found
  split at found
  · next known =>
      cases found
      exact code_of_ofCode? known
  · cases found

/-- Only the last code needs a lookup table. -/
theorem needsTable_eq (kind : Kind) : kind.needsTable = decide (kind.code = Kind.lut.code) := by
  cases kind <;> rfl

/-- A code stands for a selector when it is at most 31. -/
theorem ofCode_eq_error_iff {code : Nat} {error : Error} :
    ofCode code = .error error ↔ 31 < code ∧ error = .unknownActivation code := by
  by_cases small : code < all.length
  · have known : ¬ 31 < code := by
      have small : code < 32 := small
      omega
    simp [ofCode, ofCode?, List.getElem?_eq_getElem small, known]
  · have unknown : 31 < code := by
      have large : ¬ code < 32 := small
      omega
    rw [ofCode, ofCode?, List.getElem?_eq_none (by omega)]
    simp [unknown, eq_comm]

end Activation.Kind

/-- A register is found by its name. -/
theorem Register.Table.Orderly.find?_eq_some_iff
    {table : Table}
    {name : Name}
    {field : Field}
    (orderly : table.Orderly) :
    table.find? name = some field ↔ field ∈ table.fields ∧ field.name = name := by
  constructor
  · intro found
    exact ⟨List.mem_of_find?_eq_some found, by simpa using List.find?_some found⟩
  · rintro ⟨present, rfl⟩
    cases search : table.find? field.name with
    | none => exact absurd (List.find?_eq_none.mp search field present) (by simp)
    | some other =>
        have same : other.name = field.name := by simpa using List.find?_some search
        rw [orderly.eq_of_name (List.mem_of_find?_eq_some search) present same]

namespace Descriptor

/-- What is looked at when a record is checked. -/
inductive Check where
  | stride (field : Field)
  | format (name : Name)
  | selector
  | lookup

/-- The checks of the records of a table, in order. -/
def checks (table : Table) : List Check :=
  table.fields.map .stride ++
    ([.format ⟨.common, "ChCfg.InFmt"⟩, .format ⟨.common, "ChCfg.Src2InFmt"⟩,
      .format ⟨.common, "ChCfg.OutFmt"⟩] ++ [.selector, .lookup])

/-- A record does not pass a check, and the error that tells of it. -/
inductive Fails (descriptor : Descriptor) : Check → Error → Prop
  | stride
      {field : Field}
      (labelled : "Stride".toList <:+: field.name.label.toList)
      (misaligned : ¬ 0x40 ∣ field.unsigned descriptor.bits) :
      Fails descriptor (.stride field)
        (.invalidStride field.name (field.unsigned descriptor.bits))
  | format
      {field : Field}
      (present : field ∈ descriptor.table.fields)
      (unknown : field.unsigned descriptor.bits ∉ [0, 1, 2]) :
      Fails descriptor (.format field.name)
        (.unsupportedType field.name.text (field.unsigned descriptor.bits))
  | selector
      {field : Field}
      (present : field ∈ descriptor.table.fields)
      (named : field.name = ⟨.engine, "MACCfg.NonlinearMode"⟩)
      (unknown : 31 < field.unsigned descriptor.bits) :
      Fails descriptor .selector (.unknownActivation (field.unsigned descriptor.bits))
  | lookup
      {field : Field}
      (present : field ∈ descriptor.table.fields)
      (named : field.name = ⟨.engine, "MACCfg.NonlinearMode"⟩)
      (last : field.unsigned descriptor.bits = 31)
      (missing : descriptor.lookup = none) :
      Fails descriptor .lookup .missingTable

/-- The error of a single check. -/
def Check.error? (descriptor : Descriptor) : Check → Option Error
  | .stride field =>
      if field.isStride then
        if field.unsigned descriptor.bits % strideAlignment = 0 then none
        else some (.invalidStride field.name (field.unsigned descriptor.bits))
      else none
  | .format name =>
      (descriptor.table.find? name).bind fun field =>
        match Tensor.ElementType.ofCode name.text (field.unsigned descriptor.bits) with
        | .ok _ => none
        | .error error => some error
  | .selector =>
      (descriptor.table.find? Registers.activationKind).bind fun field =>
        match Activation.Kind.ofCode (field.unsigned descriptor.bits) with
        | .ok _ => none
        | .error error => some error
  | .lookup =>
      (descriptor.table.find? Registers.activationKind).bind fun field =>
        if field.unsigned descriptor.bits = Activation.Kind.lut.code ∧ descriptor.lookup = none then
          some .missingTable
        else none

variable {descriptor : Descriptor} {check : Check} {error : Error}

/-- A stride is refused when it is not a multiple of 64. -/
theorem error?_stride_iff {field : Field} :
    Check.error? descriptor (.stride field) = some error ↔
      Fails descriptor (.stride field) error := by
  rw [Check.error?]
  by_cases labelled : field.isStride = true
  · rw [if_pos labelled]
    by_cases aligned : field.unsigned descriptor.bits % strideAlignment = 0
    · rw [if_pos aligned]
      constructor
      · intro found
        cases found
      · intro fails
        cases fails with
        | stride _ misaligned => exact absurd (Nat.dvd_of_mod_eq_zero aligned) misaligned
    · rw [if_neg aligned]
      constructor
      · intro found
        cases found
        exact .stride (Field.occursIn_iff.mp labelled)
          fun divides => aligned (Nat.mod_eq_zero_of_dvd divides)
      · intro fails
        cases fails
        rfl
  · rw [if_neg labelled]
    constructor
    · intro found
      cases found
    · intro fails
      cases fails with
      | stride contains _ => exact absurd (Field.occursIn_iff.mpr contains) labelled

/-- A format is refused when its code is none of an element type. -/
theorem error?_format_iff {name : Name} (orderly : descriptor.table.Orderly) :
    Check.error? descriptor (.format name) = some error ↔
      Fails descriptor (.format name) error := by
  simp only [Check.error?, Option.bind_eq_some_iff, orderly.find?_eq_some_iff]
  constructor
  · rintro ⟨field, ⟨present, rfl⟩, found⟩
    split at found
    · cases found
    · next refused =>
        cases found
        obtain ⟨unknown, rfl⟩ := Tensor.ElementType.ofCode_eq_error_iff.mp refused
        exact .format present unknown
  · intro fails
    cases fails with
    | @format field present unknown =>
        refine ⟨field, ⟨present, rfl⟩, ?_⟩
        rw [Tensor.ElementType.ofCode_eq_error_iff.mpr ⟨unknown, rfl⟩]

/-- A selector is refused when it is above 31. -/
theorem error?_selector_iff (orderly : descriptor.table.Orderly) :
    Check.error? descriptor .selector = some error ↔ Fails descriptor .selector error := by
  simp only [Check.error?, Option.bind_eq_some_iff, orderly.find?_eq_some_iff]
  constructor
  · rintro ⟨field, ⟨present, named⟩, found⟩
    split at found
    · cases found
    · next refused =>
        cases found
        obtain ⟨unknown, rfl⟩ := Activation.Kind.ofCode_eq_error_iff.mp refused
        exact .selector present named unknown
  · intro fails
    cases fails with
    | @selector field present named unknown =>
        refine ⟨field, ⟨present, named⟩, ?_⟩
        rw [Activation.Kind.ofCode_eq_error_iff.mpr ⟨unknown, rfl⟩]

/-- The last selector is refused when no lookup table is attached. -/
theorem error?_lookup_iff (orderly : descriptor.table.Orderly) :
    Check.error? descriptor .lookup = some error ↔ Fails descriptor .lookup error := by
  simp only [Check.error?, Option.bind_eq_some_iff, orderly.find?_eq_some_iff]
  constructor
  · rintro ⟨field, ⟨present, named⟩, found⟩
    split at found
    · next missing =>
        cases found
        exact .lookup present named missing.1 missing.2
    · cases found
  · intro fails
    cases fails with
    | @lookup field present named last missing =>
        exact ⟨field, ⟨present, named⟩, if_pos ⟨last, missing⟩⟩

/-- A single check has an error exactly when the record does not pass it. -/
theorem error?_eq_some_iff (orderly : descriptor.table.Orderly) :
    check.error? descriptor = some error ↔ Fails descriptor check error := by
  cases check with
  | stride field => exact error?_stride_iff
  | format name => exact error?_format_iff orderly
  | selector => exact error?_selector_iff orderly
  | lookup => exact error?_lookup_iff orderly

/-- A single check has no error exactly when the record passes it. -/
theorem error?_eq_none_iff (orderly : descriptor.table.Orderly) :
    check.error? descriptor = none ↔ ∀ error, ¬ Fails descriptor check error := by
  simp only [← error?_eq_some_iff orderly, Option.eq_none_iff_forall_ne_some, ne_eq]

/-- The last two checks together look at the activation. -/
theorem activationError?_eq (descriptor : Descriptor) :
    descriptor.activationError? =
      (Check.selector.error? descriptor).or (Check.lookup.error? descriptor) := by
  rw [activationError?, Check.error?, Check.error?]
  cases descriptor.table.find? Registers.activationKind with
  | none => rfl
  | some field =>
      simp only [Option.bind_some]
      cases selected : Activation.Kind.ofCode (field.unsigned descriptor.bits) with
      | error error => rfl
      | ok kind =>
          have code := Activation.Kind.code_of_ofCode selected
          dsimp only
          rw [← code, Activation.Kind.needsTable_eq, Option.none_or]
          by_cases last : kind.code = Activation.Kind.lut.code
          · cases descriptor.lookup <;> simp [last]
          · simp [last]

/-- The strides are checked register by register. -/
theorem strideError?_eq (descriptor : Descriptor) :
    descriptor.strideError? =
      (descriptor.table.fields.map Check.stride).findSome? (Check.error? descriptor) := by
  rw [strideError?]
  induction descriptor.table.fields with
  | nil => rfl
  | cons field rest inductionHypothesis =>
      rw [List.map_cons, List.findSome?_cons, ← inductionHypothesis, Check.error?]
      by_cases labelled : field.isStride = true
      · rw [List.filter_cons_of_pos labelled, List.findSome?_cons, if_pos labelled]
      · rw [List.filter_cons_of_neg labelled, if_neg labelled]

/-- A record is checked by its checks one after the other. -/
theorem validate_eq_findSome? (descriptor : Descriptor) :
    descriptor.validate =
      match (checks descriptor.table).findSome? (Check.error? descriptor) with
      | some error => .error error
      | none => .ok () := by
  have formats : descriptor.formatError? =
      [Check.format ⟨.common, "ChCfg.InFmt"⟩, .format ⟨.common, "ChCfg.Src2InFmt"⟩,
        .format ⟨.common, "ChCfg.OutFmt"⟩].findSome? (Check.error? descriptor) := rfl
  have activation : descriptor.activationError? =
      [Check.selector, .lookup].findSome? (Check.error? descriptor) := by
    rw [activationError?_eq, List.findSome?_cons, List.findSome?_cons]
    cases Check.selector.error? descriptor <;> cases Check.lookup.error? descriptor <;> rfl
  have order : (checks descriptor.table).findSome? (Check.error? descriptor) =
      (descriptor.strideError?.or descriptor.formatError?).or descriptor.activationError? := by
    rw [strideError?_eq, formats, activation, checks, List.findSome?_append,
      List.findSome?_append, Option.or_assoc]
  rw [order]
  rfl

/-- A record does not pass one of its checks, and passes all checks before it. -/
def FailsFirst (descriptor : Descriptor) (error : Error) : Prop :=
  ∃ before check after, checks descriptor.table = before ++ check :: after ∧
    Fails descriptor check error ∧ ∀ earlier ∈ before, ∀ other, ¬ Fails descriptor earlier other

/-- A record is valid exactly when it passes every check. -/
theorem validate_eq_ok_iff (orderly : descriptor.table.Orderly) :
    descriptor.validate = .ok () ↔
      ∀ check ∈ checks descriptor.table, ∀ error, ¬ Fails descriptor check error := by
  simp only [← error?_eq_none_iff orderly, ← List.findSome?_eq_none_iff]
  rw [validate_eq_findSome?]
  cases (checks descriptor.table).findSome? (Check.error? descriptor) <;> simp

/-- A record is refused with the error of the first check that it does not pass. -/
theorem validate_eq_error_iff (orderly : descriptor.table.Orderly) :
    descriptor.validate = .error error ↔ FailsFirst descriptor error := by
  have found : descriptor.validate = .error error ↔
      (checks descriptor.table).findSome? (Check.error? descriptor) = some error := by
    rw [validate_eq_findSome?]
    cases (checks descriptor.table).findSome? (Check.error? descriptor) <;> simp
  rw [found, List.findSome?_eq_some_iff]
  simp only [error?_eq_some_iff orderly, error?_eq_none_iff orderly, FailsFirst]

/-- Passing every check, register by register. -/
theorem passes_iff :
    (∀ check ∈ checks descriptor.table, ∀ error, ¬ Fails descriptor check error) ↔
      (∀ field ∈ descriptor.table.fields, "Stride".toList <:+: field.name.label.toList →
        0x40 ∣ field.unsigned descriptor.bits) ∧
      (∀ field ∈ descriptor.table.fields,
        field.name ∈ [⟨.common, "ChCfg.InFmt"⟩, ⟨.common, "ChCfg.Src2InFmt"⟩,
          ⟨.common, "ChCfg.OutFmt"⟩] → field.unsigned descriptor.bits ∈ [0, 1, 2]) ∧
      ∀ field ∈ descriptor.table.fields, field.name = ⟨.engine, "MACCfg.NonlinearMode"⟩ →
        field.unsigned descriptor.bits ≤ 31 ∧
          (field.unsigned descriptor.bits = 31 → descriptor.lookup.isSome = true) := by
  constructor
  · intro passes
    have format : ∀ name, .format name ∈ checks descriptor.table →
        ∀ field ∈ descriptor.table.fields, field.name = name →
          field.unsigned descriptor.bits ∈ [0, 1, 2] := by
      rintro name member field present rfl
      by_contra unknown
      exact passes _ member _ (.format present unknown)
    refine ⟨?_, ?_, ?_⟩
    · intro field present labelled
      by_contra misaligned
      exact passes (.stride field) (by simp [checks, present]) _ (.stride labelled misaligned)
    · intro field present named
      exact format field.name (by simpa [checks] using named) field present rfl
    · intro field present named
      refine ⟨?_, ?_⟩
      · by_contra large
        exact passes .selector (by simp [checks]) _ (.selector present named (by omega))
      · intro last
        by_contra missing
        exact passes .lookup (by simp [checks]) _
          (.lookup present named last (by simpa using missing))
  · rintro ⟨strides, formats, activation⟩ check member error fails
    cases fails with
    | @stride field labelled misaligned =>
        have present : field ∈ descriptor.table.fields := by simpa [checks] using member
        exact misaligned (strides field present labelled)
    | @format field present unknown =>
        exact unknown (formats field present (by simpa [checks] using member))
    | @selector field present named unknown =>
        exact absurd (activation field present named).1 (by omega)
    | @lookup field present named last missing =>
        have attached := (activation field present named).2 last
        rw [missing] at attached
        cases attached

/-- A record of an accepted table is valid exactly when its strides are multiples of 64, its formats
are codes of element types, and its selector is one of 32 and has a lookup table if it is the last
one.  Otherwise the error is that of the first register that is not as it should be, strides in
table order before formats before the activation. -/
theorem validation_exact (accepted : descriptor.table.Accepted) :
    (descriptor.validate = .ok () ↔
      (∀ field ∈ descriptor.table.fields, "Stride".toList <:+: field.name.label.toList →
        0x40 ∣ field.unsigned descriptor.bits) ∧
      (∀ field ∈ descriptor.table.fields,
        field.name ∈ [⟨.common, "ChCfg.InFmt"⟩, ⟨.common, "ChCfg.Src2InFmt"⟩,
          ⟨.common, "ChCfg.OutFmt"⟩] → field.unsigned descriptor.bits ∈ [0, 1, 2]) ∧
      ∀ field ∈ descriptor.table.fields, field.name = ⟨.engine, "MACCfg.NonlinearMode"⟩ →
        field.unsigned descriptor.bits ≤ 31 ∧
          (field.unsigned descriptor.bits = 31 → descriptor.lookup.isSome = true)) ∧
    ∀ error, descriptor.validate = .error error ↔ FailsFirst descriptor error :=
  ⟨(validate_eq_ok_iff accepted.orderly).trans passes_iff,
    fun _ => validate_eq_error_iff accepted.orderly⟩

/-- Strides in regions of their own, one of them over a byte, only one of the formats, and a selector. -/
def uneven : Table :=
  { fields :=
      [ ⟨⟨.header, "Stride.Low"⟩, 0, 0, 7, false, false⟩,
        ⟨⟨.cache, "TapStrides"⟩, 0x1F0, 3, 9, true, false⟩,
        ⟨⟨.common, "ChCfg.Src2InFmt"⟩, 0x13C, 2, 3, false, false⟩,
        ⟨⟨.engine, "MACCfg.NonlinearMode"⟩, 0x232, 0, 6, false, false⟩ ] }

/-- The bits of a record from a given bit on. -/
def bitsAt (position value : Nat) : Record :=
  BitVec.ofNat _ value <<< position

/-- A record with an aligned stride, one that is not, an unknown format and the last selector. -/
def crooked : Descriptor :=
  ⟨uneven, bitsAt 0 64 ||| bitsAt 0xF83 65 ||| bitsAt 0x9E2 5 ||| bitsAt 0x1190 31, none⟩

/-- Of its three defects the stride is reported. -/
theorem crooked_refused :
    uneven.Accepted ∧ crooked.validate = .error (.invalidStride ⟨.cache, "TapStrides"⟩ 65) := by
  have accepted : uneven.Accepted := Or.inl ⟨uneven.fields, by cbv⟩
  let low : Field := ⟨⟨.header, "Stride.Low"⟩, 0, 0, 7, false, false⟩
  let taps : Field := ⟨⟨.cache, "TapStrides"⟩, 0x1F0, 3, 9, true, false⟩
  have aligned : low.unsigned crooked.bits = 64 := by decide +kernel
  have misaligned : taps.unsigned crooked.bits = 65 := by decide +kernel
  have fails : Fails crooked (.stride taps) (.invalidStride taps.name 65) := by
    rw [← misaligned]
    refine .stride ⟨"Tap".toList, "s".toList, by decide⟩ ?_
    rw [misaligned]
    decide
  refine ⟨accepted, ((@validation_exact crooked accepted).2 _).mpr
    ⟨[.stride low], .stride taps, (checks uneven).drop 2, rfl, fails, ?_⟩⟩
  intro earlier member other earlierFails
  rw [List.mem_singleton] at member
  subst member
  cases earlierFails with
  | stride _ uneven =>
      rw [aligned] at uneven
      exact uneven (by decide)

end Descriptor
end TileProgram
