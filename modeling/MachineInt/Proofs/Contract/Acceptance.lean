import MachineInt.Contract.Content
import MachineInt.Proofs.Contract.Report

/-!
# What the contracts accept

A contract says in keywords what can be said of the datum at once. The one for words accepts the objects with a width
and a value in its range and nothing else; the one for readings accepts successes and failures and no mixture of the
two. The conditions inside them do not weaken that: where the field they test is missing, the datum is refused for it.
-/

namespace MachineInt.Contract

/-! ## Verdicts -/

/-- However the built-in contract is asked about the datum, for the violations, for the truth value, for the violation
to be raised or for the messages, it has nothing against it just on this condition. -/
def AcceptedIff (contract : String) (datum : Json) (condition : Prop) : Prop :=
  ∃ assessment : Assessment,
    (∀ path builtInPath : String,
      ((Store.new path builtInPath).run (.check contract datum)).1 = .ok (.assessment assessment)) ∧
    (assessment.violations = [] ↔ condition) ∧ (assessment.isValid = true ↔ condition) ∧
    (assessment.first? = none ↔ condition) ∧ (assessment.messages = [] ↔ condition)

theorem isValid_iff (assessment : Assessment) : assessment.isValid = true ↔ assessment.violations = [] :=
  List.isEmpty_iff

theorem first?_eq_none_iff (assessment : Assessment) : assessment.first? = none ↔ assessment.violations = [] :=
  List.head?_eq_none_iff

theorem messages_eq_nil_iff (assessment : Assessment) : assessment.messages = [] ↔ assessment.violations = [] := by
  rw [Assessment.messages, List.map_eq_nil_iff, ← List.length_eq_zero_iff, List.length_mergeSort,
    List.length_eq_zero_iff]

theorem acceptedIff_of_schema {contract : String} {schema : Schema} {datum : Json} {condition : Prop}
    (checked : ∀ path builtInPath : String,
      ((Store.new path builtInPath).run (.check contract datum)).1 = .ok (.assessment ⟨schema.check datum⟩))
    (clean : schema.check datum = [] ↔ condition) : AcceptedIff contract datum condition := by
  refine ⟨⟨schema.check datum⟩, checked, clean, ?_, ?_, ?_⟩
  · rwa [isValid_iff]
  · rwa [first?_eq_none_iff]
  · rwa [messages_eq_nil_iff]

/-! ## Fields -/

/-- The names in the object are these. -/
def HasExactly (names : List String) (fields : List (String × Json)) : Prop :=
  ∀ name, (∃ datum, (name, datum) ∈ fields) ↔ name ∈ names

theorem exists_field?_iff (fields : List (String × Json)) (name : String) :
    (∃ datum, Json.field? fields name = some datum) ↔ ∃ datum, (name, datum) ∈ fields := by
  rw [← Option.ne_none_iff_exists', Json.field?, ne_eq, List.lookup_eq_none_iff]
  simp only [bne_iff_ne, ne_eq, Prod.forall, not_forall, not_not, exists_prop]
  constructor
  · rintro ⟨_, datum, member, rfl⟩
    exact ⟨datum, member⟩
  · rintro ⟨datum, member⟩
    exact ⟨name, datum, member, rfl⟩

/-- Known fields alone, and all that are required. -/
theorem hasExactly_iff (names : List String) (fields : List (String × Json)) :
    HasExactly names fields ↔
      (∀ entry ∈ fields, entry.1 ∈ names) ∧ ∀ name ∈ names, ∃ datum, Json.field? fields name = some datum := by
  simp only [exists_field?_iff]
  constructor
  · intro exactly
    exact ⟨fun entry member => (exactly entry.1).mp ⟨entry.2, member⟩, fun name => (exactly name).mpr⟩
  · rintro ⟨known, required⟩ name
    exact ⟨fun ⟨datum, member⟩ => known (name, datum) member, required name⟩

theorem HasInteger.exists_field? {fields : List (String × Json)} {name : String} {value : Int}
    (held : HasInteger fields name value) : ∃ datum, Json.field? fields name = some datum := by
  obtain ⟨number, found, _⟩ := held
  exact ⟨.number number, found⟩

/-! ## Words -/

/-- An object of a width and a value in its range. -/
def IsWord (datum : Json) : Prop :=
  ∃ fields, datum = .object fields ∧ HasExactly ["width", "value"] fields ∧
    ∃ width value : Int, HasInteger fields "width" width ∧ HasInteger fields "value" value ∧
      (width = 8 ∨ width = 16 ∨ width = 32) ∧ -2 ^ (width.toNat - 1) ≤ value ∧ value ≤ 2 ^ (width.toNat - 1) - 1

theorem wordSchema_holds_iff_isWord (datum : Json) : wordSchema.Holds datum ↔ IsWord datum := by
  rw [wordSchema_holds_iff]
  constructor
  · rintro ⟨fields, rfl, known, size, value, isWidth, isValue, fits⟩
    have exactly : HasExactly ["width", "value"] fields :=
      (hasExactly_iff ..).mpr ⟨known, by simp [isWidth.exists_field?, isValue.exists_field?]⟩
    exact ⟨fields, rfl, exactly, size.bits, value, isWidth, isValue, (Width.exists_bits_iff _).mp ⟨size, rfl⟩,
      (fits_iff_pow size.bits value).mp fits⟩
  · rintro ⟨fields, rfl, exactly, width, value, isWidth, isValue, supported, range⟩
    obtain ⟨size, rfl⟩ := (Width.exists_bits_iff width).mpr supported
    exact ⟨fields, rfl, ((hasExactly_iff ..).mp exactly).1, size, value, isWidth, isValue,
      (fits_iff_pow size.bits value).mpr range⟩

/-- No checker that takes the demands for what they say has anything against a word, or nothing against any other
datum. -/
theorem checks_wordSchema_iff {check : Schema → Json → List Violation} (checks : Schema.Checks check) (datum : Json) :
    check wordSchema datum = [] ↔ IsWord datum :=
  (checks.eq_nil_iff wordSchema datum).trans (wordSchema_holds_iff_isWord datum)

/-- The contract for words accepts the words, and nothing else. -/
theorem wordContract_accepts (datum : Json) : AcceptedIff wordContractName datum (IsWord datum) :=
  acceptedIff_of_schema (fun _ _ => rfl) (checks_wordSchema_iff Schema.checks_check datum)

/-! ## Readings -/

/-- An object of a success, with a value and no error, or of a failure, with an error and no value. -/
def IsOutcome (datum : Json) : Prop :=
  ∃ fields, datum = .object fields ∧ HasExactly ["ok", "value", "error", "details"] fields ∧
    (∃ text, Json.field? fields "details" = some (.string text)) ∧
    ((Json.field? fields "ok" = some (.bool true) ∧
        (∃ value : Int, HasInteger fields "value" value ∧ -2 ^ 31 ≤ value ∧ value ≤ 2 ^ 31 - 1) ∧
        Json.field? fields "error" = some .null) ∨
      (Json.field? fields "ok" = some (.bool false) ∧ Json.field? fields "value" = some .null ∧
        ∃ kind ∈ FailureKind.all, Json.field? fields "error" = some (.string kind.name)))

/-- What the bounds allow of an integer. -/
theorem bounded_integer_iff (bits : Nat) (datum : Json) :
    (Kind.integer.admits datum = true ∧
        (∀ number, datum = .number number → number.order (.int (minValue bits)) ≠ some .lt) ∧
        ∀ number, datum = .number number → number.order (.int (maxValue bits)) ≠ some .gt) ↔
      ∃ (number : Number) (value : Int), datum = .number number ∧ number.IsInt value ∧ Fits bits value := by
  rw [admits_integer_iff]
  constructor
  · rintro ⟨⟨number, value, rfl, integral⟩, low, high⟩
    exact ⟨number, value, rfl, integral, (bounds_iff_fits integral bits).mp ⟨low number rfl, high number rfl⟩⟩
  · rintro ⟨number, value, rfl, integral, fits⟩
    obtain ⟨low, high⟩ := (bounds_iff_fits integral bits).mpr fits
    refine ⟨⟨number, value, rfl, integral⟩, ?_, ?_⟩
    · rintro _ ⟨⟩
      exact low
    · rintro _ ⟨⟩
      exact high

theorem reportSchema_fields {datum : Json} (holds : reportSchema.Holds datum) :
    ∃ fields, datum = .object fields ∧
      ∀ name ∈ ["ok", "value", "error", "details"], ∃ held, Json.field? fields name = some held := by
  have parts := (Schema.holdsEach_iff _ datum).mp holds
  have object := parts _ List.mem_cons_self
  have required := parts _ (List.mem_cons_of_mem _ (List.mem_cons_of_mem _ List.mem_cons_self))
  simp only [Schema.Holds, List.mem_singleton, exists_eq_left, admits_object_iff] at object
  obtain ⟨fields, rfl⟩ := object
  exact ⟨fields, rfl, required fields rfl⟩

section

variable {fields : List (String × Json)} {ok value error details : Json} (hasOk : Json.field? fields "ok" = some ok)
  (hasValue : Json.field? fields "value" = some value) (hasError : Json.field? fields "error" = some error)
  (hasDetails : Json.field? fields "details" = some details)
include hasOk hasValue hasError hasDetails

/-- Of four fields the schema leaves two cases, by the truth value. -/
theorem reportSchema_object_cases :
    reportSchema.Holds (.object fields) ↔
      (∀ entry ∈ fields, entry.1 ∈ ["ok", "value", "error", "details"]) ∧ (∃ text, details = .string text) ∧
      ((ok = .bool true ∧
          (∃ (number : Number) (held : Int), value = .number number ∧ number.IsInt held ∧ Fits 32 held) ∧
          error = .null) ∨
        (ok = .bool false ∧ value = .null ∧ ∃ kind : FailureKind, error = .string kind.name)) := by
  rw [reportSchema_object_iff hasOk hasValue hasError hasDetails]
  constructor
  · rintro ⟨known, ⟨truth, rfl⟩, ⟨_, low, high⟩, kinds, text, succeeded, failed⟩
    refine ⟨known, text, ?_⟩
    cases truth with
    | true =>
      obtain ⟨integer, none⟩ := succeeded rfl
      exact .inl ⟨rfl, (bounded_integer_iff 32 value).mp ⟨integer, low, high⟩, none⟩
    | false =>
      -- The error is a text, so of what is listed it is no null.
      obtain ⟨none, name, rfl⟩ := failed (by simp)
      rcases kinds with kind | null
      · exact .inr ⟨rfl, none, kind⟩
      · cases null
  · rintro ⟨known, text, ⟨rfl, bounded, rfl⟩ | ⟨rfl, rfl, kind, rfl⟩⟩
    · obtain ⟨integer, bounds⟩ := (bounded_integer_iff 32 value).mpr bounded
      exact ⟨known, ⟨true, rfl⟩, ⟨.inl integer, bounds⟩, .inr rfl, text, fun _ => ⟨integer, rfl⟩,
        fun failed => absurd rfl failed⟩
    · refine ⟨known, ⟨false, rfl⟩, ⟨.inr rfl, ?_, ?_⟩, .inl ⟨kind, rfl⟩, text, ?_, fun _ => ⟨rfl, kind.name, rfl⟩⟩
      · rintro _ ⟨⟩
      · rintro _ ⟨⟩
      · rintro ⟨⟩

end

/-- An object with all the fields that are required is an outcome just when the schema holds of it. -/
theorem reportSchema_object_iff_isOutcome {fields : List (String × Json)}
    (required : ∀ name ∈ ["ok", "value", "error", "details"], ∃ held, Json.field? fields name = some held) :
    reportSchema.Holds (.object fields) ↔ IsOutcome (.object fields) := by
  obtain ⟨ok, hasOk⟩ := required "ok" (by simp)
  obtain ⟨value, hasValue⟩ := required "value" (by simp)
  obtain ⟨error, hasError⟩ := required "error" (by simp)
  obtain ⟨details, hasDetails⟩ := required "details" (by simp)
  have exactly : HasExactly ["ok", "value", "error", "details"] fields ↔
      ∀ entry ∈ fields, entry.1 ∈ ["ok", "value", "error", "details"] := by
    rw [hasExactly_iff]
    exact and_iff_left required
  have held : (∃ number : Int, HasInteger fields "value" number ∧ -2 ^ 31 ≤ number ∧ number ≤ 2 ^ 31 - 1) ↔
      ∃ (number : Number) (held : Int), value = .number number ∧ number.IsInt held ∧ Fits 32 held := by
    simp only [HasInteger, hasValue, Option.some.injEq, fits_iff_pow]
    constructor
    · rintro ⟨held, ⟨number, same, integral⟩, range⟩
      exact ⟨number, held, same, integral, range⟩
    · rintro ⟨number, held, same, integral, range⟩
      exact ⟨held, ⟨number, same, integral⟩, range⟩
  rw [reportSchema_object_cases hasOk hasValue hasError hasDetails, ← exactly, ← held]
  simp only [IsOutcome, Json.object.injEq, exists_eq_left', hasOk, hasValue, hasError, hasDetails, Option.some.injEq,
    FailureKind.mem_all, true_and]

theorem reportSchema_holds_iff_isOutcome (datum : Json) : reportSchema.Holds datum ↔ IsOutcome datum := by
  constructor
  · intro holds
    obtain ⟨fields, rfl, required⟩ := reportSchema_fields holds
    exact (reportSchema_object_iff_isOutcome required).mp holds
  · intro outcome
    obtain ⟨fields, rfl, exactly, _⟩ := id outcome
    exact (reportSchema_object_iff_isOutcome ((hasExactly_iff ..).mp exactly).2).mpr outcome

/-- Reports of any integers may be made, but only those of words are outcomes. -/
theorem isOutcome_success_iff (value : Int) : IsOutcome (Report.success value).toJson ↔ Fits 32 value := by
  rw [← reportSchema_holds_iff_isOutcome, Report.toJson, reportSchema_object_cases rfl rfl rfl rfl]
  constructor
  · rintro ⟨_, _, ⟨_, ⟨_, held, ⟨⟩, integral, fits⟩, _⟩ | ⟨⟨⟩, _⟩⟩
    rwa [(Number.isInt_int_iff value held).mp integral]
  · intro fits
    have integral := (Number.isInt_int_iff value value).mpr rfl
    exact ⟨by simp, ⟨"", rfl⟩, .inl ⟨rfl, ⟨_, value, rfl, integral, fits⟩, rfl⟩⟩

theorem isOutcome_failure (kind : FailureKind) (details : String) :
    IsOutcome (Report.failure kind details).toJson := by
  rw [← reportSchema_holds_iff_isOutcome, Report.toJson, reportSchema_object_cases rfl rfl rfl rfl]
  exact ⟨by simp, ⟨details, rfl⟩, .inr ⟨rfl, rfl, kind, rfl⟩⟩

theorem checks_reportSchema_iff {check : Schema → Json → List Violation} (checks : Schema.Checks check) (datum : Json) :
    check reportSchema datum = [] ↔ IsOutcome datum :=
  (checks.eq_nil_iff reportSchema datum).trans (reportSchema_holds_iff_isOutcome datum)

/-- The contract for readings accepts the outcomes, and nothing else. Of the reports that can be made, those of failures
are all accepted, and those of successes where the value is a word. -/
theorem reportContract_accepts :
    (∀ datum, AcceptedIff reportContractName datum (IsOutcome datum)) ∧
    (∀ value : Int, AcceptedIff reportContractName (Report.success value).toJson (Fits 32 value)) ∧
    ∀ (kind : FailureKind) (details : String),
      AcceptedIff reportContractName (Report.failure kind details).toJson True := by
  have clean := checks_reportSchema_iff Schema.checks_check
  refine ⟨?_, ?_, ?_⟩
  · intro datum
    exact acceptedIff_of_schema (fun _ _ => rfl) (clean datum)
  · intro value
    exact acceptedIff_of_schema (fun _ _ => rfl) ((clean _).trans (isOutcome_success_iff value))
  · intro kind details
    exact acceptedIff_of_schema (fun _ _ => rfl) ((clean _).trans (iff_true_intro (isOutcome_failure kind details)))

end MachineInt.Contract
