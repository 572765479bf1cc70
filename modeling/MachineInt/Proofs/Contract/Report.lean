import MachineInt.Proofs.Contract.Word
import MachineInt.Proofs.Numeral.Details

/-!
# The contract for readings

Whatever a reading is given, what is published of it is one of two things: a 32-bit word with no error and nothing to
say, or a kind of failure with details and no value. Both obey the contract for readings. But not everything is
published: a failure that has an integer of more than 4300 digits to name cannot be put into words.
-/

namespace MachineInt.Contract

/-! ## The schema -/

def reportSchema : Schema :=
  .every [
    .ofKind [.object],
    .closed ["ok", "value", "error", "details"],
    .required ["ok", "value", "error", "details"],
    .field "ok" (.every [.ofKind [.boolean]]),
    .field "value" (.every [.ofKind [.integer, .null], .atLeast (.int (minValue 32)), .atMost (.int (maxValue 32))]),
    .field "error" (.every [.among (FailureKind.all.map (fun kind => .string kind.name) ++ [.null])]),
    .field "details" (.every [.ofKind [.string]]),
    .choice (.every [.field "ok" (.every [.exactly (.bool true)])])
      (.every [.field "value" (.every [.ofKind [.integer]]), .field "error" (.every [.exactly .null])])
      (.every [.field "value" (.every [.exactly .null]), .field "error" (.every [.ofKind [.string]])])]

/-- The errors that are written in the contract are the names of all kinds of failure, and null. -/
theorem errors_eq : errors = FailureKind.all.map (fun kind => .string kind.name) ++ [.null] := rfl

/-- The bounds that are written there are those of 32-bit words. -/
theorem valueRule_eq :
    valueRule = .object [
      ("type", .array [.string "integer", .string "null"]),
      ("minimum", .int (minValue 32)),
      ("maximum", .int (maxValue 32))] := rfl

theorem ofJson_reportContract : Schema.ofJson reportContract = .ok reportSchema := by
  rw [reportContract, errors_eq, valueRule_eq]
  rfl

/-! ## Its demands -/

theorem admits_boolean_iff (datum : Json) : Kind.boolean.admits datum = true ↔ ∃ value, datum = .bool value := by
  cases datum <;> simp [Kind.admits]

theorem admits_null_iff (datum : Json) : Kind.null.admits datum = true ↔ datum = .null := by
  cases datum <;> simp [Kind.admits]

theorem admits_string_iff (datum : Json) : Kind.string.admits datum = true ↔ ∃ text, datum = .string text := by
  cases datum <;> simp [Kind.admits]

theorem same_bool_iff (datum : Json) (value : Bool) : datum.same (.bool value) = true ↔ datum = .bool value := by
  cases datum <;> simp [Json.same]

theorem same_null_iff (datum : Json) : datum.same .null = true ↔ datum = .null := by
  cases datum <;> simp [Json.same]

theorem same_string_iff (text : String) (datum : Json) :
    (Json.string text).same datum = true ↔ datum = .string text := by
  cases datum with
  | string other => simpa [Json.same] using eq_comm
  | null | bool | number | array | object => simp [Json.same]

/-- The kinds of failure by name, and null where there is none. -/
theorem among_errors_iff (datum : Json) :
    (∃ expected ∈ FailureKind.all.map (fun kind => Json.string kind.name) ++ [.null], expected.same datum = true) ↔
      (∃ kind : FailureKind, datum = .string kind.name) ∨ datum = .null := by
  have none : Json.null.same datum = true ↔ datum = .null := by cases datum <;> simp [Json.same]
  simp only [List.mem_append, List.mem_map, List.mem_singleton, or_and_right, exists_or, exists_eq_left, none]
  simp only [FailureKind.mem_all, true_and, exists_exists_eq_and, same_string_iff]

/-- The fields of a report, one by one and then by whether it succeeded. -/
theorem reportSchema_object_iff {fields : List (String × Json)} {ok value error details : Json}
    (hasOk : Json.field? fields "ok" = some ok) (hasValue : Json.field? fields "value" = some value)
    (hasError : Json.field? fields "error" = some error) (hasDetails : Json.field? fields "details" = some details) :
    reportSchema.Holds (.object fields) ↔
      (∀ entry ∈ fields, entry.1 ∈ ["ok", "value", "error", "details"]) ∧ (∃ truth, ok = .bool truth) ∧
      ((Kind.integer.admits value = true ∨ value = .null) ∧
        (∀ number, value = .number number → number.order (.int (minValue 32)) ≠ some .lt) ∧
        ∀ number, value = .number number → number.order (.int (maxValue 32)) ≠ some .gt) ∧
      ((∃ kind : FailureKind, error = .string kind.name) ∨ error = .null) ∧ (∃ text, details = .string text) ∧
      (ok = .bool true → Kind.integer.admits value = true ∧ error = .null) ∧
      (¬ ok = .bool true → value = .null ∧ ∃ text, error = .string text) := by
  have kinds : (∃ kind ∈ [Kind.integer, .null], kind.admits value = true) ↔
      Kind.integer.admits value = true ∨ value = .null := by
    simp only [List.mem_cons, List.not_mem_nil, or_false, or_and_right, exists_or, exists_eq_left, admits_null_iff]
  simp only [reportSchema, Schema.Holds, Schema.HoldsEach, Json.object.injEq, forall_eq', hasOk, hasValue, hasError,
    hasDetails, Option.some.injEq, among_errors_iff, kinds, List.forall_mem_cons, List.mem_singleton, exists_eq',
    exists_eq_left, forall_eq, admits_object_iff, admits_boolean_iff, admits_string_iff, same_bool_iff, same_null_iff,
    and_true, true_and]

/-! ## What is published -/

theorem obeys_success {value : Int} (fits : Fits 32 value) : Obeys reportContract (Report.success value).toJson := by
  have integral := (Number.isInt_int_iff value value).mpr rfl
  have integer : Kind.integer.admits (.int value) = true := (admits_integer_iff _).mpr ⟨_, _, rfl, integral⟩
  obtain ⟨low, high⟩ := (bounds_iff_fits integral 32).mpr fits
  rw [obeys_iff_holds ofJson_reportContract, Report.toJson, reportSchema_object_iff rfl rfl rfl rfl]
  refine ⟨by simp, ⟨true, rfl⟩, ⟨.inl integer, ?_, ?_⟩, .inr rfl, ⟨"", rfl⟩, ?_, ?_⟩
  · rintro _ ⟨⟩
    exact low
  · rintro _ ⟨⟩
    exact high
  · intro _
    exact ⟨integer, rfl⟩
  · intro failed
    exact absurd rfl failed

theorem obeys_failure (kind : FailureKind) (details : String) :
    Obeys reportContract (Report.failure kind details).toJson := by
  rw [obeys_iff_holds ofJson_reportContract, Report.toJson, reportSchema_object_iff rfl rfl rfl rfl]
  refine ⟨by simp, ⟨false, rfl⟩, ⟨.inr rfl, ?_, ?_⟩, .inl ⟨kind, rfl⟩, ⟨details, rfl⟩, ?_, ?_⟩
  -- A failure has no value that a bound could speak of, and it is no success.
  · rintro _ ⟨⟩
  · rintro _ ⟨⟩
  · rintro ⟨⟩
  · intro _
    exact ⟨rfl, kind.name, rfl⟩

/-- The two things that are published of a reading. -/
def Outcome (published : Json) : Prop :=
  (∃ value : Int, -2 ^ 31 ≤ value ∧ value ≤ 2 ^ 31 - 1 ∧
    published = .object [("ok", .bool true), ("value", .int value), ("error", .null), ("details", .string "")]) ∨
  ∃ kind ∈ FailureKind.all, ∃ details ≠ "",
    published =
      .object [("ok", .bool false), ("value", .null), ("error", .string kind.name), ("details", .string details)]

theorem outcome_ofReading (call : Call) :
    Outcome (Report.ofReading call.answer).toJson ∧ Obeys reportContract (Report.ofReading call.answer).toJson := by
  cases read : call.answer with
  | ok value =>
    have fits := Call.answer_fits read
    refine ⟨.inl ⟨value, ?_, ?_, rfl⟩, obeys_success fits⟩
    · exact fits.1
    · exact Int.le_sub_one_of_lt fits.2
  | error cause =>
    exact ⟨.inr ⟨cause.kind, cause.kind.mem_all, cause.message, cause.message_ne_empty, rfl⟩, obeys_failure _ _⟩

/-- What is reported of a call is a success with a 32-bit value, no error and no details or a failure with no value, a
kind and details, and either way it obeys the contract. A call is stopped without a report just when it fails and the
details of the failure name an integer of more than 4300 digits. As long as there are not that many symbols to read, it
can be told beforehand which calls these are. -/
theorem call_reported (call : Call) :
    (∀ report, call.report = .ok report → Outcome report.toJson ∧ Obeys reportContract report.toJson) ∧
    (∀ trap, call.report = .error trap ↔
      ∃ cause given, call.answer = .error cause ∧ cause.details = .error given ∧ trap = .unwritable given) ∧
    ((∃ trap, call.report = .error trap) ↔
      ∃ cause, call.answer = .error cause ∧ ∃ value ∈ cause.named, IsLong value) ∧
    (call.length < 10 ^ 4300 → ((∃ trap, call.report = .error trap) ↔ call.AsksLong)) := by
  refine ⟨?_, call.report_eq_error_iff, call.exists_trap_iff, ?_⟩
  · intro report published
    obtain ⟨_, rfl⟩ := (call.report_eq_ok_iff report).mp published
    exact outcome_ofReading call
  · intro short
    rw [call.exists_trap_iff, call.namesLong_answer_iff short]

/-- Three calls without a report: a radix that is too long for its own refusal, one that is refused after there turn out
to be no digits, and a bound that is. -/
theorem call_reported_long :
    (Call.signed (some "1") (2 ^ 14285 - 1)).report = .error (.unwritable ⟨2 ^ 14285 - 1⟩) ∧
    (Call.unsigned (some "") (10 ^ 4300)).report = .error (.unwritable ⟨10 ^ 4300⟩) ∧
    (Call.signedPart (some (symbols "7")) 0 (10 ^ 4300) 10).report = .error (.unwritable ⟨10 ^ 4300⟩) := by
  decide +kernel

end MachineInt.Contract
