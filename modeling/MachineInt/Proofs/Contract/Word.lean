import MachineInt.Proofs.Contract.Assessment
import MachineInt.Proofs.Word.Data

/-!
# The contract for words

The contract and the validation of words are written apart from each other, the one with decimal bounds under a
condition for each width, the other with the range that the width itself gives. They draw the same line, whichever
checker that takes the demands of a schema for what they say reads the one, and whichever intake that takes numbers for
what they are feeds the other.
-/

namespace MachineInt.Contract

/-! ## The schema -/

/-- The demand on the value where the width is `width`. -/
def rangeSchema (width : Width) : Schema :=
  .every [.choice (.every [.field "width" (.every [.exactly (.int width.bits)])])
    (.every [.field "value"
      (.every [.atLeast (.int (minValue width.bits)), .atMost (.int (maxValue width.bits))])])
    .anything]

def wordSchema : Schema :=
  .every [
    .ofKind [.object],
    .closed ["width", "value"],
    .required ["width", "value"],
    .field "width" (.every [.ofKind [.integer], .among (Width.all.map fun width => .int width.bits)]),
    .field "value" (.every [.ofKind [.integer]]),
    .every (Width.all.map rangeSchema)]

/-- The widths that are written in the contract are all that there are, -/
theorem widths_eq : widths = Width.all.map fun width => .int width.bits := rfl

/-- and the bounds that are written there are those of the widths. -/
theorem rangeRules_eq :
    rangeRules = Width.all.map fun width => rangeRule width.bits (minValue width.bits) (maxValue width.bits) := rfl

theorem ofJson_wordContract : Schema.ofJson wordContract = .ok wordSchema := by
  rw [wordContract, widths_eq, rangeRules_eq]
  rfl

/-! ## Its demands -/

/-- The field holds a number that is this integer. -/
def HasInteger (fields : List (String × Json)) (name : String) (value : Int) : Prop :=
  ∃ number : Number, Json.field? fields name = some (.number number) ∧ number.IsInt value

theorem admits_integer_iff (datum : Json) :
    Kind.integer.admits datum = true ↔
      ∃ (number : Number) (value : Int), datum = .number number ∧ number.IsInt value := by
  cases datum with
  | number number => simp [Kind.admits, Number.isInt_iff, Option.isSome_iff_exists]
  | null | bool | string | array | object => simp [Kind.admits]

theorem admits_object_iff (datum : Json) : Kind.object.admits datum = true ↔ ∃ fields, datum = .object fields := by
  cases datum <;> simp [Kind.admits]

theorem same_int_iff (datum : Json) (value : Int) :
    (Json.int value).same datum = true ↔ ∃ number : Number, datum = .number number ∧ number.IsInt value := by
  cases datum with
  | number number => simp [Json.int, Json.same, Number.int_order_eq_iff]
  | null | bool | string | array | object => simp [Json.int, Json.same]

theorem same_int_right_iff (datum : Json) (value : Int) :
    datum.same (.int value) = true ↔ ∃ number : Number, datum = .number number ∧ number.IsInt value := by
  cases datum with
  | number number => simp [Json.int, Json.same, Number.IsInt]
  | null | bool | string | array | object => simp [Json.int, Json.same]

/-- The bounds of a width say of an integer that it is a word. -/
theorem bounds_iff_fits {number : Number} {value : Int} (integral : number.IsInt value) (bits : Nat) :
    number.order (.int (minValue bits)) ≠ some .lt ∧ number.order (.int (maxValue bits)) ≠ some .gt ↔
      Fits bits value := by
  rw [integral.order_int, integral.order_int, ne_eq, ne_eq, Option.some.injEq, Option.some.injEq,
    compare_lt_iff_lt, compare_gt_iff_gt, Fits, minValue, maxValue]
  omega

theorem rangeSchema_holds_iff {fields : List (String × Json)} {width value : Int}
    (given : HasInteger fields "width" width) (number : HasInteger fields "value" value) (size : Width) :
    (rangeSchema size).Holds (.object fields) ↔ (width = size.bits → Fits size.bits value) := by
  obtain ⟨first, foundWidth, isWidth⟩ := given
  obtain ⟨second, foundValue, isValue⟩ := number
  have tested : first.IsInt size.bits ↔ width = size.bits :=
    ⟨isWidth.unique, fun equal => equal ▸ isWidth⟩
  rw [← bounds_iff_fits isValue, ← tested]
  simp [rangeSchema, Schema.Holds, Schema.HoldsEach, foundWidth, foundValue, same_int_right_iff]

/-- A field that must be there and hold an integer holds one. -/
theorem integer_field_iff (fields : List (String × Json)) (name : String) :
    ((∃ datum, Json.field? fields name = some datum) ∧
      ∀ datum, Json.field? fields name = some datum → Kind.integer.admits datum = true) ↔
    ∃ value, HasInteger fields name value := by
  constructor
  · rintro ⟨⟨datum, found⟩, integers⟩
    obtain ⟨number, value, rfl, integral⟩ := (admits_integer_iff datum).mp (integers datum found)
    exact ⟨value, number, found, integral⟩
  · rintro ⟨value, number, found, integral⟩
    refine ⟨⟨.number number, found⟩, ?_⟩
    intro datum same
    rw [found] at same
    cases same
    exact (admits_integer_iff _).mpr ⟨number, value, rfl, integral⟩

/-- An integer that is one of the widths. -/
theorem listed_field_iff {fields : List (String × Json)} {width : Int} (given : HasInteger fields "width" width) :
    (∀ datum, Json.field? fields "width" = some datum →
      ∃ expected ∈ Width.all.map fun size => Json.int size.bits, expected.same datum = true) ↔
    ∃ size : Width, width = size.bits := by
  obtain ⟨number, found, isWidth⟩ := given
  rw [found]
  constructor
  · intro listed
    obtain ⟨_, member, same⟩ := listed _ rfl
    obtain ⟨size, _, rfl⟩ := List.mem_map.mp member
    obtain ⟨_, ⟨⟩, isBits⟩ := (same_int_iff _ _).mp same
    exact ⟨size, isWidth.unique isBits⟩
  · rintro ⟨size, rfl⟩ _ ⟨⟩
    have same := (same_int_iff (.number number) size.bits).mpr ⟨number, rfl, isWidth⟩
    exact ⟨.int size.bits, List.mem_map.mpr ⟨size, size.mem_all, rfl⟩, same⟩

/-- The parts of the schema, as demands on the fields of an object. -/
theorem wordSchema_object_iff (fields : List (String × Json)) :
    wordSchema.Holds (.object fields) ↔
      (∀ entry ∈ fields, entry.1 ∈ ["width", "value"]) ∧
      ((∃ datum, Json.field? fields "width" = some datum) ∧ ∃ datum, Json.field? fields "value" = some datum) ∧
      (∀ datum, Json.field? fields "width" = some datum → Kind.integer.admits datum = true ∧
        ∃ expected ∈ Width.all.map fun size => Json.int size.bits, expected.same datum = true) ∧
      (∀ datum, Json.field? fields "value" = some datum → Kind.integer.admits datum = true) ∧
      ∀ size ∈ Width.all, (rangeSchema size).Holds (.object fields) := by
  simp only [wordSchema, Schema.Holds, Schema.HoldsEach, Schema.holdsEach_iff, List.forall_mem_map,
    List.forall_mem_cons, List.mem_singleton, exists_eq_left, Json.object.injEq, forall_eq, forall_eq',
    admits_object_iff, exists_eq', and_true, true_and]

/-- The contract asks for an object of two fields: a width that there are words of, and a value in its range. -/
theorem wordSchema_holds_iff (datum : Json) :
    wordSchema.Holds datum ↔
      ∃ fields, datum = .object fields ∧ (∀ entry ∈ fields, entry.1 ∈ ["width", "value"]) ∧
        ∃ (size : Width) (value : Int), HasInteger fields "width" size.bits ∧ HasInteger fields "value" value ∧
          Fits size.bits value := by
  constructor
  · intro holds
    obtain ⟨fields, rfl⟩ : ∃ fields, datum = .object fields := by
      rw [← admits_object_iff]
      simpa [Schema.Holds] using (Schema.holdsEach_iff _ datum).mp holds _ List.mem_cons_self
    obtain ⟨closed, ⟨hasWidth, hasValue⟩, widths, values, ranges⟩ := (wordSchema_object_iff fields).mp holds
    obtain ⟨width, isWidth⟩ := (integer_field_iff ..).mp ⟨hasWidth, fun datum found => (widths datum found).1⟩
    obtain ⟨value, isValue⟩ := (integer_field_iff ..).mp ⟨hasValue, values⟩
    obtain ⟨size, rfl⟩ := (listed_field_iff isWidth).mp fun datum found => (widths datum found).2
    -- Of the conditions on the value, the one for this width applies.
    have fits := (rangeSchema_holds_iff isWidth isValue size).mp (ranges size size.mem_all) rfl
    exact ⟨fields, rfl, closed, size, value, isWidth, isValue, fits⟩
  · rintro ⟨fields, rfl, closed, size, value, isWidth, isValue, fits⟩
    obtain ⟨hasWidth, widths⟩ := (integer_field_iff fields "width").mpr ⟨_, isWidth⟩
    obtain ⟨hasValue, values⟩ := (integer_field_iff fields "value").mpr ⟨_, isValue⟩
    have among := (listed_field_iff isWidth).mpr ⟨size, rfl⟩
    refine (wordSchema_object_iff fields).mpr ⟨closed, ⟨hasWidth, hasValue⟩, ?_, values, ?_⟩
    · intro datum found
      exact ⟨widths datum found, among datum found⟩
    · intro other _
      rw [rangeSchema_holds_iff isWidth isValue]
      intro same
      rwa [← Nat.cast_injective same]

/-! ## Words and data -/

theorem hasInteger_toJson (word : Word) :
    HasInteger [("width", .int word.width.bits), ("value", .int word.value)] "width" word.width.bits ∧
    HasInteger [("width", .int word.width.bits), ("value", .int word.value)] "value" word.value :=
  ⟨⟨_, rfl, (Number.isInt_int_iff _ _).mpr rfl⟩, ⟨_, rfl, (Number.isInt_int_iff _ _).mpr rfl⟩⟩

theorem wordSchema_holds_toJson (word : Word) : wordSchema.Holds word.toJson := by
  have held := hasInteger_toJson word
  exact (wordSchema_holds_iff _).mpr
    ⟨_, rfl, by simp, word.width, word.value, held.1, held.2, word.fits⟩

section

variable [Word.Intake] (faithful : Word.Intake.Faithful)
include faithful

theorem requiredInteger_of_hasInteger {fields : List (String × Json)} {name : String} {value : Int}
    (held : HasInteger fields name value) (fits : Fits 32 value) : Word.requiredInteger fields name = .ok value := by
  obtain ⟨number, found, integral⟩ := held
  simp only [Word.requiredInteger, found]
  exact faithful.number integral fits

/-- Data that the contract has nothing against makes a word. -/
theorem ofData_of_holds {datum : Json} (holds : wordSchema.Holds datum) :
    ∃ fields word, datum = .object fields ∧ Word.ofData datum = .ok word ∧
      HasInteger fields "width" word.width.bits ∧ HasInteger fields "value" word.value := by
  obtain ⟨fields, rfl, _, size, value, isWidth, isValue, fits⟩ := (wordSchema_holds_iff datum).mp holds
  have small : Fits 32 (size.bits : Int) := by cases size <;> decide
  refine ⟨fields, ⟨size, value, fits⟩, rfl, ?_, isWidth, isValue⟩
  rw [Word.ofData_eq_ok_iff]
  refine ⟨fields, rfl, (Word.ofFields_eq_ok_iff ..).mpr ⟨?_, ?_⟩⟩
  · exact requiredInteger_of_hasInteger faithful isWidth small
  · exact requiredInteger_of_hasInteger faithful isValue (Word.fits_word ⟨size, value, fits⟩)

theorem make_eq_ok_iff (width value : Int) (word : Word) :
    Word.make width value = .ok word ↔ width = word.width.bits ∧ value = word.value := by
  rw [Word.make, Word.ofData_eq_ok_iff]
  simp [Word.ofFields_eq_ok_iff, Word.requiredInteger, Json.field?, List.lookup_cons, faithful.int]

/-- Two integers make a word just when the contract has nothing against the datum that they are written in. -/
theorem make_iff_holds (width value : Int) :
    (∃ word, Word.make width value = .ok word) ↔
      wordSchema.Holds (.object [("width", .int width), ("value", .int value)]) := by
  constructor
  · rintro ⟨word, made⟩
    obtain ⟨rfl, rfl⟩ := (make_eq_ok_iff faithful width value word).mp made
    exact wordSchema_holds_toJson word
  · intro holds
    obtain ⟨_, word, _, made, _⟩ := ofData_of_holds faithful holds
    exact ⟨word, made⟩

/-- Any validation that takes numbers for what they are agrees with any checker that takes the demands for what they
say. -/
theorem agree_of_checks {check : Schema → Json → List Violation} (checks : Schema.Checks check) :
    (∀ width value : Int, (∃ word, Word.make width value = .ok word) ↔
      check wordSchema (.object [("width", .int width), ("value", .int value)]) = []) ∧
    (∀ datum, check wordSchema datum = [] →
      ∃ fields word, datum = .object fields ∧ Word.ofData datum = .ok word ∧
        HasInteger fields "width" word.width.bits ∧ HasInteger fields "value" word.value) ∧
    ∀ datum word, Word.ofData datum = .ok word → check wordSchema word.toJson = [] := by
  simp only [checks.eq_nil_iff]
  exact ⟨make_iff_holds faithful, fun _ => ofData_of_holds faithful, fun _ word _ => wordSchema_holds_toJson word⟩

end

/-- The validation of words and the contract for them agree. An integer width and value make a word just when the
contract has nothing against them; data that obeys the contract makes a word of the same two numbers, however they are
written; and whatever data made a word, the word obeys the contract. -/
theorem wordContract_agrees :
    (∀ width value : Int, (∃ word, Word.make width value = .ok word) ↔
      Obeys wordContract (.object [("width", .int width), ("value", .int value)])) ∧
    (∀ datum, Obeys wordContract datum →
      ∃ fields word, datum = .object fields ∧ Word.ofData datum = .ok word ∧
        HasInteger fields "width" word.width.bits ∧ HasInteger fields "value" word.value) ∧
    ∀ datum word, Word.ofData datum = .ok word → Obeys wordContract word.toJson := by
  simp only [obeys_iff_check ofJson_wordContract]
  exact agree_of_checks Word.lax_faithful Schema.checks_check

/-- The least byte in floating-point numbers, and data that makes a word without obeying the contract itself. -/
theorem wordContract_agrees_spellings :
    (∃ word, Word.make 8 (-128) = .ok word) ∧
    (Obeys wordContract (.object [
        ("value", .number (.float (.finite true (1 <<< 52) (-45)))),
        ("width", .number (.float (.finite false (1 <<< 52) (-49))))]) ∧
      ∃ word, Word.ofData (.object [
        ("value", .number (.float (.finite true (1 <<< 52) (-45)))),
        ("width", .number (.float (.finite false (1 <<< 52) (-49))))]) = .ok word) ∧
    (∃ word, Word.ofData (.object [("width", .string " 8"), ("value", .bool true), ("name", .null)]) = .ok word ∧
      Obeys wordContract word.toJson) := by
  have obeys : Obeys wordContract (.object [
      ("value", .number (.float (.finite true (1 <<< 52) (-45)))),
      ("width", .number (.float (.finite false (1 <<< 52) (-49))))]) := ⟨_, rfl, rfl⟩
  have accepted : Word.ofData (.object [("width", .string " 8"), ("value", .bool true), ("name", .null)]) =
      .ok ⟨.eight, 1, by decide⟩ := by rfl
  obtain ⟨_, word, _, made, _⟩ := wordContract_agrees.2.1 _ obeys
  exact ⟨(wordContract_agrees.1 8 (-128)).mpr ⟨_, rfl, rfl⟩, ⟨obeys, word, made⟩, _, accepted,
    wordContract_agrees.2.2 _ _ accepted⟩

end MachineInt.Contract
