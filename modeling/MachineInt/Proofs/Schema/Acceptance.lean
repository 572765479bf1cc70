import MachineInt.Proofs.Json.Number
import MachineInt.Schema

/-!
# What schemas demand

The demands of a schema as a statement about the value, without paths, messages or an order of the checks. A value
has no violations just when the statement holds, and for that nothing is asked of the checker but that it takes each
kind of demand for what it says.
-/

namespace MachineInt.Schema

mutual

/-- The value meets the demands of the schema. Demands on fields and bounds hold of every value that has no fields or
is no number. -/
def Holds : Schema → Json → Prop
  | .anything, _ => True
  | .nothing, _ => False
  | .every parts, value => HoldsEach parts value
  | .ofKind kinds, value => ∃ kind ∈ kinds, kind.admits value = true
  | .among listed, value => ∃ expected ∈ listed, expected.same value = true
  | .exactly expected, value => value.same expected = true
  | .atLeast bound, value => ∀ number, value = .number number → number.order bound ≠ some .lt
  | .atMost bound, value => ∀ number, value = .number number → number.order bound ≠ some .gt
  | .required names, value =>
    ∀ fields, value = .object fields → ∀ name ∈ names, ∃ datum, Json.field? fields name = some datum
  | .field name schema, value =>
    ∀ fields, value = .object fields → ∀ datum, Json.field? fields name = some datum → schema.Holds datum
  | .closed known, value => ∀ fields, value = .object fields → ∀ entry ∈ fields, entry.1 ∈ known
  | .others known schema, value =>
    ∀ fields, value = .object fields → ∀ entry ∈ fields, entry.1 ∉ known → schema.Holds entry.2
  | .choice test yes no, value => (test.Holds value → yes.Holds value) ∧ (¬ test.Holds value → no.Holds value)

def HoldsEach : List Schema → Json → Prop
  | [], _ => True
  | part :: rest, value => part.Holds value ∧ HoldsEach rest value

end

theorem holdsEach_iff (parts : List Schema) (value : Json) :
    HoldsEach parts value ↔ ∀ part ∈ parts, part.Holds value := by
  induction parts with
  | nil => simp [HoldsEach]
  | cons part rest ih => simp [HoldsEach, ih]

/-! ## Checkers -/

section

variable {check : Schema → Json → List Violation}

/-- What the checker finds and where is its own affair. Whether it finds anything is settled demand by demand. -/
structure Checks (check : Schema → Json → List Violation) : Prop where
  anything (value : Json) : check .anything value = []
  nothing (value : Json) : check .nothing value ≠ []
  every (parts : List Schema) (value : Json) : check (.every parts) value = [] ↔ ∀ part ∈ parts, check part value = []
  ofKind (kinds : List Kind) (value : Json) :
    check (.ofKind kinds) value = [] ↔ ∃ kind ∈ kinds, kind.admits value = true
  among (listed : List Json) (value : Json) :
    check (.among listed) value = [] ↔ ∃ expected ∈ listed, expected.same value = true
  exactly (expected value : Json) : check (.exactly expected) value = [] ↔ value.same expected = true
  atLeast (bound : Number) (value : Json) :
    check (.atLeast bound) value = [] ↔ ∀ number, value = .number number → number.order bound ≠ some .lt
  atMost (bound : Number) (value : Json) :
    check (.atMost bound) value = [] ↔ ∀ number, value = .number number → number.order bound ≠ some .gt
  required (names : List String) (value : Json) :
    check (.required names) value = [] ↔
      ∀ fields, value = .object fields → ∀ name ∈ names, ∃ datum, Json.field? fields name = some datum
  field (name : String) (schema : Schema) (value : Json) :
    check (.field name schema) value = [] ↔
      ∀ fields, value = .object fields → ∀ datum, Json.field? fields name = some datum → check schema datum = []
  closed (known : List String) (value : Json) :
    check (.closed known) value = [] ↔ ∀ fields, value = .object fields → ∀ entry ∈ fields, entry.1 ∈ known
  others (known : List String) (schema : Schema) (value : Json) :
    check (.others known schema) value = [] ↔
      ∀ fields, value = .object fields → ∀ entry ∈ fields, entry.1 ∉ known → check schema entry.2 = []
  choice (test yes no : Schema) (value : Json) :
    check (.choice test yes no) value = [] ↔
      (check test value = [] → check yes value = []) ∧ (check test value ≠ [] → check no value = [])

mutual

/-- No violation is found just when the demands are met. -/
theorem Checks.eq_nil_iff (checks : Checks check) (schema : Schema) (value : Json) :
    check schema value = [] ↔ schema.Holds value := by
  cases schema with
  | anything => simp only [Holds, checks.anything]
  | nothing => simp only [Holds, checks.nothing]
  | every parts => rw [checks.every, checks.each_eq_nil_iff parts value, Holds]
  | ofKind kinds => rw [checks.ofKind, Holds]
  | among listed => rw [checks.among, Holds]
  | exactly expected => rw [checks.exactly, Holds]
  | atLeast bound => rw [checks.atLeast, Holds]
  | atMost bound => rw [checks.atMost, Holds]
  | required names => rw [checks.required, Holds]
  | field name schema => simp only [checks.field, Holds, checks.eq_nil_iff schema]
  | closed known => rw [checks.closed, Holds]
  | others known schema => simp only [checks.others, Holds, checks.eq_nil_iff schema]
  | choice test yes no =>
    rw [checks.choice, Holds, ne_eq, checks.eq_nil_iff test, checks.eq_nil_iff yes, checks.eq_nil_iff no]

theorem Checks.each_eq_nil_iff (checks : Checks check) (parts : List Schema) (value : Json) :
    (∀ part ∈ parts, check part value = []) ↔ HoldsEach parts value := by
  cases parts with
  | nil => simp [HoldsEach]
  | cons part rest => rw [List.forall_mem_cons, checks.eq_nil_iff part, checks.each_eq_nil_iff rest value, HoldsEach]

end

end

/-! ## Demands on fields -/

theorem inField_eq_nil_iff (name : String) (schema : Schema) (found : List Violation) :
    inField name schema found = [] ↔ found = [] := by
  unfold inField
  split
  · rfl
  · exact List.map_eq_nil_iff

theorem mem_strangers_iff (known : List String) (fields : List (String × Json)) (entry : String × Json) :
    entry ∈ strangers known fields ↔ entry ∈ fields ∧ entry.1 ∉ known := by
  simp [strangers]

/-! ## Checking -/

theorem checkEach_eq_nil_iff (parts : List Schema) (value : Json) :
    checkEach parts value = [] ↔ ∀ part ∈ parts, part.check value = [] := by
  induction parts with
  | nil => simp [checkEach]
  | cons part rest ih => simp [checkEach, ih]

theorem checks_check : Checks Schema.check where
  anything _ := rfl
  nothing value := by simp [check]
  every parts value := by rw [check, checkEach_eq_nil_iff]
  ofKind kinds value := by simp [check]
  among listed value := by simp [check]
  exactly expected value := by simp [check]
  atLeast bound value := by cases value <;> simp [check]
  atMost bound value := by cases value <;> simp [check]
  required names value := by cases value <;> simp [check, Option.ne_none_iff_exists']
  field name schema value := by
    -- What is found in the field is found in the object, and nothing is if there is no such field.
    cases value with
    | object fields => cases present : Json.field? fields name <;> simp [check, present, inField_eq_nil_iff]
    | null | bool | number | string | array => simp [check]
  closed known value := by cases value <;> simp [check, List.eq_nil_iff_forall_not_mem, mem_strangers_iff]
  others known schema value := by
    cases value with
    | object fields => simp [check, mem_strangers_iff, inField_eq_nil_iff]
    | null | bool | number | string | array => simp [check]
  choice test yes no value := by
    by_cases met : test.check value = [] <;> simp [check, met]

theorem check_eq_nil_iff (schema : Schema) (value : Json) : schema.check value = [] ↔ schema.Holds value :=
  checks_check.eq_nil_iff schema value

end MachineInt.Schema
