import MachineInt.Json.Shown
import MachineInt.Numeral.ReadError

/-!
# Reports of a reading

What is published of a reading: a value, or a kind of failure and its details. A report may also be made without
any reading, so its value is not bound to a width and its details are any text.
-/

namespace MachineInt

inductive Report
  | success (value : Int)
  | failure (kind : FailureKind) (details : String)
  deriving DecidableEq, Repr

/-- A datum that names no kind of failure. -/
structure UnknownKind where
  given : Json

def UnknownKind.message (error : UnknownKind) : String :=
  s!"{error.given.shown} is not a valid ParseErrorKind"

namespace Report

/-- A failure of the kind that a datum names. -/
def ofNamedKind (kind : Json) (details : String) : Except UnknownKind Report :=
  match kind with
  | .string name =>
    match FailureKind.ofName? name with
    | some kind => .ok (.failure kind details)
    | none => .error ⟨.string name⟩
  | other => .error ⟨other⟩

/-- The report of a reading, with all integers written out. -/
def ofReading : Except ReadError Int → Report
  | .ok value => .success value
  | .error cause => .failure cause.kind cause.message

/-- The report of a reading that is published. A failure whose details cannot be written is not reported. -/
def publish : Except ReadError Int → Except Unwritable Report
  | .ok value => .ok (.success value)
  | .error cause => return .failure cause.kind (← cause.details)

/-- The value, or the failure to be raised. -/
def unwrap : Report → Except (FailureKind × String) Int
  | .success value => .ok value
  | .failure kind details => .error (kind, details)

/-- The value, or what stands in for it. -/
def valueOr (fallback : Option Int) : Report → Option Int
  | .success value => some value
  | .failure .. => fallback

/-- The published form: all four fields are always there. -/
def toJson : Report → Json
  | .success value =>
    .object [("ok", .bool true), ("value", .int value), ("error", .null), ("details", .string "")]
  | .failure kind details =>
    .object [("ok", .bool false), ("value", .null), ("error", .string kind.name), ("details", .string details)]

end Report

end MachineInt
