import MachineInt.Contract

/-!
# Assessments

What a schema says of a value: the violations in the order in which they were found, and the same as messages in the
order of their paths.
-/

namespace MachineInt

namespace Violation

/-- A name that needs no quotes in a path: an ASCII letter, then letters, digits and underscores. One line end after
it does not count. -/
def isPlainName (name : String) : Bool :=
  let body := match name.toList.reverse with
    | '\n' :: rest => rest.reverse
    | _ => name.toList
  match body with
  | [] => false
  | first :: rest => first.isAlpha && rest.all fun c => c.isAlphanum || c = '_'

/-- A name as a step of a path. -/
def stepText (name : String) : String :=
  if isPlainName name then "." ++ name
  else
    let escaped := name.toList.flatMap fun c => if c = '\\' ∨ c = '\'' then ['\\', c] else [c]
    "['" ++ String.ofList escaped ++ "']"

def pathText (violation : Violation) : String := "$" ++ String.join (violation.path.map stepText)

def text (violation : Violation) : String := violation.pathText ++ ": " ++ violation.breach.message

end Violation

/-- Paths in the order of their first different names; a path comes before those that go on from it. -/
def pathLe : List String → List String → Bool
  | [], _ => true
  | _ :: _, [] => false
  | a :: as, b :: bs => if a = b then pathLe as bs else decide (a < b)

structure Assessment where
  violations : List Violation

namespace Assessment

def isValid (assessment : Assessment) : Bool := assessment.violations.isEmpty

/-- The messages, sorted by path; violations of one path stay in order. -/
def messages (assessment : Assessment) : List String :=
  (assessment.violations.mergeSort fun a b => pathLe a.path b.path).map Violation.text

def keywords (assessment : Assessment) : List (Option String) :=
  assessment.violations.map (·.breach.keyword?)

/-- The violation that is reported if only one is. -/
def first? (assessment : Assessment) : Option Violation := assessment.violations.head?

end Assessment

namespace Contract

/-- Assess a value by a written schema. -/
def assess (contract value : Json) : Except SchemaFault Assessment :=
  (Schema.ofJson contract).map fun schema => ⟨schema.check value⟩

/-- The first violation of a written schema that can be read. -/
def firstViolation? (contract value : Json) : Option Violation :=
  match assess contract value with
  | .ok assessment => assessment.first?
  | .error _ => none

/-- The first violation of the contract for words by data in the shape of a word. -/
def wordViolation? (width value : Int) : Option Violation :=
  firstViolation? wordContract (.object [("width", .int width), ("value", .int value)])

/-- The first violation of the contract for readings by a report. -/
def reportViolation? (report : Report) : Option Violation := firstViolation? reportContract report.toJson

end Contract

end MachineInt
