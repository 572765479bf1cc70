import MachineInt.Json.Shown

/-!
# Schemas

A schema is a tree of demands on a value. The demands that one schema object makes, and the schemas that must all
hold, are the same thing: a list of parts, each checked on its own. A value breaks a schema in any number of places;
each breach is kept with the path of names that leads to it.
-/

namespace MachineInt

/-- The kinds of values that a schema can ask for. -/
inductive Kind
  | array
  | boolean
  | integer
  | null
  | number
  | object
  | string
  deriving DecidableEq, Repr

namespace Kind

def all : List Kind := [.array, .boolean, .integer, .null, .number, .object, .string]

def name : Kind → String
  | .array => "array"
  | .boolean => "boolean"
  | .integer => "integer"
  | .null => "null"
  | .number => "number"
  | .object => "object"
  | .string => "string"

def ofName? (name : String) : Option Kind := all.find? (·.name == name)

/-- Whether a value is of a kind. A floating-point number without a fraction is an integer; a truth value is not. -/
def admits : Kind → Json → Bool
  | .array, .array _ => true
  | .boolean, .bool _ => true
  | .integer, .number value => value.toInt?.isSome
  | .null, .null => true
  | .number, .number _ => true
  | .object, .object _ => true
  | .string, .string _ => true
  | _, _ => false

end Kind

inductive Schema
  | anything
  | nothing
  /-- All parts hold. -/
  | every (parts : List Schema)
  | ofKind (kinds : List Kind)
  | among (values : List Json)
  | exactly (value : Json)
  | atLeast (bound : Number)
  | atMost (bound : Number)
  | required (names : List String)
  /-- The field of that name holds, if it is there. -/
  | field (name : String) (schema : Schema)
  /-- There are no other fields than the known ones. -/
  | closed (known : List String)
  /-- All other fields than the known ones hold. -/
  | others (known : List String) (schema : Schema)
  /-- One of two schemas holds, depending on whether a third does. -/
  | choice (test yes no : Schema)

/-- One demand that a value does not meet. -/
inductive Breach
  | wrongKind (value : Json) (kinds : List Kind)
  | notAmong (values : List Json) (value : Json)
  | notExactly (expected : Json)
  | tooSmall (value bound : Number)
  | tooLarge (value bound : Number)
  | missing (name : String)
  | unexpected (names : List String)
  | forbidden (value : Json)

namespace Breach

/-- The keyword of the demand; a schema that allows nothing has none. -/
def keyword? : Breach → Option String
  | .wrongKind .. => some "type"
  | .notAmong .. => some "enum"
  | .notExactly _ => some "const"
  | .tooSmall .. => some "minimum"
  | .tooLarge .. => some "maximum"
  | .missing _ => some "required"
  | .unexpected _ => some "additionalProperties"
  | .forbidden _ => none

def quotedNames (names : List String) : String := ", ".intercalate (names.map Text.quoted)

def message : Breach → String
  | .wrongKind value kinds => s!"{value.shown} is not of type {quotedNames (kinds.map Kind.name)}"
  | .notAmong values value => s!"{value.shown} is not one of {(Json.array values).shown}"
  | .notExactly expected => s!"{expected.shown} was expected"
  | .tooSmall value bound =>
    s!"{Json.shownNumber value} is less than the minimum of {Json.shownNumber bound}"
  | .tooLarge value bound =>
    s!"{Json.shownNumber value} is greater than the maximum of {Json.shownNumber bound}"
  | .missing name => s!"{Text.quoted name} is a required property"
  | .unexpected names =>
    let sorted := names.mergeSort fun a b => decide (a ≤ b)
    let verb := if sorted.length = 1 then "was" else "were"
    s!"Additional properties are not allowed ({quotedNames sorted} {verb} unexpected)"
  | .forbidden value => s!"False schema does not allow {value.shown}"

end Breach

structure Violation where
  path : List String
  breach : Breach

namespace Schema

/-- The names that an object has beyond the known ones. -/
def strangers (known : List String) (fields : List (String × Json)) : List (String × Json) :=
  fields.filter fun (name, _) => !known.contains name

/-- The violations of a field, as violations of the object. A field that nothing may fill is a fault of the object
that has it, so there the path ends at the object. -/
def inField (name : String) : Schema → List Violation → List Violation
  | .nothing, found => found
  | _, found => found.map fun violation => { violation with path := name :: violation.path }

mutual

/-- The violations of a schema by a value, in the order of the demands. -/
def check : Schema → Json → List Violation
  | .anything, _ => []
  | .nothing, value => [⟨[], .forbidden value⟩]
  | .every parts, value => checkEach parts value
  | .ofKind kinds, value => if kinds.any (·.admits value) then [] else [⟨[], .wrongKind value kinds⟩]
  | .among values, value => if values.any (·.same value) then [] else [⟨[], .notAmong values value⟩]
  | .exactly expected, value => if value.same expected then [] else [⟨[], .notExactly expected⟩]
  | .atLeast bound, .number value => if value.order bound = some .lt then [⟨[], .tooSmall value bound⟩] else []
  | .atLeast _, _ => []
  | .atMost bound, .number value => if value.order bound = some .gt then [⟨[], .tooLarge value bound⟩] else []
  | .atMost _, _ => []
  | .required names, .object fields =>
    (names.filter fun name => (Json.field? fields name).isNone).map fun name => ⟨[], .missing name⟩
  | .required _, _ => []
  | .field name schema, .object fields =>
    match Json.field? fields name with
    | some value => inField name schema (schema.check value)
    | none => []
  | .field .., _ => []
  | .closed known, .object fields =>
    let names := (strangers known fields).map Prod.fst
    if names.isEmpty then [] else [⟨[], .unexpected names⟩]
  | .closed _, _ => []
  | .others known schema, .object fields =>
    (strangers known fields).flatMap fun (name, value) => inField name schema (schema.check value)
  | .others .., _ => []
  | .choice test yes no, value => if (test.check value).isEmpty then yes.check value else no.check value

def checkEach : List Schema → Json → List Violation
  | [], _ => []
  | part :: rest, value => part.check value ++ checkEach rest value

end

end Schema

end MachineInt
