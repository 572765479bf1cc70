import MachineInt.Schema

/-!
# Schemas from data

A schema is written as a truth value or as an object of keywords. The demands keep the order in which the keywords
are written. What is wrong with a written schema is looked for in an order of its own: first in the schemas inside,
then in the keywords with plain values.

Schemas are read as far as the contracts use them. Every other keyword asks for nothing, and what is written for it is
not looked at, so not all that is read here would pass as a schema elsewhere.

Reading follows the data: for every datum it is worked out what the datum means as a schema, as a list of schemas and
as named schemas, and the keyword in front of it picks one of the three.
-/

namespace MachineInt

/-- What is wrong with a written schema. -/
inductive SchemaFault
  | wrongKind (datum : Json) (kinds : List Kind)
  | unknownKind (datum : Json)
  | empty (datum : Json)
  | repeated (datum : Json)

def SchemaFault.message : SchemaFault → String
  | .wrongKind datum kinds => (Breach.wrongKind datum kinds).message
  | .unknownKind datum => s!"{datum.shown} is not valid under any of the given schemas"
  | .empty datum => s!"{datum.shown} should be non-empty"
  | .repeated datum => s!"{datum.shown} has non-unique elements"

namespace Schema

/-- What a datum means, depending on what it is taken for. -/
structure Meaning where
  schema : Except SchemaFault Schema
  schemas : Except SchemaFault (List Schema)
  named : Except SchemaFault (List (String × Schema))

/-- A keyword with its datum. -/
structure Entry where
  keyword : String
  datum : Json
  meaning : Meaning

/-! ## Plain values -/

def kindOf? : Json → Option Kind
  | .string name => Kind.ofName? name
  | _ => none

/-- One kind, or a list of different ones. -/
def readKinds (datum : Json) : Except SchemaFault (List Kind) :=
  match datum with
  | .array items =>
    match items.mapM kindOf? with
    | some kinds => if kinds ≠ [] ∧ kinds.Nodup then .ok kinds else .error (.unknownKind datum)
    | none => .error (.unknownKind datum)
  | _ =>
    match kindOf? datum with
    | some kind => .ok [kind]
    | none => .error (.unknownKind datum)

def readValues : Json → Except SchemaFault (List Json)
  | .array items => .ok items
  | datum => .error (.wrongKind datum [.array])

def readBound : Json → Except SchemaFault Number
  | .number value => .ok value
  | datum => .error (.wrongKind datum [.number])

def readName : Json → Except SchemaFault String
  | .string name => .ok name
  | datum => .error (.wrongKind datum [.string])

/-- A list of different names. -/
def readNames (datum : Json) : Except SchemaFault (List String) :=
  match datum with
  | .array items => do
    let names ← items.mapM readName
    if names.Nodup then .ok names else .error (.repeated datum)
  | _ => .error (.wrongKind datum [.array])

/-! ## Keywords -/

/-- The keywords of one schema object that ask for something. -/
structure Keywords where
  additional : Option Schema
  properties : Option (List (String × Schema))
  test : Option Schema
  yes : Option Schema
  no : Option Schema
  parts : Option (List Schema)
  kinds : Option (List Kind)
  values : Option (List Json)
  high : Option Number
  low : Option Number
  names : Option (List String)

def entryOf? (entries : List Entry) (keyword : String) : Option Entry := entries.find? (·.keyword == keyword)

/-- Read all keywords; the order here is the one in which faults are reported. -/
def readKeywords (entries : List Entry) : Except SchemaFault Keywords := do
  let get {α : Type} (keyword : String) (read : Entry → Except SchemaFault α) :
      Except SchemaFault (Option α) := (entryOf? entries keyword).mapM read
  let additional ← get "additionalProperties" (·.meaning.schema)
  let properties ← get "properties" (·.meaning.named)
  let test ← get "if" (·.meaning.schema)
  let yes ← get "then" (·.meaning.schema)
  let no ← get "else" (·.meaning.schema)
  let parts ← get "allOf" (·.meaning.schemas)
  let kinds ← get "type" (readKinds ·.datum)
  let values ← get "enum" (readValues ·.datum)
  let high ← get "maximum" (readBound ·.datum)
  let low ← get "minimum" (readBound ·.datum)
  let names ← get "required" (readNames ·.datum)
  return ⟨additional, properties, test, yes, no, parts, kinds, values, high, low, names⟩

/-- The demands of one keyword. What other fields are is settled by the named ones beside it, and a test by the two
schemas it chooses from. -/
def demands (keywords : Keywords) (entry : Entry) : List Schema :=
  match entry.keyword with
  | "additionalProperties" =>
    let known := (keywords.properties.getD []).map Prod.fst
    match keywords.additional with
    | some .nothing => [.closed known]
    | some schema => [.others known schema]
    | none => []
  | "properties" => (keywords.properties.getD []).map fun (name, schema) => .field name schema
  | "if" => keywords.test.toList.map fun test =>
    .choice test (keywords.yes.getD .anything) (keywords.no.getD .anything)
  | "allOf" => [.every (keywords.parts.getD [])]
  | "type" => keywords.kinds.toList.map .ofKind
  | "enum" => keywords.values.toList.map .among
  | "const" => [.exactly entry.datum]
  | "maximum" => keywords.high.toList.map .atMost
  | "minimum" => keywords.low.toList.map .atLeast
  | "required" => keywords.names.toList.map .required
  | _ => []

/-! ## Data -/

/-- What a datum that is no array and no object means: nothing but itself. -/
def plainMeaning (datum : Json) : Meaning where
  schema := match datum with
    | .bool true => .ok .anything
    | .bool false => .ok .nothing
    | _ => .error (.wrongKind datum [.object, .boolean])
  schemas := .error (.wrongKind datum [.array])
  named := .error (.wrongKind datum [.object])

mutual

def meaning : Json → Meaning
  | .array items =>
    { plainMeaning (.array items) with
      schemas := if items.isEmpty then .error (.empty (.array items)) else (meanings items).mapM (·.schema) }
  | .object fields =>
    let entries := entriesOf fields
    { plainMeaning (.object fields) with
      schema := (readKeywords entries).map fun keywords => .every (entries.flatMap (demands keywords))
      named := entries.mapM fun entry => entry.meaning.schema.map (entry.keyword, ·) }
  | datum => plainMeaning datum

def meanings : List Json → List Meaning
  | [] => []
  | item :: rest => meaning item :: meanings rest

def entriesOf : List (String × Json) → List Entry
  | [] => []
  | (keyword, datum) :: rest => ⟨keyword, datum, meaning datum⟩ :: entriesOf rest

end

/-- The schema that a datum writes. -/
def ofJson (datum : Json) : Except SchemaFault Schema := (meaning datum).schema

end Schema

end MachineInt
