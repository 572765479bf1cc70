import MachineInt.Word.Coercion

/-!
# Words from data

The width of a word is checked first, then the value. Both are reported if both are wrong, but the range of the value
is a question only where the width is known. Other fields of the data do not matter. Which data stands for an integer
and which data a text writes is settled elsewhere; the checks are the same however that is done.
-/

namespace MachineInt

namespace Word

/-- What the checks are given to work with. -/
class Intake where
  /-- The integer that a datum stands for. -/
  integer : Json → Except Fault Int
  /-- The data that a JSON text writes. -/
  document : String → Except InvalidWord Json

section

variable [Intake]

/-- The integer of a field that must be there. -/
def requiredInteger (fields : List (String × Json)) (name : String) : Except Fault Int :=
  match Json.field? fields name with
  | none => .error .missing
  | some datum => Intake.integer datum

def requiredWidth (fields : List (String × Json)) : Except Fault Width := do
  let given ← requiredInteger fields "width"
  match Width.ofInt? given with
  | some width => .ok width
  | none => .error (.unsupportedWidth given)

def ofFields (fields : List (String × Json)) : Except (List FieldFault) Word :=
  match requiredWidth fields, requiredInteger fields "value" with
  | .error width, .error value => .error [⟨"width", width⟩, ⟨"value", value⟩]
  | .error width, .ok _ => .error [⟨"width", width⟩]
  | .ok _, .error value => .error [⟨"value", value⟩]
  | .ok width, .ok value =>
    if fits : Fits width.bits value then .ok ⟨width, value, fits⟩
    else .error [⟨"value", .outOfRange value width⟩]

def ofData : Json → Except InvalidWord Word
  | .object fields => (ofFields fields).mapError .fields
  | _ => .error .notObject

/-- The word of a width and a value. -/
def make (width value : Int) : Except InvalidWord Word :=
  ofData (.object [("width", .int width), ("value", .int value)])

def ofText (text : String) : Except InvalidWord Word :=
  match Intake.document text with
  | .error cause => .error cause
  | .ok (.object fields) => (ofFields fields).mapError .fields
  | .ok _ => .error .notJsonObject

end

/-! ## Data from text -/

/-- Arrays and objects that hold something may lie so deep in one another. -/
def depthBound : Nat := 200

/-- How deep in one another the arrays and objects lie that hold something, from a place with `depth` of them open. -/
def deepest (depth : Nat) : List Json.Shape → Nat
  | [] => depth
  | .openArray :: .closeArray :: rest | .openObject :: .closeObject :: rest => deepest depth rest
  | .openArray :: rest | .openObject :: rest => deepest (depth + 1) rest
  | .closeArray :: rest | .closeObject :: rest => max depth (deepest (depth - 1) rest)
  | _ :: rest => deepest depth rest

/-- No number in a text begins with more integral digits than the numeral of an integer may have. -/
def boundedNumbers (text : List Char) : Bool :=
  (Json.tokens 0 text).all fun token =>
    match token.shape with
    | .scalar (.number _) => (Json.integralPart (text.drop token.offset)).length ≤ numeralBound
    | _ => true

/-- The bounds hold for the whole text, also for fields that a later field of the same name replaces. -/
def withinBounds (text : List Char) : Bool :=
  deepest 0 ((Json.tokens 0 text).map (·.shape)) ≤ depthBound && boundedNumbers text

/-- The data that a text writes, if the text keeps the bounds. -/
def dataOf (text : String) : Except InvalidWord Json :=
  match Json.read text with
  | .error _ => .error .malformedJson
  | .ok data => if withinBounds text.toList then .ok data else .error .malformedJson

/-- Data is taken for an integer wherever it plainly stands for one. -/
instance lax : Intake := ⟨integerOf, dataOf⟩

/-- A word cannot be changed: giving a field a new value is an error, whatever the field. -/
def assign (_ : Word) (field : String) (_ : Json) : Except InvalidWord Word := .error (.frozen field)

end Word

end MachineInt
