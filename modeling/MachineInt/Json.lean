import MachineInt.Binary64

/-!
# JSON values

Trees of data. Integers have any size and are kept apart from floating-point numbers, because the two are shown
differently and only one of them may have a fraction; where values are compared, numbers count by their value. The
fields of an object keep the order in which their names first came.
-/

namespace MachineInt

inductive Number
  | int (value : Int)
  | float (value : Binary64)
  deriving DecidableEq, Repr

namespace Number

/-- The exact value of a number that is finite. -/
def ratio? : Number → Option Ratio
  | .int value => some (.ofInt value)
  | .float value => value.ratio?

def toInt? : Number → Option Int
  | .int value => some value
  | .float value => value.toInt?

/-- The order of two numbers by value; what is not a number has no order, not even with itself. -/
def order : Number → Number → Option Ordering
  | .float .notANumber, _ | _, .float .notANumber => none
  | .float (.infinite a), .float (.infinite b) => some (compare b.toNat a.toNat)
  | .float (.infinite negative), _ => some (if negative then .lt else .gt)
  | _, .float (.infinite negative) => some (if negative then .gt else .lt)
  | a, b => do return Ratio.order (← a.ratio?) (← b.ratio?)

end Number

inductive Json
  | null
  | bool (value : Bool)
  | number (value : Number)
  | string (value : String)
  | array (items : List Json)
  | object (fields : List (String × Json))
  deriving Repr

namespace Json

def int (value : Int) : Json := .number (.int value)

/-- The value under a name. -/
def field? (fields : List (String × Json)) (name : String) : Option Json := fields.lookup name

/-- Give a name a value. A name that is there already keeps its place. -/
def putField (name : String) (value : Json) : List (String × Json) → List (String × Json)
  | [] => [(name, value)]
  | (other, old) :: rest =>
    if other = name then (name, value) :: rest else (other, old) :: putField name value rest

mutual

/-- Whether two values are the same datum: numbers by value, objects without regard to order. Truth values are no
numbers. -/
def same : Json → Json → Bool
  | .null, .null => true
  | .bool a, .bool b => a == b
  | .number a, .number b => a.order b == some .eq
  | .string a, .string b => a == b
  | .array as, .array bs => sameItems as bs
  | .object as, .object bs => as.length == bs.length && sameFields as bs
  | _, _ => false

def sameItems : List Json → List Json → Bool
  | [], [] => true
  | a :: as, b :: bs => same a b && sameItems as bs
  | _, _ => false

/-- Every field on the left has its like on the right. -/
def sameFields : List (String × Json) → List (String × Json) → Bool
  | [], _ => true
  | (name, a) :: rest, bs =>
    (match bs.lookup name with
      | some b => same a b
      | none => false) && sameFields rest bs

end

end Json

end MachineInt
