import MachineInt.Binary64.Shortest
import MachineInt.Json
import MachineInt.Text.Quoted

/-!
# Values in messages

How a value is shown to people: text in quotes, truth values and null as capitalised words, a blank after each comma
and colon.
-/

namespace MachineInt.Json

def shownNumber : Number → String
  | .int value => toString value
  | .float value => value.text

mutual

def shown : Json → String
  | .null => "None"
  | .bool value => if value then "True" else "False"
  | .number value => shownNumber value
  | .string value => Text.quoted value
  | .array items => "[" ++ ", ".intercalate (shownItems items) ++ "]"
  | .object fields => "\x7b" ++ ", ".intercalate (shownFields fields) ++ "\x7d"

def shownItems : List Json → List String
  | [] => []
  | item :: rest => item.shown :: shownItems rest

def shownFields : List (String × Json) → List String
  | [] => []
  | (name, value) :: rest => (Text.quoted name ++ ": " ++ value.shown) :: shownFields rest

end

end MachineInt.Json
