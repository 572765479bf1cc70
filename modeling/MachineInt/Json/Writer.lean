import MachineInt.Binary64.Shortest
import MachineInt.Json

/-!
# Writing JSON

The compact text of a value: no blanks, fields in their order, and nothing but ASCII, since all other characters are
escaped by number, those beyond the basic plane as a pair.
-/

namespace MachineInt.Json

/-- Four hexadecimal digits. -/
def hexUnit (unit : Nat) : List Char :=
  [Nat.digitChar (unit / 4096 % 16), Nat.digitChar (unit / 256 % 16), Nat.digitChar (unit / 16 % 16),
    Nat.digitChar (unit % 16)]

def escapeUnit (unit : Nat) : List Char := '\\' :: 'u' :: hexUnit unit

def escapeChar (c : Char) : List Char :=
  match c with
  | '"' => ['\\', '"']
  | '\\' => ['\\', '\\']
  | '\n' => ['\\', 'n']
  | '\r' => ['\\', 'r']
  | '\t' => ['\\', 't']
  | '\x08' => ['\\', 'b']
  | '\x0c' => ['\\', 'f']
  | c =>
    let code := c.toNat
    if code < 0x20 then escapeUnit code
    else if code < 0x80 then [c]
    else if code < 0x10000 then escapeUnit code
    else escapeUnit (0xD800 + (code - 0x10000) / 0x400) ++ escapeUnit (0xDC00 + (code - 0x10000) % 0x400)

def stringText (text : String) : String := String.ofList ('"' :: text.toList.flatMap escapeChar ++ ['"'])

def numberText : Number → String
  | .int value => toString value
  | .float .notANumber => "NaN"
  | .float (.infinite negative) => if negative then "-Infinity" else "Infinity"
  | .float value => value.text

mutual

def compact : Json → String
  | .null => "null"
  | .bool value => if value then "true" else "false"
  | .number value => numberText value
  | .string value => stringText value
  | .array items => "[" ++ ",".intercalate (compactItems items) ++ "]"
  | .object fields => "\x7b" ++ ",".intercalate (compactFields fields) ++ "\x7d"

def compactItems : List Json → List String
  | [] => []
  | item :: rest => item.compact :: compactItems rest

def compactFields : List (String × Json) → List String
  | [] => []
  | (name, value) :: rest => (stringText name ++ ":" ++ value.compact) :: compactFields rest

end

end MachineInt.Json
