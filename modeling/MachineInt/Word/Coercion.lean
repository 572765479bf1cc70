import MachineInt.Json.Reader
import MachineInt.Text.Blank
import MachineInt.Word

/-!
# Integers from data

Data is taken for an integer where it plainly stands for one: truth values count as zero and one, a floating-point
number without a fraction as its value if that lies strictly between the ends of 64 bits, and a text as the numeral
in it. A plain numeral is one of JSON. Others are made plain first: blanks around the numeral go, and so do a plus,
leading zeros with any underscores among them, a fraction of zeros, and single underscores between characters. After
leading zeros a minus may stand where a digit may, and then it is the sign.
-/

namespace MachineInt

/-- The most characters that the numeral of an integer may have. -/
def numeralBound : Nat := 4300

namespace Word

/-! ## Numerals made plain -/

/-- A numeral without leading zeros and the underscores among them, `last` being the one in front of the text. One of
them stays if nothing else is left of the integral part. -/
def withoutZeros? (last : Char) : List Char → Option (List Char)
  | [] => some [last]
  | c :: rest =>
    if c = '0' ∨ c = '_' then withoutZeros? c rest
    else if c.isDigit ∨ c = '-' then some (c :: rest)
    else if c = '.' then some (last :: c :: rest)
    else none

/-- A numeral from its first significant character on; it has to begin with a digit. -/
def significant? : List Char → Option (List Char)
  | [] => none
  | c :: rest =>
    if c = '0' then withoutZeros? c rest
    else if c.isDigit then some (c :: rest)
    else none

/-- What stands before the point, where nothing but zeros stands after it, and at least one. -/
def withoutFraction? (numeral : List Char) : Option (List Char) :=
  match numeral.dropWhile (· ≠ '.') with
  | [] => some numeral
  | _ :: fraction =>
    if fraction ≠ [] ∧ fraction.all (· = '0') then some (numeral.takeWhile (· ≠ '.')) else none

/-- A numeral without single underscores between its characters; `between` tells that a character other than an
underscore stands in front. -/
def ungrouped? (between : Bool) : List Char → Option (List Char)
  | [] => if between then some [] else none
  | c :: rest =>
    if c = '_' then if between then ungrouped? false rest else none
    else (ungrouped? true rest).map (c :: ·)

/-- The numeral of a magnitude made plain. -/
def plainMagnitude? (numeral : List Char) : Option (List Char) :=
  ((significant? numeral).bind withoutFraction?).bind (ungrouped? false)

/-- The numeral that a text writes, made plain. -/
def plainNumeral? (text : List Char) : Option (List Char) :=
  match Text.trim text with
  | '-' :: rest => (plainMagnitude? rest).map ('-' :: ·)
  | '+' :: rest => plainMagnitude? rest
  | rest => plainMagnitude? rest

/-- The integer of a plain numeral that is not too long. -/
def integerOfPlain? (numeral : List Char) : Option Int :=
  match Json.number? numeral with
  | some (.int value, length) =>
    if length = numeral.length ∧ length ≤ numeralBound then some value else none
  | _ => none

/-! ## Integers -/

/-- The integer that a text writes. A text is too large if already what it begins with, as it stands, is a plain
numeral that is too long. -/
def integerOfText (text : String) : Except Fault Int :=
  if (Json.integralPart text.toList).length > numeralBound then .error .tooLarge
  else
    match (plainNumeral? text.toList).bind integerOfPlain? with
    | some value => .ok value
    | none => .error .unreadable

/-- The integer that a floating-point number is. Both ends of 64 bits are too large. -/
def integerOfFloat (x : Binary64) : Except Fault Int :=
  match x with
  | .finite .. =>
    match x.toInt? with
    | none => .error .fractional
    | some value => if minValue 64 < value ∧ value < signWeight 64 then .ok value else .error .tooLarge
  | _ => .error .notFinite

/-- The integer that a datum stands for. -/
def integerOf : Json → Except Fault Int
  | .number (.int value) => .ok value
  | .number (.float value) => integerOfFloat value
  | .bool value => .ok (if value then 1 else 0)
  | .string text => integerOfText text
  | .null | .array _ | .object _ => .error .notInteger

end Word

end MachineInt
