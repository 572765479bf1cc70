import MachineInt.Digit
import MachineInt.Division
import MachineInt.Numeral.ReadError

/-!
# Accumulating digits in a word

The value of a numeral is summed up below zero, where a word reaches one further than above. A digit is taken only
if the total stays at or above a limit, and both tests are made before the step they guard: the total against the
quotient of the limit before it is scaled, the scaled total against the limit before the digit goes off. So no
number on the way leaves the word.
-/

namespace MachineInt.Numeral

/-- How far down the total may go in a signed word of `bits` bits. -/
def limit (bits : Nat) (negative : Bool) : Int := if negative then minValue bits else -maxValue bits

/-- The total with one more digit, unless that would pass the limit. -/
def takeDigit (limit : Int) (radix : Radix) (total : Int) (digit : Nat) : Option Int :=
  if total < quotient limit radix.value then none
  else
    let scaled := total * radix.value
    if scaled < limit + digit then none else some (scaled - digit)

/-- What ends the sum before the line does, and where. -/
inductive Offence
  | notDigit (index : Nat)
  | tooLarge (index : Nat)
  deriving DecidableEq, Repr

/-- Take the digits of a line whose first symbol has the given index. -/
def takeDigits (limit : Int) (radix : Radix) : Nat → Int → List Symbol → Except Offence Int
  | _, total, [] => .ok total
  | index, total, symbol :: line =>
    match radix.digit? symbol with
    | none => .error (.notDigit index)
    | some digit =>
      match takeDigit limit radix total digit with
      | none => .error (.tooLarge index)
      | some total => takeDigits limit radix (index + 1) total line

def Offence.toReadError (reading : Reading) : Offence → ReadError
  | .notDigit index => .notDigit reading index
  | .tooLarge index => .tooLarge reading index

/-- A sign, if one stands in front, and the symbols after it with the index of the first. -/
def splitSign (index : Nat) (line : List Symbol) : Option Bool × Nat × List Symbol :=
  match line with
  | [] => (none, index, [])
  | symbol :: rest =>
    match symbol.sign? with
    | some negative => (some negative, index + 1, rest)
    | none => (none, index, line)

/-- The signed value of a line of symbols in a word of `bits` bits; `first` is the index of the line's first
symbol in the text it was cut from. -/
def accumulate (bits : Nat) (radix : Radix) (first : Nat) (line : List Symbol) : Except ReadError Int :=
  let reading : Reading := ⟨spelled line, radix.value⟩
  let (sign, index, digits) := splitSign first line
  let negative := sign.getD false
  if digits.isEmpty then .error (.noDigits reading)
  else
    match takeDigits (limit bits negative) radix index 0 digits with
    | .error offence => .error (offence.toReadError reading)
    | .ok total => .ok (if negative then total else -total)

end MachineInt.Numeral
