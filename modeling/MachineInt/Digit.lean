import MachineInt.Radix

/-!
# Digits

Thirty-six symbols stand for the digits: `0` to `9`, then `a` to `z`. Reading does not tell small letters from
capitals; writing uses small ones.

Text to be read is a line of symbols. A symbol is a character as a rule, but the line may also hold texts that
are no single character. Such a text is never a digit and never a sign.
-/

namespace MachineInt

/-- The digits in the order of their values. -/
def alphabet : List Char := "0123456789abcdefghijklmnopqrstuvwxyz".toList

/-- The character that is written for a digit. -/
def digitChar (value : Nat) : Char := alphabet.getD value '0'

/-- There is no such digit. -/
structure DigitError where
  given : Int
  deriving DecidableEq, Repr

def DigitError.message (error : DigitError) : String :=
  s!"digit value must be in [0, {maxRadix - 1}], got {error.given}"

def digitCharOf (value : Int) : Except DigitError Char :=
  if 0 ≤ value ∧ value < maxRadix then .ok (digitChar value.toNat) else .error ⟨value⟩

/-- The value of a character of the alphabet. -/
def charDigit (c : Char) : Option Nat :=
  if '0' ≤ c ∧ c ≤ '9' then some (c.toNat - '0'.toNat)
  else if 'a' ≤ c ∧ c ≤ 'z' then some (c.toNat - 'a'.toNat + 10)
  else if 'A' ≤ c ∧ c ≤ 'Z' then some (c.toNat - 'A'.toNat + 10)
  else none

/-- One place of a text that is read. -/
inductive Symbol
  | char (c : Char)
  | chunk (text : String)
  deriving DecidableEq, Repr

namespace Symbol

/-- A text of exactly one character is that character. -/
def ofString (text : String) : Symbol :=
  match text.toList with
  | [c] => .char c
  | _ => .chunk text

def text : Symbol → String
  | .char c => c.toString
  | .chunk text => text

/-- Whether the symbol is a sign, and if so, whether it is the negative one. -/
def sign? : Symbol → Option Bool
  | .char c => if c = '-' then some true else if c = '+' then some false else none
  | .chunk _ => none

end Symbol

/-- The characters of a text, a symbol each. -/
def symbols (text : String) : List Symbol := text.toList.map .char

/-- The text that a line of symbols spells. -/
def spelled (line : List Symbol) : String := String.join (line.map Symbol.text)

/-- The value of a symbol as a digit of `radix`. -/
def Radix.digit? (radix : Radix) : Symbol → Option Nat
  | .char c => (charDigit c).filter (· < radix.value)
  | .chunk _ => none

/-- The number that answers for a symbol without a digit value. -/
def invalidDigit : Int := -1

/-- The value of a symbol as a digit. No symbol is a digit of a number that is no radix. -/
def digitValue (symbol : Symbol) (radix : Int) : Int :=
  match Radix.ofInt radix with
  | .ok radix => (radix.digit? symbol).elim invalidDigit (fun digit => (digit : Int))
  | .error _ => invalidDigit

theorem charDigit_digitChar {value : Nat} (small : value < maxRadix) :
    charDigit (digitChar value) = some value := by
  have all : ∀ digit ∈ List.range maxRadix, charDigit (digitChar digit) = some digit := by decide
  exact all value (List.mem_range.mpr small)

end MachineInt
