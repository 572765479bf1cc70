import MachineInt.Division
import MachineInt.Numeral.Line

/-!
# Positional numerals

Digits are taken off a value from the low end. The value is made negative first, because the least word has no
positive counterpart, and it stays negative on the way: every number that occurs is the value, one of its
successive quotients, or a digit. A digit is the negated remainder, which truncation keeps between zero and the
radix. In radix two a word has as many digits as bits, so a line with a cell for each bit and one for the sign is
long enough.
-/

namespace MachineInt.Numeral

/-- A value that is not positive and its successive quotients, down to one of a single digit. -/
def quotients (radix : Radix) (value : Int) : List Int :=
  if value ≤ -radix.value then value :: quotients radix (quotient value radix.value) else [value]
termination_by value.natAbs
decreasing_by
  have := radix.two_le
  exact natAbs_quotient_lt (by omega) (by omega)

/-- The low digit of a value that is not positive. -/
def lowDigit (radix : Radix) (value : Int) : Nat := (-remainder value radix.value).toNat

/-- The same magnitude, at most zero. -/
def descend (value : Int) : Int := if value < 0 then value else -value

/-- The digits of a value that is not positive, written from the low end. -/
def writeDigits (radix : Radix) (value : Int) (line : Line) : Line :=
  (quotients radix value).foldl (fun line rest => line.write (digitChar (lowDigit radix rest))) line

/-- The numeral of a value, on a line for words of `bits` bits. -/
def positional (bits : Nat) (radix : Radix) (value : Int) : Line :=
  (writeDigits radix (descend value) (Line.blank (bits + 1))).writeMinus value

end MachineInt.Numeral
