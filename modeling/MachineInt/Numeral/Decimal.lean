import MachineInt.Numeral.Positional

/-!
# Decimal numerals

Ten is the common radix and has a way of its own: two digits at a time from two tables, on integers of any size. The
length of a numeral is known before it is written, from powers of ten alone, and the line has exactly that many cells.
-/

namespace MachineInt.Numeral

/-- The tens digits of 0 to 99. -/
def tensTable : List Char := (List.range 100).map fun pair => digitChar (pair / 10)

/-- The ones digits of 0 to 99. -/
def onesTable : List Char := (List.range 100).map fun pair => digitChar (pair % 10)

/-- What division of a value that is not positive leaves over, as a number that is not negative. -/
def leftOver (value divisor : Int) : Nat := (quotient value divisor * divisor - value).toNat

/-- The digits of a value that is not positive, in pairs as long as there are three or more. -/
def writePairs (value : Int) (line : Line) : Line :=
  if value ≤ -100 then
    let pair := leftOver value 100
    writePairs (quotient value 100) ((line.write (onesTable.getD pair '0')).write (tensTable.getD pair '0'))
  else
    let tens := quotient value 10
    let line := line.write (digitChar (leftOver value 10))
    if tens < 0 then line.write (digitChar (-tens).toNat) else line
termination_by value.natAbs
decreasing_by exact natAbs_quotient_lt (by omega) (by decide)

/-- Count a further digit for every power of ten from `power` on that the magnitude reaches. -/
def countDigits (magnitude power size : Nat) : Nat :=
  if 0 < power ∧ power ≤ magnitude then countDigits magnitude (power * 10) (size + 1) else size
termination_by magnitude + 1 - power

/-- The number of characters in the decimal numeral, a minus included. -/
def decimalLength (value : Int) : Nat :=
  countDigits value.natAbs 10 1 + if value < 0 then 1 else 0

/-- The decimal numeral of an integer of any size. -/
def decimal (value : Int) : Line :=
  (writePairs (descend value) (Line.blank (decimalLength value))).writeMinus value

end MachineInt.Numeral
