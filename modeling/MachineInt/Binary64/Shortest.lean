import MachineInt.Binary64

/-!
# Shortest decimals

A number is shown with the fewest significant digits that read back as the same number, and of those with the ones
nearest to it. The decimals with a given count of digits form a grid, and only the two neighbours of the number on
that grid need a test: if any point of the grid reads back, so does one of them. Seventeen digits always suffice.
-/

namespace MachineInt.Binary64

/-- The decimal `digits * 10 ^ power`. -/
structure Decimal where
  digits : Nat
  power : Int
  deriving DecidableEq, Repr

def Decimal.ratio (decimal : Decimal) : Ratio := .decimal decimal.digits decimal.power

/-- The values that read back as one number; the ends belong to it if the mantissa is even. -/
structure Basin where
  low : Ratio
  value : Ratio
  high : Ratio
  closed : Bool

/-- The least mantissa of a range has nearer neighbours below than above, except in the lowest range. -/
def basin (mantissa : Nat) (exponent : Int) : Basin where
  low := .binary (4 * mantissa - if mantissa = mantissaBound / 2 ∧ exponent > leastExponent then 1 else 2)
    (exponent - 2)
  value := .binary (4 * mantissa) (exponent - 2)
  high := .binary (4 * mantissa + 2) (exponent - 2)
  closed := mantissa % 2 = 0

def Basin.contains (basin : Basin) (value : Ratio) : Bool :=
  match basin.low.order value, value.order basin.high with
  | .lt, .lt => true
  | .eq, .lt | .lt, .eq | .eq, .eq => basin.closed
  | _, _ => false

/-- The least power of ten above a positive value, from a guess that is at most two below it. -/
def powerAbove (value : Ratio) (guess : Int) : Int :=
  let below (power : Int) : Bool := value.order (.decimal 1 power) = .lt
  if below guess then guess else if below (guess + 1) then guess + 1 else guess + 2

/-- Three tenths of the binary length are the decimal length, nearly. -/
def decimalMagnitude (mantissa : Nat) (exponent : Int) : Int :=
  let top := (Nat.log2 mantissa : Int) + exponent
  powerAbove (.binary mantissa exponent) (Int.fdiv (top * 30103) 100000)

/-- The neighbour of the value among decimals of `count` digits that reads back; of two the nearer, of two equally
near the even one. -/
def onGrid (basin : Basin) (magnitude : Int) (count : Nat) : Option Decimal :=
  let power := magnitude - count
  let unit : Ratio := .decimal 1 power
  let num := basin.value.num.toNat * unit.den
  let den := basin.value.den * unit.num.toNat
  let low := num / den
  let below : Decimal := ⟨low, power⟩
  let above : Decimal := ⟨low + 1, power⟩
  match basin.contains below.ratio, basin.contains above.ratio with
  | false, false => none
  | true, false => some below
  | false, true => some above
  | true, true =>
    match compare (2 * (num % den)) den with
    | .lt => some below
    | .gt => some above
    | .eq => some (if low % 2 = 0 then below else above)

/-- The shortest decimal that reads back as `mantissa * 2 ^ exponent`, which is not zero. -/
def shortest (mantissa : Nat) (exponent : Int) : Decimal :=
  let around := basin mantissa exponent
  let magnitude := decimalMagnitude mantissa exponent
  ((List.range' 1 17).findSome? (onGrid around magnitude)).getD ⟨0, 0⟩

/-! ## The text of a number -/

/-- Digits without the zeros at the end, and how many were cut off. -/
def trimZeros (digits : List Char) : List Char := (digits.reverse.dropWhile (· = '0')).reverse

/-- Two digits at least. -/
def exponentText (exponent : Int) : List Char :=
  let digits := (toString exponent.natAbs).toList
  (if exponent < 0 then '-' else '+') :: (if digits.length < 2 then '0' :: digits else digits)

/-- Digits with the point after the first `point` of them. From 16 digits before the point on, and from four zeros
after it on, an exponent is written instead. -/
def place (digits : List Char) (point : Int) : List Char :=
  if -4 < point ∧ point ≤ 16 then
    if point ≤ 0 then '0' :: '.' :: (List.replicate (-point).toNat '0' ++ digits)
    else
      let whole := digits.take point.toNat
      let zeros := List.replicate (point.toNat - digits.length) '0'
      let part := digits.drop point.toNat
      whole ++ zeros ++ '.' :: (if part.isEmpty then ['0'] else part)
  else
    let mantissa := match digits with
      | first :: second :: rest => first :: '.' :: second :: rest
      | digits => digits
    mantissa ++ 'e' :: exponentText (point - 1)

/-- The text of a number: a point or an exponent always tells it from an integer. -/
def text : Binary64 → String
  | .notANumber => "nan"
  | .infinite negative => if negative then "-inf" else "inf"
  | .finite negative mantissa exponent =>
    let digits :=
      if mantissa = 0 then ['0', '.', '0']
      else
        let decimal := shortest mantissa exponent
        let digits := (toString decimal.digits).toList
        place (trimZeros digits) (decimal.power + digits.length)
    String.ofList (if negative then '-' :: digits else digits)

end MachineInt.Binary64
