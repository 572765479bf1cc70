import MachineInt.Binary64

/-!
# Rounding decimals

A decimal is read as the binary number nearest to it, and of two that are equally near as the one with the even
mantissa. All steps are exact: the decimal is a quotient, scaled by a power of two so that the integral part has
the 53 bits of a mantissa, or fewer at the bottom of the range.
-/

namespace MachineInt.Binary64

/-- The quotient rounded to the nearest integer, a half to the even one. -/
def roundHalfEven (num den : Nat) : Nat :=
  let low := num / den
  match compare (2 * (num % den)) den with
  | .lt => low
  | .gt => low + 1
  | .eq => if low % 2 = 0 then low else low + 1

/-- The power of two at or below a positive quotient. -/
def floorLog2 (num den : Nat) : Int :=
  let guess : Int := (Nat.log2 num : Int) - Nat.log2 den
  let reaches := if 0 ≤ guess then den <<< guess.toNat ≤ num else den ≤ num <<< (-guess).toNat
  if reaches then guess else guess - 1

/-- The number nearest to a positive quotient. -/
def nearest (negative : Bool) (num den : Nat) : Binary64 :=
  let exponent := max (floorLog2 num den - 52) leastExponent
  let mantissa :=
    if 0 ≤ exponent then roundHalfEven num (den <<< exponent.toNat)
    else roundHalfEven (num <<< (-exponent).toNat) den
  let (mantissa, exponent) :=
    if mantissa = mantissaBound then (mantissa / 2, exponent + 1) else (mantissa, exponent)
  if exponent > greatestExponent then .infinite negative else .finite negative mantissa exponent

/-- Decimals of so many digits before the point are infinite, and of so many zeros after it zero. -/
def decimalRange : Int := 400

/-- The number nearest to `digits * 10 ^ power`; `length` is the number of digits. -/
def ofDecimal (negative : Bool) (digits length : Nat) (power : Int) : Binary64 :=
  if digits = 0 then zero negative
  else if power + length > decimalRange then .infinite negative
  else if power + length < -decimalRange then zero negative
  else if 0 ≤ power then nearest negative (digits * powerOfTen power.toNat) 1
  else nearest negative digits (powerOfTen (-power).toNat)

end MachineInt.Binary64
