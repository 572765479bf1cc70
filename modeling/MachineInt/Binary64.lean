/-!
# Binary floating point

Double-precision numbers as exact values: a finite one is `mantissa * 2 ^ exponent` with a sign. Comparisons and
the test for an integer are made on the fraction that the number is, in integer arithmetic.
-/

namespace MachineInt

def powerOfTen (exponent : Nat) : Nat := Nat.pow 10 exponent

theorem powerOfTen_pos (exponent : Nat) : 0 < powerOfTen exponent :=
  Nat.pow_pos (Nat.zero_lt_succ 9)

theorem shift_pos (places : Nat) : 0 < 1 <<< places := by
  rw [Nat.one_shiftLeft]
  exact Nat.two_pow_pos places

/-- An exact quotient; the denominator is positive. -/
structure Ratio where
  num : Int
  den : Nat
  den_pos : 0 < den
  deriving DecidableEq, Repr

namespace Ratio

def ofInt (value : Int) : Ratio := ⟨value, 1, Nat.one_pos⟩

/-- The value `significand * 2 ^ power`. -/
def binary (significand power : Int) : Ratio :=
  if 0 ≤ power then ⟨significand * (1 <<< power.toNat : Nat), 1, Nat.one_pos⟩
  else ⟨significand, 1 <<< (-power).toNat, shift_pos _⟩

/-- The value `significand * 10 ^ power`. -/
def decimal (significand power : Int) : Ratio :=
  if 0 ≤ power then ⟨significand * (powerOfTen power.toNat : Nat), 1, Nat.one_pos⟩
  else ⟨significand, powerOfTen (-power).toNat, powerOfTen_pos _⟩

def order (a b : Ratio) : Ordering := compare (a.num * b.den) (b.num * a.den)

/-- The integer that the quotient is, if it is one. -/
def toInt? (a : Ratio) : Option Int := if a.num % a.den = 0 then some (a.num / a.den) else none

end Ratio

inductive Binary64
  | finite (negative : Bool) (mantissa : Nat) (exponent : Int)
  | infinite (negative : Bool)
  | notANumber
  deriving DecidableEq, Repr

namespace Binary64

/-- The exponent of the least numbers above zero. -/
def leastExponent : Int := -1074

/-- The exponent of the greatest finite numbers. -/
def greatestExponent : Int := 971

/-- Mantissas have 53 bits, except in the lowest range. -/
def mantissaBound : Nat := 1 <<< 53

def zero (negative : Bool) : Binary64 := .finite negative 0 leastExponent

/-- The value of a finite number. -/
def ratio? : Binary64 → Option Ratio
  | .finite negative mantissa exponent =>
    some (.binary (if negative then -(mantissa : Int) else mantissa) exponent)
  | _ => none

/-- The integer that a number is, if it is one. -/
def toInt? (x : Binary64) : Option Int := x.ratio?.bind Ratio.toInt?

end Binary64

end MachineInt
