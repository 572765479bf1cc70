import MachineInt.TwosComplement

/-!
# Division

Quotients that go toward zero, on integers of any size, and the division of 32-bit patterns without a sign.
The truncated quotient is built from the magnitudes and a comparison of signs; with it goes the remainder that
has the sign of the dividend. Digit extraction rests on both: below zero, a quotient rounded to the floor would
give a digit that is negative.
-/

namespace MachineInt

/-- The quotient rounded toward zero, and zero when the divisor is. -/
def quotient (dividend divisor : Int) : Int :=
  let magnitude : Int := (dividend.natAbs / divisor.natAbs : Nat)
  if decide (dividend < 0) = decide (divisor < 0) then magnitude else -magnitude

/-- What the truncated quotient leaves over. -/
def remainder (dividend divisor : Int) : Int := dividend - divisor * quotient dividend divisor

def truncatedQuotient (dividend divisor : Int) : Except ArithmeticError Int :=
  if divisor = 0 then .error .divisionByZero else .ok (quotient dividend divisor)

def truncatedRemainder (dividend divisor : Int) : Except ArithmeticError Int :=
  if divisor = 0 then .error .divisionByZero else .ok (remainder dividend divisor)

/-- The quotient of two 32-bit patterns read without a sign, as a signed word. -/
def unsignedQuotient (dividend divisor : Int) : Except ArithmeticError Int :=
  if unsigned 32 divisor = 0 then .error .divisionByZero
  else .ok (wrap 32 (unsigned 32 dividend / unsigned 32 divisor))

/-- The remainder of two 32-bit patterns read without a sign, as a signed word. -/
def unsignedRemainder (dividend divisor : Int) : Except ArithmeticError Int :=
  if unsigned 32 divisor = 0 then .error .moduloByZero
  else .ok (wrap 32 (unsigned 32 dividend % unsigned 32 divisor))

theorem natAbs_quotient (dividend divisor : Int) :
    (quotient dividend divisor).natAbs = dividend.natAbs / divisor.natAbs := by
  unfold quotient
  dsimp only
  split
  · exact Int.natAbs_natCast _
  · rw [Int.natAbs_neg, Int.natAbs_natCast]

/-- A nonzero dividend shrinks under any divisor of magnitude two or more. -/
theorem natAbs_quotient_lt {dividend divisor : Int} (nonzero : dividend ≠ 0)
    (large : 2 ≤ divisor.natAbs) : (quotient dividend divisor).natAbs < dividend.natAbs := by
  rw [natAbs_quotient]
  exact Nat.div_lt_self (Int.natAbs_pos.mpr nonzero) large

end MachineInt
