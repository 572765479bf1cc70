import MachineInt.Division
import Mathlib.Algebra.Order.Ring.Int
import Mathlib.Tactic.Ring

/-!
# Division toward zero

The quotient is put together from magnitudes and signs, and the remainder is what it leaves. With them the division
comes out even, the remainder is smaller than the divisor, and it has the sign of the dividend; no other two integers
have these three properties.

The parser compares a total with the quotient of its limit before it scales the total. For a limit that is not
positive the comparison is exact: it fails just when the scaled total would pass the limit.
-/

namespace MachineInt

/-! ## Quotients and remainders -/

/-- The signs of the operands are all that the library looks at before it divides the magnitudes. -/
theorem quotient_eq_tdiv (dividend divisor : Int) : quotient dividend divisor = dividend.tdiv divisor := by
  have nonneg (magnitude : Nat) : ¬ ((magnitude : Int) < 0) := by omega
  unfold quotient
  cases dividend with
  | ofNat dividend =>
    cases divisor with
    | ofNat divisor => simp [nonneg]
    | negSucc divisor => simp [nonneg]; rfl
  | negSucc dividend =>
    cases divisor with
    | ofNat divisor => simp [nonneg]; rfl
    | negSucc divisor => simp; rfl

theorem remainder_eq_tmod (dividend divisor : Int) : remainder dividend divisor = dividend.tmod divisor := by
  rw [remainder, quotient_eq_tdiv, Int.tmod_def]

/-- Two integers that are the quotient and the remainder of a division toward zero. -/
structure TruncatedDivision (dividend divisor quotient remainder : Int) : Prop where
  sum : dividend = divisor * quotient + remainder
  small : remainder.natAbs < divisor.natAbs
  sign : remainder = 0 ∨ remainder.sign = dividend.sign

theorem truncatedDivision_quotient (dividend : Int) {divisor : Int} (nonzero : divisor ≠ 0) :
    TruncatedDivision dividend divisor (quotient dividend divisor) (remainder dividend divisor) where
  sum := by
    rw [remainder]
    omega
  small := by
    rw [remainder_eq_tmod, Int.natAbs_tmod]
    exact Nat.mod_lt _ (Int.natAbs_pos.mpr nonzero)
  sign := by
    rw [remainder_eq_tmod, ← Int.sign_eq_zero_iff_zero, Int.sign_tmod]
    split
    · exact .inl rfl
    · exact .inr rfl

namespace TruncatedDivision

variable {dividend divisor quotient remainder other rest : Int}

/-- The remainder lies on the same side of zero as the dividend. -/
theorem side (divides : TruncatedDivision dividend divisor quotient remainder) :
    (0 ≤ dividend → 0 ≤ remainder) ∧ (dividend ≤ 0 → remainder ≤ 0) := by
  rcases divides.sign with rfl | same
  · exact ⟨fun _ => le_rfl, fun _ => le_rfl⟩
  · rw [← Int.sign_nonneg_iff, ← same, Int.sign_nonneg_iff, ← Int.sign_nonpos_iff, ← same, Int.sign_nonpos_iff]
    exact ⟨id, id⟩

theorem unique (left : TruncatedDivision dividend divisor quotient remainder)
    (right : TruncatedDivision dividend divisor other rest) : other = quotient ∧ rest = remainder := by
  have apart : rest - remainder = divisor * (quotient - other) := by
    have sums := left.sum.symm.trans right.sum
    rw [Int.mul_sub]
    omega
  -- Remainders on one side of zero are less than a divisor apart, so they are not apart at all.
  have near : (rest - remainder).natAbs < divisor.natAbs := by
    have small := left.small
    have smallToo := right.small
    rcases le_total 0 dividend with above | below
    · have nonneg := left.side.1 above
      have nonnegToo := right.side.1 above
      omega
    · have nonpos := left.side.2 below
      have nonposToo := right.side.2 below
      omega
  have equal : rest - remainder = 0 := Int.eq_zero_of_dvd_of_natAbs_lt_natAbs ⟨_, apart⟩ near
  have nonzero : divisor ≠ 0 := by
    rintro rfl
    exact absurd left.small (Nat.not_lt_zero _)
  rw [equal, eq_comm, Int.mul_eq_zero, or_iff_right nonzero] at apart
  omega

end TruncatedDivision

/-! ## Divisors that are zero -/

/-- What is refused under a condition fails just when the condition holds, and in one way. -/
theorem guarded_eq_error_iff {α : Type} {bad : Prop} [Decidable bad] {fault cause : ArithmeticError} {result : α} :
    (if bad then .error fault else .ok result : Except ArithmeticError α) = .error cause ↔ bad ∧ cause = fault := by
  split
  next holds => simp [holds, eq_comm]
  next fails => simp [fails]

/-! ## Quotients below zero -/

theorem quotient_of_nonpos {dividend divisor : Int} (nonpos : dividend ≤ 0) (positive : 0 < divisor) :
    quotient dividend divisor = -(-dividend / divisor) := by
  obtain ⟨magnitude, rfl⟩ : ∃ magnitude : Nat, dividend = -magnitude := ⟨dividend.natAbs, by omega⟩
  obtain ⟨modulus, rfl⟩ := Int.eq_ofNat_of_zero_le (le_of_lt positive)
  unfold quotient
  rcases Nat.eq_zero_or_pos magnitude with rfl | nonzero
  · simp
  · simp [nonzero]

theorem lt_quotient_iff {limit total divisor : Int} (nonpos : limit ≤ 0) (positive : 0 < divisor) :
    total < quotient limit divisor ↔ total * divisor < limit := by
  have guard := Int.ediv_lt_iff_lt_mul (a := -limit) (b := -total) positive
  rw [quotient_of_nonpos nonpos positive, lt_neg, guard, Int.neg_mul, neg_lt_neg_iff]

/-! ## All divisions -/

/-- Division goes toward zero. It fails just when the divisor is zero; otherwise there are a quotient and a remainder,
and they are the only integers that make the division come out even with a remainder that is smaller than the divisor
and has the sign of the dividend. A total passes the quotient of a negative limit just when the total, scaled, passes
the limit. -/
theorem division_truncates (dividend divisor : Int) :
    (∀ cause, truncatedQuotient dividend divisor = .error cause ↔ divisor = 0 ∧ cause = .divisionByZero) ∧
    (∀ cause, truncatedRemainder dividend divisor = .error cause ↔ divisor = 0 ∧ cause = .divisionByZero) ∧
    (divisor ≠ 0 → ∃ quotient remainder,
      truncatedQuotient dividend divisor = .ok quotient ∧ truncatedRemainder dividend divisor = .ok remainder ∧
      TruncatedDivision dividend divisor quotient remainder ∧
      ∀ other rest, TruncatedDivision dividend divisor other rest → other = quotient ∧ rest = remainder) ∧
    (∀ limit radix total : Int, limit < 0 → 2 ≤ radix → ∃ threshold,
      truncatedQuotient limit radix = .ok threshold ∧ (total < threshold ↔ total * radix < limit)) := by
  refine ⟨fun cause => guarded_eq_error_iff, fun cause => guarded_eq_error_iff, ?_, ?_⟩
  · intro nonzero
    have divides := truncatedDivision_quotient dividend nonzero
    exact ⟨_, _, if_neg nonzero, if_neg nonzero, divides, fun other rest => divides.unique⟩
  · intro limit radix total negative large
    exact ⟨_, if_neg (by omega), lt_quotient_iff (le_of_lt negative) (by omega)⟩

/-- Divisions of minus seven and by minus two, and the first total that is refused under a limit that the radix does not
divide. -/
theorem division_truncates_signs :
    ((2 : Int) ≠ 0 ∧ truncatedQuotient (-7) 2 = .ok (-3) ∧ TruncatedDivision (-7) 2 (-3) (-1)) ∧
    ((-2 : Int) ≠ 0 ∧ truncatedRemainder 7 (-2) = .ok 1 ∧ TruncatedDivision 7 (-2) (-3) 1) ∧
    ((-2147483647 : Int) < 0 ∧ (2 : Int) ≤ 10 ∧ truncatedQuotient (-2147483647) 10 = .ok (-214748364) ∧
      ((-214748365 : Int) < -214748364 ↔ (-214748365 : Int) * 10 < -2147483647)) := by
  have two : (2 : Int) ≠ 0 := by decide
  have minusTwo : (-2 : Int) ≠ 0 := by decide
  obtain ⟨quotient, remainder, divided, left, divides, _⟩ := (division_truncates (-7) 2).2.2.1 two
  obtain ⟨other, rest, dividedToo, leftToo, dividesToo, _⟩ := (division_truncates 7 (-2)).2.2.1 minusTwo
  obtain ⟨threshold, below, exact⟩ :=
    (division_truncates 0 0).2.2.2 (-2147483647) 10 (-214748365) (by decide) (by decide)
  cases divided
  cases left
  cases dividedToo
  cases leftToo
  cases below
  exact ⟨⟨two, rfl, divides⟩, ⟨minusTwo, rfl, dividesToo⟩, by decide, by decide, rfl, exact⟩

end MachineInt
