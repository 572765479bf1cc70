import MachineInt.Proofs.Division
import MachineInt.Proofs.Pattern.OnIntegers

/-!
# Division without a sign

Two patterns are divided as the numbers that they are without a sign, and the quotient and the remainder come back as
words, negative ones if they have the highest bit. Read without a sign once more, they fit together with the operands
exactly, with nothing reduced, and no other words do. Whether there is a quotient is a question to the pattern of the
divisor: a divisor other than zero may have nothing but zeros among its low bits.
-/

namespace MachineInt

/-- Two words that are the quotient and the remainder of the patterns of two integers. -/
structure PatternDivision (dividend divisor quotient remainder : Int) : Prop where
  quotient_word : -2 ^ 31 ≤ quotient ∧ quotient ≤ 2 ^ 31 - 1
  remainder_word : -2 ^ 31 ≤ remainder ∧ remainder ≤ 2 ^ 31 - 1
  sum : quotient % 2 ^ 32 * (divisor % 2 ^ 32) + remainder % 2 ^ 32 = dividend % 2 ^ 32
  rest : remainder % 2 ^ 32 < divisor % 2 ^ 32

/-! ## Quotients and remainders -/

section

variable {dividend divisor : Int}

theorem unsigned_pos_of_ne_zero (nonzero : unsigned 32 divisor ≠ 0) : 0 < unsigned 32 divisor :=
  lt_of_le_of_ne (unsigned_nonneg 32 divisor) nonzero.symm

/-- Neither is greater than the dividend or the divisor, so both are patterns already. -/
theorem unsigned_wrap_quotient (dividend divisor : Int) :
    unsigned 32 (wrap 32 (unsigned 32 dividend / unsigned 32 divisor)) =
      unsigned 32 dividend / unsigned 32 divisor := by
  have nonneg := unsigned_nonneg 32 dividend
  apply unsigned_wrap_of_range
  · exact Int.ediv_nonneg nonneg (unsigned_nonneg 32 divisor)
  · exact (Int.ediv_le_self _ nonneg).trans_lt (unsigned_lt 32 dividend)

theorem unsigned_wrap_remainder (dividend : Int) (nonzero : unsigned 32 divisor ≠ 0) :
    unsigned 32 (wrap 32 (unsigned 32 dividend % unsigned 32 divisor)) =
      unsigned 32 dividend % unsigned 32 divisor := by
  apply unsigned_wrap_of_range
  · exact Int.emod_nonneg _ nonzero
  · exact (Int.emod_lt_of_pos _ (unsigned_pos_of_ne_zero nonzero)).trans (unsigned_lt 32 divisor)

/-- There is one pair of words that fits together with the operands. -/
theorem patternDivision_iff (nonzero : unsigned 32 divisor ≠ 0) (quotient remainder : Int) :
    PatternDivision dividend divisor quotient remainder ↔
      quotient = wrap 32 (unsigned 32 dividend / unsigned 32 divisor) ∧
      remainder = wrap 32 (unsigned 32 dividend % unsigned 32 divisor) := by
  have positive := unsigned_pos_of_ne_zero nonzero
  constructor
  · rintro ⟨quotientWord, remainderWord, sum, rest⟩
    simp only [← unsigned_eq_emod, ← fits_word_iff] at quotientWord remainderWord sum rest
    -- Division of the unsigned views leaves no choice, and a word is told by its unsigned view.
    have parts : unsigned 32 remainder + unsigned 32 divisor * unsigned 32 quotient = unsigned 32 dividend := by
      rw [Int.add_comm, Int.mul_comm, sum]
    obtain ⟨whole, left⟩ := (Int.ediv_emod_unique positive).mpr ⟨parts, unsigned_nonneg 32 remainder, rest⟩
    rw [whole, left, wrap_unsigned_of_fits (by decide) quotientWord, wrap_unsigned_of_fits (by decide) remainderWord]
    exact ⟨rfl, rfl⟩
  · rintro ⟨rfl, rfl⟩
    refine ⟨(fits_word_iff _).mp (fits_wrap (by decide) _), (fits_word_iff _).mp (fits_wrap (by decide) _), ?_, ?_⟩
    · rw [← unsigned_eq_emod, ← unsigned_eq_emod, ← unsigned_eq_emod, ← unsigned_eq_emod, unsigned_wrap_quotient,
        unsigned_wrap_remainder dividend nonzero]
      exact Int.ediv_mul_add_emod _ _
    · rw [← unsigned_eq_emod, ← unsigned_eq_emod, unsigned_wrap_remainder dividend nonzero]
      exact Int.emod_lt_of_pos _ positive

end

/-! ## Divisors with nothing but zeros -/

theorem unsigned_word_eq_zero_iff (value : Int) : unsigned 32 value = 0 ↔ 2 ^ 32 ∣ value := by
  rw [unsigned_eq_emod, Int.dvd_iff_emod_eq_zero]

theorem unsignedQuotient_eq_error_iff (dividend divisor : Int) (cause : ArithmeticError) :
    unsignedQuotient dividend divisor = .error cause ↔ 2 ^ 32 ∣ divisor ∧ cause = .divisionByZero := by
  rw [unsignedQuotient, ← unsigned_word_eq_zero_iff, guarded_eq_error_iff]

theorem unsignedRemainder_eq_error_iff (dividend divisor : Int) (cause : ArithmeticError) :
    unsignedRemainder dividend divisor = .error cause ↔ 2 ^ 32 ∣ divisor ∧ cause = .moduloByZero := by
  rw [unsignedRemainder, ← unsigned_word_eq_zero_iff, guarded_eq_error_iff]

/-- Patterns are divided as the numbers that they are without a sign. It is a division by zero just when the divisor is
a multiple of `2 ^ 32`. Otherwise there are a quotient and a remainder, and they are the only words that fit together
with the operands. -/
theorem patterns_divide (dividend divisor : Int) :
    (∀ cause, unsignedQuotient dividend divisor = .error cause ↔ 2 ^ 32 ∣ divisor ∧ cause = .divisionByZero) ∧
    (∀ cause, unsignedRemainder dividend divisor = .error cause ↔ 2 ^ 32 ∣ divisor ∧ cause = .moduloByZero) ∧
    (¬ 2 ^ 32 ∣ divisor → ∃ quotient remainder,
      unsignedQuotient dividend divisor = .ok quotient ∧ unsignedRemainder dividend divisor = .ok remainder ∧
      PatternDivision dividend divisor quotient remainder ∧
      ∀ other rest, PatternDivision dividend divisor other rest → other = quotient ∧ rest = remainder) ∧
    OnIntegers.unsignedQuotient dividend divisor = unsignedQuotient dividend divisor ∧
    OnIntegers.unsignedRemainder dividend divisor = unsignedRemainder dividend divisor := by
  refine ⟨unsignedQuotient_eq_error_iff dividend divisor, unsignedRemainder_eq_error_iff dividend divisor, ?_,
    OnIntegers.unsignedQuotient_eq dividend divisor, OnIntegers.unsignedRemainder_eq dividend divisor⟩
  intro whole
  have nonzero : unsigned 32 divisor ≠ 0 := mt (unsigned_word_eq_zero_iff divisor).mp whole
  refine ⟨_, _, if_neg nonzero, if_neg nonzero, (patternDivision_iff nonzero _ _).mpr ⟨rfl, rfl⟩, ?_⟩
  intro other rest fits
  exact (patternDivision_iff nonzero other rest).mp fits

/-- A quotient and a remainder with the highest bit, by divisors that are one and minus one on their low bits, and a
divisor that has no low bits. -/
theorem patterns_divide_edges :
    (¬ 2 ^ 32 ∣ (4294967297 : Int) ∧ unsignedQuotient (-5) 4294967297 = .ok (-5) ∧
      PatternDivision (-5) 4294967297 (-5) 0) ∧
    (¬ 2 ^ 32 ∣ (-1 : Int) ∧ unsignedRemainder (-2) (-1) = .ok (-2) ∧ PatternDivision (-2) (-1) 0 (-2)) ∧
    unsignedQuotient 7 8589934592 = .error .divisionByZero := by
  have one : ¬ (2 ^ 32 : Int) ∣ 4294967297 := by decide
  have most : ¬ (2 ^ 32 : Int) ∣ -1 := by decide
  obtain ⟨quotient, remainder, divided, left, fits, _⟩ := (patterns_divide (-5) 4294967297).2.2.1 one
  obtain ⟨other, rest, dividedToo, leftToo, fitsToo, _⟩ := (patterns_divide (-2) (-1)).2.2.1 most
  cases divided
  cases left
  cases dividedToo
  cases leftToo
  exact ⟨⟨one, rfl, fits⟩, ⟨most, rfl, fitsToo⟩, ((patterns_divide 7 8589934592).1 _).mpr ⟨by decide, rfl⟩⟩

end MachineInt
