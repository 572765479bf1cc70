import MachineInt.Proofs.Numeral.InPlace
import MachineInt.Proofs.Pattern.OnIntegers

/-!
# Numerals that are short

Five symbols in any radix and nine in radix ten are too few for a sum that reaches the sign bit of the narrow word. So a
short part of a text is summed up in the narrow word as in the wide one, to the same value or to the same error, and too
large a number is never the reason of an error. What comes out without a minus passes the test of the upper half and is
not changed when it is cut to a word, so the way round the wide word cannot be told from the way through it.
-/

namespace MachineInt

open Numeral

namespace Numeral

/-- No digits and foreign symbols are all that can be wrong with a short line. -/
theorem accumulate_kind_of_short {radix : Radix} {line : List Symbol} {bits : Nat} {cause : ReadError}
    (short : (radix.value ^ line.length : Nat) ≤ signWeight bits) {first : Nat}
    (failed : accumulate bits radix first line = .error cause) : cause.kind = .malformedInput := by
  have inside := splitSign_length_le first line
  generalize split : splitSign first line = parts at inside
  obtain ⟨sign, index, body⟩ := parts
  rcases (accumulate_eq_error_iff bits radix split cause).mp failed with ⟨_, rfl⟩ | ⟨_, offence, ends, rfl⟩
  · rfl
  · cases offence with
    | notDigit place => rfl
    | tooLarge place => exact absurd ends (Ends.not_tooLarge inside short index place)

end Numeral

/-! ## The upper half -/

namespace OnIntegers

/-- Thirty-two ones above as many zeros. -/
def upperMask : Nat := 0xFFFFFFFF00000000

/-- A mask takes some of the bits of an integer, which are those of a number that is not negative. -/
theorem exists_land (value : Int) (mask : Nat) :
    ∃ kept : Nat, value.land mask = kept ∧ ∀ place, kept.testBit place = (value.testBit place && mask.testBit place) := by
  cases value with
  | ofNat value => exact ⟨value &&& mask, rfl, fun place => Nat.testBit_and value mask place⟩
  | negSucc value =>
    refine ⟨Nat.ldiff mask value, rfl, fun place => ?_⟩
    rw [Nat.testBit_ldiff, Bool.and_comm]
    rfl

theorem testBit_upperMask (place : Nat) : upperMask.testBit place = decide (32 ≤ place ∧ place < 64) := by
  have ones : upperMask = (2 ^ 32 - 1) <<< 32 := by decide
  rw [ones, Nat.testBit_shiftLeft, Nat.testBit_two_pow_sub_one, ← Bool.decide_and, decide_eq_decide]
  omega

/-- The mask leaves the upper half where it is. -/
theorem land_upperMask (value : Int) : value.land upperMask = upperHalf value * weight 32 := by
  obtain ⟨pattern, isPattern, patternBits⟩ := exists_land value (2 ^ 64 - 1)
  obtain ⟨upper, isUpper, upperBits⟩ := exists_land value upperMask
  have whole : unsigned 64 value = pattern := by
    rw [← isPattern, ← land_unsignedMax]
    rfl
  have moved : upper = (pattern >>> 32) <<< 32 := by
    apply Nat.eq_of_testBit_eq
    intro place
    rw [upperBits, testBit_upperMask, Nat.testBit_shiftLeft, Nat.testBit_shiftRight, patternBits,
      Nat.testBit_two_pow_sub_one]
    by_cases above : 32 ≤ place
    · rw [Nat.add_sub_cancel' above]
      simp [above]
    · simp [above]
  rw [isUpper, moved, upperHalf, whole, weight_word, Nat.shiftLeft_eq, Nat.shiftRight_eq_div_pow]
  push_cast
  rfl

theorem land_upperMask_eq_zero_iff (value : Int) : value.land upperMask = 0 ↔ upperHalf value = 0 := by
  rw [land_upperMask, Int.mul_eq_zero, or_iff_left (ne_of_gt (weight_pos 32))]

end OnIntegers

/-! ## The narrow word and the wide one -/

/-- What a part begins with stands at the place where it was cut. -/
theorem getElem?_of_cut {text rest : List Symbol} {first past : Nat} {symbol : Symbol}
    (begins : cut text first past = symbol :: rest) : text[first]? = some symbol := by
  have head : (cut text first past).head? = some symbol := by rw [begins, List.head?_cons]
  rw [cut, List.head?_drop, List.getElem?_take] at head
  split at head
  · exact head
  · cases head

/-- A part of a text of five symbols or less, or of nine or less in radix ten, passes for short. It is summed up in the
narrow word as in the wide one, to the same result, and no error is that of too large a number. A value that no minus
stands in front of is not negative and not beyond the narrow word, so that it has no upper half and is the word that it
is cut to. -/
theorem short_sums_agree {text : List Symbol} {first past : Nat} (inside : past ≤ text.length) (radix : Radix)
    (few : past - first ≤ 5 ∨ (radix.value : Int) = 10 ∧ past - first ≤ 9) :
    isShort radix (cut text first past) = true ∧
    ∃ outcome, InPlace.sum 32 text radix.value first past = .ok outcome ∧
      InPlace.sum 64 text radix.value first past = .ok outcome ∧
      accumulate 32 radix first (cut text first past) = outcome ∧
      accumulate 64 radix first (cut text first past) = outcome ∧
      (∀ cause, outcome = .error cause → cause.kind ≠ .numericOverflow) ∧
      ∀ value, outcome = .ok value → text[first]? ≠ some (.char '-') →
        0 ≤ value ∧ value ≤ 2 ^ 31 - 1 ∧
        value.land OnIntegers.upperMask = 0 ∧ upperHalf value = 0 ∧
        OnIntegers.wrap 32 value = value ∧ wrap 32 value = value := by
  have short := (InPlace.isShort_cut inside radix).mp few
  have narrow := isShort_pow_le short
  have wider : signWeight 32 ≤ signWeight 64 := by decide
  have same := accumulate_of_short narrow (narrow.trans wider) first
  refine ⟨short, _, InPlace.sum_eq inside 32 radix first, ?_, rfl, same.symm, ?_, ?_⟩
  · rw [same, InPlace.sum_eq inside 64 radix first]
  · intro cause failed
    rw [accumulate_kind_of_short narrow failed]
    decide
  · intro value read noMinus
    obtain ⟨nonneg, _, small⟩ := accumulate_range (fun rest begins => noMinus (getElem?_of_cut begins)) read
    rw [signWeight_word] at small
    -- Below the sign bit of the narrow word there is nothing for the mask to find and nothing to cut off.
    have word : wrap 32 value = value := wrap_of_fits (by decide) ((fits_word_iff value).mpr (by omega))
    have half : upperHalf value = 0 :=
      (upperHalf_eq_zero_iff nonneg (by rw [signWeight_wide]; omega)).mpr (by omega)
    exact ⟨nonneg, by omega, (OnIntegers.land_upperMask_eq_zero_iff value).mpr half, half,
      (OnIntegers.wrap_eq 32 value).trans word, word⟩

/-- The greatest numeral of five digits, in the middle of a text, and the greatest of nine decimal ones. -/
theorem short_sums_agree_greatest :
    (6 ≤ (symbols "=zzzzz;").length ∧ (6 - 1 ≤ 5 ∨ ((36 : Nat) : Int) = 10 ∧ 6 - 1 ≤ 9) ∧
      InPlace.sum 64 (symbols "=zzzzz;") 36 1 6 = .ok (.ok 60466175) ∧
      (60466175 : Int).land OnIntegers.upperMask = 0) ∧
    (9 ≤ (symbols "999999999").length ∧ (9 - 0 ≤ 5 ∨ ((10 : Nat) : Int) = 10 ∧ 9 - 0 ≤ 9) ∧
      InPlace.sum 64 (symbols "999999999") 10 0 9 = .ok (.ok 999999999) ∧
      (999999999 : Int).land OnIntegers.upperMask = 0) := by
  have middle : 6 ≤ (symbols "=zzzzz;").length := by decide
  have whole : 9 ≤ (symbols "999999999").length := by decide
  have five : 6 - 1 ≤ 5 ∨ ((36 : Nat) : Int) = 10 ∧ 6 - 1 ≤ 9 := .inl (by decide)
  have nine : 9 - 0 ≤ 5 ∨ ((10 : Nat) : Int) = 10 ∧ 9 - 0 ≤ 9 := .inr (by decide)
  obtain ⟨_, _, _, wide, narrow, _, _, kept⟩ := short_sums_agree middle ⟨36, by decide, by decide⟩ five
  obtain ⟨_, _, _, wideToo, narrowToo, _, _, keptToo⟩ := short_sums_agree whole .ten nine
  cases narrow
  cases narrowToo
  exact ⟨⟨middle, five, wide.trans (by rfl), (kept 60466175 (by rfl) (by decide)).2.2.1⟩,
    whole, nine, wideToo.trans (by rfl), (keptToo 999999999 (by rfl) (by decide)).2.2.1⟩

end MachineInt
