import MachineInt.Proofs.Numeral.Canonical
import MachineInt.Proofs.Numeral.Unsigned
import MachineInt.Proofs.TwosComplement

/-!
# Reading what was written

What is written of a word is the numeral of its value, signed or unsigned, and a reader takes every numeral that
fits. So a word survives being written and read, in every radix, whichever way its digits were made and however wide
the word is in which they are summed up.
-/

namespace MachineInt

open Numeral

theorem signedText_toList (value radix : Int) :
    (signedText value radix).toList = canonical (Radix.orTen radix) (wrap 32 value) := by
  rw [signedText, Line.text, String.toList_ofList, spell_written]

theorem unsignedText_toList (value radix : Int) :
    (unsignedText value radix).toList = canonical (Radix.orTen radix) (unsigned 32 value) := by
  rw [unsignedText, Line.text, String.toList_ofList, spell_written]

/-- Ten stands in for a number that is no radix. -/
theorem orTen_value (radix : Int) :
    ((Radix.orTen radix).value : Int) = if 2 ≤ radix ∧ radix ≤ 36 then radix else 10 := by
  unfold Radix.orTen Radix.ofInt
  by_cases small : radix < minRadix
  · simp only [small, dite_true, Radix.ten]
    simp only [minRadix] at small
    rw [if_neg (by omega)]
    rfl
  · by_cases large : radix > maxRadix
    · simp only [small, large, dite_true, dite_false, Radix.ten]
      simp only [maxRadix] at large
      rw [if_neg (by omega)]
      rfl
    · simp only [small, large, dite_false]
      simp only [minRadix, maxRadix] at small large
      rw [if_pos (by omega)]
      omega

theorem orTen_radix (radix : Radix) : Radix.orTen radix.value = radix := by
  rw [Radix.orTen, ofInt_value]

theorem read_signedText (value radix : Int) :
    readSigned (some (signedText value radix)) (Radix.orTen radix).value = .ok (wrap 32 value) := by
  rw [readSigned_value, symbols, signedText_toList, accumulate_chars_eq_ok_iff]
  exact ⟨denotesSigned_canonical .., fits_wrap (by decide) value⟩

theorem read_unsignedText (value radix : Int) :
    readUnsigned (some (unsignedText value radix)) (Radix.orTen radix).value = .ok (wrap 32 value) := by
  have low := unsigned_nonneg 32 value
  have high := unsigned_lt 32 value
  rw [weight_word] at high
  have magnitude : ((unsigned 32 value).natAbs : Int) = unsigned 32 value := by omega
  rw [readUnsigned_eq_ok_iff, unsignedText_toList]
  refine ⟨(unsigned 32 value).natAbs, denotesUnsigned_canonical _ low, by omega, ?_⟩
  rw [magnitude, wrap_unsigned]

/-- A word comes back from its signed numeral and from its unsigned one, for integers of any size and whatever number
is given for the radix. -/
theorem read_written (value radix : Int) :
    readSigned (some (signedText value radix)) (if 2 ≤ radix ∧ radix ≤ 36 then radix else 10) =
      .ok (wrap 32 value) ∧
    readUnsigned (some (unsignedText value radix)) (if 2 ≤ radix ∧ radix ≤ 36 then radix else 10) =
      .ok (wrap 32 value) := by
  rw [← orTen_value]
  exact ⟨read_signedText value radix, read_unsignedText value radix⟩

end MachineInt
