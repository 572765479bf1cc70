import MachineInt.Proofs.Numeral.RoundTrip
import MachineInt.Proofs.Word.Reading

/-!
# Words written and read

Small words are written by way of 32 bits and read by way of 32 bits, but the two ways need not be compared: what is
written is the numeral of the value or of the unsigned view, and the law of reading takes either back to the word.
-/

namespace MachineInt.Word

open Numeral

theorem text_toList (word : Word) (radix : Radix) :
    (word.text radix.value).toList = canonical radix word.value := by
  rw [text, signedText_toList, orTen_radix, wrap_of_fits (by decide) word.fits_word]

theorem patternText_toList (word : Word) (radix : Radix) :
    (word.patternText radix.value).toList = canonical radix word.unsignedValue := by
  obtain ⟨size, value, fits⟩ := word
  unfold patternText unsignedValue
  cases size with
  | thirtyTwo =>
    rw [unsignedText_toList, orTen_radix]
    rfl
  | eight | sixteen =>
    -- The 32-bit word that is written is the unsigned view itself.
    rw [signedText_toList, orTen_radix, wrap_of_fits (by decide) (fits_unsigned (by dsimp only; decide) value)]

theorem readable_text (word : Word) (radix : Radix) :
    Readable (some (word.text radix.value)) radix.value word.width false word.value := by
  refine ⟨_, radix, rfl, rfl, ?_, (inRange_false_iff ..).mpr word.fits⟩
  rw [text_toList]
  exact denotesSigned_canonical radix word.value

theorem readable_patternText (word : Word) (radix : Radix) :
    Readable (some (word.patternText radix.value)) radix.value word.width true word.unsignedValue := by
  have low : 0 ≤ word.unsignedValue := unsigned_nonneg ..
  refine ⟨_, radix, rfl, rfl, ⟨word.unsignedValue.natAbs, ?_, by omega⟩, ?_⟩
  · rw [patternText_toList]
    exact denotesUnsigned_canonical radix low
  · exact (inRange_true_iff ..).mpr ⟨low, unsigned_lt ..⟩

/-- A word comes back from its numeral, and from that of its bits without a sign. -/
theorem read_back (word : Word) (radix : Radix) :
    read (some (word.text radix.value)) radix.value word.width.bits false = .ok word ∧
    read (some (word.patternText radix.value)) radix.value word.width.bits true = .ok word := by
  constructor
  · rw [read_readable (word.readable_text radix), wrapped_value]
  · rw [read_readable (word.readable_patternText radix), unsignedValue, wrapped_unsigned, wrapped_value]

end MachineInt.Word
