import MachineInt.Proofs.Numeral.Uniqueness
import MachineInt.Proofs.Pattern.OnIntegers
import MachineInt.Proofs.Word.RoundTrip

/-!
# Words and their bits

The low bits of an integer make a word, and the word gives no more away than the integer modulo the weight of its width:
congruent integers make one word, and others make different ones. Both readings of a word, with its sign and without,
lead back to it, and the two numerals of a word are those of its two readings.
-/

namespace MachineInt

namespace Word

/-! ## Congruent integers -/

theorem wrapped_eq_iff (size : Width) (x y : Int) : wrapped size x = wrapped size y ↔ x ≡ y [ZMOD 2 ^ size.bits] := by
  rw [← wrap_eq_iff_modEq, wrapped, wrapped, Word.mk.injEq]
  exact and_iff_right rfl

theorem ofBits_eq_iff (size : Width) (x y : Int) :
    ofBits x size.bits = ofBits y size.bits ↔ x ≡ y [ZMOD 2 ^ size.bits] := by
  rw [ofBits_bits, ofBits_bits, Except.ok.injEq, wrapped_eq_iff]

/-! ## The unsigned view -/

theorem unsignedValue_wrapped (size : Width) (value : Int) :
    (wrapped size value).unsignedValue = value % 2 ^ size.bits := by
  rw [unsignedValue, wrapped, unsigned_wrap, unsigned_eq_emod]

theorem ofBits_unsignedValue (word : Word) : ofBits word.unsignedValue word.width.bits = .ok word := by
  rw [ofBits_bits, unsignedValue, wrapped_unsigned, wrapped_value]

theorem ofBits_value (word : Word) : ofBits word.value word.width.bits = .ok word := by
  rw [ofBits_bits, wrapped_value]

/-! ## Numerals -/

open Numeral

theorem isNumeral_text (word : Word) (radix : Radix) :
    IsNumeral radix word.value (word.text radix.value).toList := by
  rw [isNumeral_iff, text_toList]

/-- Words of all widths are written alike, though those of 32 bits are written on a longer line. -/
theorem isNumeral_patternText (word : Word) (radix : Radix) :
    IsNumeral radix word.unsignedValue (word.patternText radix.value).toList := by
  rw [isNumeral_iff, patternText_toList]

/-- Words are what is left of integers modulo the weights of their widths. The low bits of any integer make a word,
whose value is cut from the integer by a mask and whose unsigned view is the integer modulo the weight; congruent
integers make the same word, and only they do. A word is made of either of its readings, and its numerals are theirs. -/
theorem words_are_residues :
    (∀ (size : Width) (bits : Int), ∃ word, ofBits bits size.bits = .ok word ∧ word.width = size ∧
      word.value = OnIntegers.wrap size.bits bits ∧ word.unsignedValue = bits % 2 ^ size.bits) ∧
    (∀ (size : Width) (bits others : Int),
      ofBits bits size.bits = ofBits others size.bits ↔ bits ≡ others [ZMOD 2 ^ size.bits]) ∧
    ∀ word : Word,
      word.unsignedValue = word.value.land (unsignedMax word.width.bits) ∧
      ofBits word.unsignedValue word.width.bits = .ok word ∧ ofBits word.value word.width.bits = .ok word ∧
      ∀ radix : Radix, IsNumeral radix word.value (word.text radix.value).toList ∧
        IsNumeral radix word.unsignedValue (word.patternText radix.value).toList := by
  refine ⟨?_, ofBits_eq_iff, ?_⟩
  · intro size bits
    exact ⟨wrapped size bits, ofBits_bits size bits, rfl, (OnIntegers.wrap_eq size.bits bits).symm,
      unsignedValue_wrapped size bits⟩
  · intro word
    refine ⟨(land_unsignedMax word.value).symm, word.ofBits_unsignedValue, word.ofBits_value, ?_⟩
    intro radix
    exact ⟨word.isNumeral_text radix, word.isNumeral_patternText radix⟩

example : ofBits 0x1FF 8 = ofBits (-1) 8 := (ofBits_eq_iff .eight 0x1FF (-1)).mpr (by decide)

end Word

end MachineInt
