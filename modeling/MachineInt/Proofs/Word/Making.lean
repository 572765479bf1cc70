import MachineInt.Proofs.TwosComplement
import MachineInt.Word.Reading

/-!
# Making words

The data made of a supported width and a value in its range pass the validation of words, so the low bits of any integer
make a word of every supported width.
-/

namespace MachineInt

namespace Width

theorem bits_pos (size : Width) : 0 < size.bits := by cases size <;> decide

theorem mem_all (size : Width) : size ∈ all := by cases size <;> decide

theorem ofInt?_bits (size : Width) : ofInt? size.bits = some size := by cases size <;> rfl

theorem ofInt?_eq_none_iff (given : Int) : ofInt? given = none ↔ given ≠ 8 ∧ given ≠ 16 ∧ given ≠ 32 := by
  simp [ofInt?, all, bits]

theorem exists_bits_iff (given : Int) :
    (∃ size : Width, given = size.bits) ↔ given = 8 ∨ given = 16 ∨ given = 32 := by
  constructor
  · rintro ⟨size, rfl⟩
    cases size <;> decide
  · rintro (rfl | rfl | rfl)
    · exact ⟨.eight, rfl⟩
    · exact ⟨.sixteen, rfl⟩
    · exact ⟨.thirtyTwo, rfl⟩

theorem exists_bits_or_unsupported (given : Int) :
    (∃ size : Width, given = size.bits) ∨ given ≠ 8 ∧ given ≠ 16 ∧ given ≠ 32 := by
  rw [exists_bits_iff]
  omega

end Width

namespace Word

theorem fits_word (word : Word) : Fits 32 word.value :=
  fits_of_le (by cases word.width <;> decide) word.fits

theorem make_bits {size : Width} {value : Int} (fits : Fits size.bits value) :
    make size.bits value = .ok ⟨size, value, fits⟩ := by
  have width : requiredWidth [("width", .int size.bits), ("value", .int value)] = .ok size := by
    cases size <;> rfl
  have number : requiredInteger [("width", .int size.bits), ("value", .int value)] "value" = .ok value := rfl
  simp only [make, ofData, ofFields, width, number, fits, dite_true]
  rfl

/-- The word of the low bits of an integer. -/
def wrapped (size : Width) (value : Int) : Word := ⟨size, wrap size.bits value, fits_wrap size.bits_pos value⟩

theorem wrapped_unsigned (size : Width) (value : Int) :
    wrapped size (unsigned size.bits value) = wrapped size value := by
  simp only [wrapped, wrap_unsigned]

theorem wrapped_value (word : Word) : wrapped word.width word.value = word := by
  obtain ⟨size, value, fits⟩ := word
  simp only [wrapped, wrap_of_fits size.bits_pos fits]

theorem ofBits_bits (size : Width) (value : Int) : ofBits value size.bits = .ok (wrapped size value) := by
  rw [ofBits, wrapAt_of_pos size.bits_pos]
  change (make size.bits (wrap size.bits value)).mapError _ = _
  rw [make_bits (fits_wrap size.bits_pos value)]
  rfl

end Word

end MachineInt
