import MachineInt.Subword
import MachineInt.Proofs.Numeral.Unsigned

/-!
# Reading words of 8 and 16 bits

A small word is read as a 32-bit word first. What the wider reading accepts is the same language, so only the range is
left to compare, and a small range lies inside the range of the wider word, signed or not. An unsigned text can be taken
for the pattern of either width. As a pattern of 32 bits it fits the small word at both ends of its range: near zero, and
near the greatest pattern, which stands for minus one.
-/

namespace MachineInt

open Numeral

namespace Subword

theorem bits_pos (size : Subword) : 0 < size.bits := by cases size <;> decide

/-- The patterns of a small word are patterns of 32 bits. -/
theorem weight_lt (size : Subword) : weight size.bits < 2 ^ 32 := by cases size <;> decide

theorem signWeight_lt (size : Subword) : signWeight size.bits < 2 ^ 30 := by cases size <;> decide

theorem fits_word {size : Subword} {value : Int} (fits : Fits size.bits value) : Fits 32 value :=
  fits_of_le (by cases size <;> decide) fits

theorem keepFitting_eq_ok_iff (size : Subword) (text : Option String) (radix : Option Int)
    (reading : Except ReadError Int) (value : Int) :
    size.keepFitting text radix reading = .ok value ↔ reading = .ok value ∧ Fits size.bits value := by
  rw [keepFitting, bind_eq_ok_iff]
  constructor
  · rintro ⟨wide, read, kept⟩
    split at kept
    next fits =>
      cases kept
      exact ⟨read, fits⟩
    · cases kept
  · rintro ⟨read, fits⟩
    exact ⟨value, read, if_pos fits⟩

theorem readSigned_eq_ok_iff (size : Subword) (text : String) (radix : Radix) (value : Int) :
    size.readSigned (some text) radix.value = .ok value ↔
      DenotesSigned radix text.toList value ∧ Fits size.bits value := by
  rw [readSigned, keepFitting_eq_ok_iff, readSigned_value, symbols, accumulate_chars_eq_ok_iff]
  constructor
  · rintro ⟨⟨denotes, _⟩, fits⟩
    exact ⟨denotes, fits⟩
  · rintro ⟨denotes, fits⟩
    exact ⟨⟨denotes, fits_word fits⟩, fits⟩

theorem readPattern_eq_ok_iff (size : Subword) (text : String) (radix : Radix) (value : Int) :
    size.readPattern (some text) radix.value = .ok value ↔
      ∃ magnitude : Nat, DenotesUnsigned radix text.toList magnitude ∧ magnitude < weight size.bits ∧
        value = wrap size.bits magnitude := by
  have smaller := size.weight_lt
  have greatest : unsignedMax size.bits = weight size.bits - 1 := rfl
  rw [readPattern, bind_eq_ok_iff]
  simp only [readUnsigned_eq_ok_iff]
  -- The wide pattern goes back to the magnitude that it was made from.
  have back (magnitude : Nat) (small : magnitude ≤ 2 ^ 32 - 1) : unsigned 32 (wrap 32 magnitude) = magnitude := by
    apply unsigned_wrap_of_range
    · omega
    · rw [weight_word]
      omega
  constructor
  · rintro ⟨wide, ⟨magnitude, denotes, small, equal⟩, kept⟩
    rw [equal, back magnitude small] at kept
    split at kept
    · cases kept
    next inside =>
      rw [Except.ok.injEq] at kept
      exact ⟨magnitude, denotes, by omega, kept.symm⟩
  · rintro ⟨magnitude, denotes, inside, rfl⟩
    have small : magnitude ≤ 2 ^ 32 - 1 := by omega
    refine ⟨_, ⟨magnitude, denotes, small, rfl⟩, ?_⟩
    rw [back magnitude small, if_neg (by omega)]

theorem readSigned_given {size : Subword} {text : Option String} {radix value : Int}
    (read : size.readSigned text radix = .ok value) :
    ∃ numeral base, text = some numeral ∧ radix = Radix.value base :=
  MachineInt.readSigned_given ((keepFitting_eq_ok_iff ..).mp read).1

theorem readPattern_given {size : Subword} {text : Option String} {radix value : Int}
    (read : size.readPattern text radix = .ok value) :
    ∃ numeral base, text = some numeral ∧ radix = Radix.value base := by
  rw [readPattern, bind_eq_ok_iff] at read
  obtain ⟨_, wide, _⟩ := read
  exact readUnsigned_given wide

/-- A 32-bit pattern fits a small word if it is near either end of its range. -/
theorem fits_wrap_iff (size : Subword) {magnitude : Nat} (pattern : magnitude ≤ 2 ^ 32 - 1) :
    Fits size.bits (wrap 32 magnitude) ↔
      (magnitude : Int) < signWeight size.bits ∨ 2 ^ 32 - signWeight size.bits ≤ magnitude := by
  have positive := signWeight_pos size.bits
  have smaller := size.signWeight_lt
  rw [Fits, wrap, weight_word, signWeight_word]
  -- Adding the weight of the sign carries just when the pattern has its sign bit.
  by_cases sign : magnitude < 2 ^ 31
  · have kept : ((magnitude : Int) + 2 ^ 31) % 2 ^ 32 = magnitude + 2 ^ 31 := Int.emod_eq_of_lt (by omega) (by omega)
    rw [kept]
    omega
  · have carried : ((magnitude : Int) + 2 ^ 31) % 2 ^ 32 = magnitude - 2 ^ 31 := by omega
    rw [carried]
    omega

theorem readUnsigned_eq_ok_iff (size : Subword) (text : String) (radix : Radix) (value : Int) :
    size.readUnsigned (some text) radix.value = .ok value ↔
      ∃ magnitude : Nat, DenotesUnsigned radix text.toList magnitude ∧
        ((magnitude : Int) < signWeight size.bits ∨
          2 ^ 32 - signWeight size.bits ≤ magnitude ∧ magnitude ≤ 2 ^ 32 - 1) ∧
        value = wrap 32 magnitude := by
  have smaller := size.signWeight_lt
  rw [readUnsigned, keepFitting_eq_ok_iff, MachineInt.readUnsigned_eq_ok_iff]
  constructor
  · rintro ⟨⟨magnitude, denotes, pattern, equal⟩, fits⟩
    rw [equal] at fits
    rcases (size.fits_wrap_iff pattern).mp fits with low | high
    · exact ⟨magnitude, denotes, .inl low, equal⟩
    · exact ⟨magnitude, denotes, .inr ⟨high, pattern⟩, equal⟩
  · rintro ⟨magnitude, denotes, range, equal⟩
    have pattern : magnitude ≤ 2 ^ 32 - 1 := by omega
    have fits := (size.fits_wrap_iff pattern).mpr (by omega)
    rw [equal]
    exact ⟨⟨magnitude, denotes, pattern, rfl⟩, fits⟩

/-! ## The two unsigned readings -/

/-- What is taken for a pattern of either width is near zero, where both widths read it as it is. -/
theorem readPattern_eq_readUnsigned {size : Subword} {text : Option String} {radix narrow wide : Int}
    (small : size.readPattern text radix = .ok narrow) (large : size.readUnsigned text radix = .ok wide) :
    narrow = wide := by
  obtain ⟨numeral, base, rfl, rfl⟩ := readPattern_given small
  obtain ⟨magnitude, ⟨_, _, denotes⟩, inside, narrowed⟩ := (readPattern_eq_ok_iff ..).mp small
  obtain ⟨another, ⟨_, _, again⟩, range, widened⟩ := (readUnsigned_eq_ok_iff ..).mp large
  -- Both readings see the same number, and it is too small for the upper end.
  obtain ⟨_, rfl⟩ := denotes.unique again
  have twice := weight_eq size.bits_pos
  have room := size.signWeight_lt
  have near : (magnitude : Int) < signWeight size.bits := by omega
  have fits : Fits size.bits magnitude := ⟨by omega, near⟩
  rw [narrowed, widened, wrap_of_fits size.bits_pos fits, wrap_of_fits (by decide) (fits_word fits)]

/-! ## Failures -/

/-- The narrow reading fails as the wide one does, with the same cause; what it refuses besides is too large. -/
structure Narrows (wide narrow : Except ReadError Int) : Prop where
  kept : ∀ cause, wide = .error cause → narrow = .error cause
  refused : ∀ value cause, wide = .ok value → narrow = .error cause → cause.kind = .numericOverflow

theorem keepFitting_narrows (size : Subword) (text : Option String) (radix : Option Int)
    (reading : Except ReadError Int) : Narrows reading (size.keepFitting text radix reading) := by
  constructor
  · rintro cause rfl
    rfl
  · rintro value cause rfl failed
    change (if Fits size.bits value then _ else _) = _ at failed
    split at failed
    · cases failed
    · cases failed
      rfl

theorem readPattern_narrows (size : Subword) (text : Option String) (radix : Int) :
    Narrows (MachineInt.readUnsigned text radix) (size.readPattern text radix) := by
  constructor
  · intro cause failed
    rw [readPattern, failed]
    rfl
  · intro value cause read failed
    rw [readPattern, read] at failed
    change (if unsigned 32 value > unsignedMax size.bits then _ else _) = _ at failed
    split at failed
    · cases failed
      rfl
    · cases failed

/-- The three readings of a small word. Each accepts an interval of numbers, the last one a second interval at the
upper end of the 32-bit patterns; a text that both unsigned readings accept has one value; and no failure of a 32-bit
reading is changed, also where the text itself marks its radix. -/
theorem readings_language (size : Subword) :
    (∀ (text : String) (radix : Radix) (value : Int),
      (size.readSigned (some text) radix.value = .ok value ↔
        DenotesSigned radix text.toList value ∧
          -2 ^ (size.bits - 1) ≤ value ∧ value ≤ 2 ^ (size.bits - 1) - 1) ∧
      (size.readPattern (some text) radix.value = .ok value ↔
        ∃ magnitude : Nat, DenotesUnsigned radix text.toList magnitude ∧ magnitude ≤ 2 ^ size.bits - 1 ∧
          value = wrap size.bits magnitude) ∧
      (size.readUnsigned (some text) radix.value = .ok value ↔
        ∃ magnitude : Nat, DenotesUnsigned radix text.toList magnitude ∧
          (magnitude ≤ 2 ^ (size.bits - 1) - 1 ∨
            2 ^ 32 - 2 ^ (size.bits - 1) ≤ magnitude ∧ magnitude ≤ 2 ^ 32 - 1) ∧
          value = wrap 32 magnitude)) ∧
    ∀ (text : Option String) (radix : Int),
      (∀ narrow wide, size.readPattern text radix = .ok narrow → size.readUnsigned text radix = .ok wide →
        narrow = wide) ∧
      Narrows (MachineInt.readSigned text radix) (size.readSigned text radix) ∧
      Narrows (MachineInt.readUnsigned text radix) (size.readPattern text radix) ∧
      Narrows (MachineInt.readUnsigned text radix) (size.readUnsigned text radix) ∧
      Narrows (MachineInt.readMarked text) (size.readMarked text) := by
  constructor
  · intro text radix value
    have half : signWeight size.bits = (2 ^ (size.bits - 1) : Nat) := by cases size <;> decide
    have whole : weight size.bits = (2 ^ size.bits : Nat) := by cases size <;> decide
    have positive : 0 < 2 ^ (size.bits - 1) ∧ 0 < 2 ^ size.bits := ⟨Nat.two_pow_pos _, Nat.two_pow_pos _⟩
    -- The second interval begins above zero, so nothing is lost when it is said in natural numbers.
    have patterns : 2 ^ (size.bits - 1) ≤ 2 ^ 32 := by cases size <;> decide
    refine ⟨?_, ?_, ?_⟩
    · rw [readSigned_eq_ok_iff, fits_iff_pow]
    · rw [readPattern_eq_ok_iff, whole]
      refine exists_congr fun magnitude => and_congr_right fun _ => and_congr_left fun _ => ?_
      omega
    · rw [readUnsigned_eq_ok_iff, half]
      refine exists_congr fun magnitude => and_congr_right fun _ => and_congr_left fun _ => ?_
      omega
  · intro text radix
    refine ⟨?_, size.keepFitting_narrows .., size.readPattern_narrows .., size.keepFitting_narrows ..,
      size.keepFitting_narrows ..⟩
    intro narrow wide small large
    exact readPattern_eq_readUnsigned small large

/-- Half way up a byte the two unsigned readings part: only one takes 128, and only the other the pattern of -128 in
32 bits. Below, they agree. -/
theorem readings_language_byte :
    Subword.byte.readPattern (some "+80") 16 = .ok (-128) ∧
    Subword.byte.readUnsigned (some "4294967168") 10 = .ok (-128) ∧
    (Subword.byte.readPattern (some "7f") 16 = .ok 127 ∧ Subword.byte.readUnsigned (some "7f") 16 = .ok 127 ∧
      (127 : Int) = 127) ∧
    (MachineInt.readSigned (some "1?") 10 = .error (.notDigit ⟨"1?", 10⟩ 1) ∧
      Subword.byte.readSigned (some "1?") 10 = .error (.notDigit ⟨"1?", 10⟩ 1)) := by
  have half : DenotesUnsigned ⟨16, by decide, by decide⟩ "+80".toList 128 :=
    ⟨.plus, by decide, "80".toList, [8, 0], by decide, by decide, by decide, by decide⟩
  have upper : DenotesUnsigned .ten "4294967168".toList 4294967168 :=
    ⟨.absent, by decide, "4294967168".toList, [4, 2, 9, 4, 9, 6, 7, 1, 6, 8], by decide, by decide, by decide,
      by decide⟩
  have small : Subword.byte.readPattern (some "7f") 16 = .ok 127 := by rfl
  have large : Subword.byte.readUnsigned (some "7f") 16 = .ok 127 := by rfl
  have foreign : MachineInt.readSigned (some "1?") 10 = .error (.notDigit ⟨"1?", 10⟩ 1) := by rfl
  refine ⟨?_, ?_, ⟨small, large, ?_⟩, foreign, ?_⟩
  · exact ((readings_language .byte).1 "+80" ⟨16, by decide, by decide⟩ (-128)).2.1.mpr
      ⟨128, half, by decide, by decide⟩
  · exact ((readings_language .byte).1 "4294967168" .ten (-128)).2.2.mpr
      ⟨4294967168, upper, .inr ⟨by decide, by decide⟩, by decide⟩
  · exact ((readings_language .byte).2 (some "7f") 16).1 127 127 small large
  · exact ((readings_language .byte).2 (some "1?") 10).2.1.kept _ foreign

end Subword

end MachineInt
