import MachineInt.Proofs.Numeral.Accumulation
import MachineInt.Proofs.TwosComplement

/-!
# Reading signed numerals

A text is read just when it is a numeral of the radix and the number it denotes fits the word; that number is then
the value. The length of the text plays no part, so zeros in front are never too many.
-/

namespace MachineInt

/-- The reading gives no value, for a reason of this kind. -/
def FailsAs (kind : FailureKind) (reading : Except ReadError Int) : Prop :=
  ∃ cause, reading = .error cause ∧ cause.kind = kind

theorem bind_eq_ok_iff {ε α β : Type} (first : Except ε α) (next : α → Except ε β) (result : β) :
    (first >>= next) = .ok result ↔ ∃ middle, first = .ok middle ∧ next middle = .ok result := by
  cases first with
  | error cause => simp [Bind.bind, Except.bind]
  | ok middle => simp [Bind.bind, Except.bind]

theorem ofInt_value (radix : Radix) : Radix.ofInt radix.value = .ok radix := by
  have low := radix.two_le
  have high := radix.le_max
  have small : ¬ (radix.value : Int) < minRadix := by simp only [minRadix]; omega
  have large : ¬ (radix.value : Int) > maxRadix := by omega
  simp [Radix.ofInt, small, large]

theorem readRadix_value (radix : Radix) : readRadix radix.value = .ok radix := by
  rw [readRadix, ofInt_value]
  rfl

theorem readRadix_outside {radix : Int} (outside : radix < 2 ∨ 36 < radix) :
    ∃ cause, readRadix radix = .error (.badRadix cause) := by
  unfold readRadix Radix.ofInt
  by_cases small : radix < minRadix
  · exact ⟨.tooSmall radix, by simp [small, Except.mapError]⟩
  · have large : radix > maxRadix := by simp only [minRadix, maxRadix] at small ⊢; omega
    exact ⟨.tooLarge radix, by simp [small, large, Except.mapError]⟩

namespace Numeral

theorem accumulate_chars_eq_ok_iff (bits : Nat) (radix : Radix) (first : Nat) (text : List Char) (value : Int) :
    accumulate bits radix first (text.map .char) = .ok value ↔
      DenotesSigned radix text value ∧ Fits bits value := by
  rw [accumulate_eq_ok_iff bits radix (splitSign_chars first text), ne_eq, List.map_eq_nil_iff]
  simp only [digitLine_chars, ← Sign.apply_eq, limit_le_iff]
  constructor
  · rintro ⟨nonempty, digits, spelled, fits, rfl⟩
    exact ⟨⟨_, _, (denotes_iff ..).mpr ⟨rfl, nonempty, digits, spelled, rfl⟩, rfl⟩, fits⟩
  · rintro ⟨⟨sign, magnitude, denotes, rfl⟩, fits⟩
    obtain ⟨rfl, nonempty, digits, spelled, rfl⟩ := (denotes_iff ..).mp denotes
    exact ⟨nonempty, digits, spelled, fits, rfl⟩

end Numeral

open Numeral

theorem readSigned_value (text : String) (radix : Radix) :
    readSigned (some text) radix.value = accumulate 32 radix 0 (symbols text) := by
  simp only [readSigned, signedLine, readRadix_value]
  rfl

/-- A number is a radix or outside the range of them. -/
theorem exists_radix_or_outside (given : Int) : (∃ radix : Radix, given = radix.value) ∨ given < 2 ∨ 36 < given := by
  by_cases inside : 2 ≤ given ∧ given ≤ 36
  · exact .inl ⟨⟨given.toNat, by omega, by simp only [maxRadix]; omega⟩, by simp only; omega⟩
  · exact .inr (by omega)

theorem readRadix_given {given : Int} {radix : Radix} (read : readRadix given = .ok radix) : given = radix.value := by
  rcases exists_radix_or_outside given with ⟨base, rfl⟩ | outside
  · rw [readRadix_value] at read
    cases read
    rfl
  · obtain ⟨cause, refused⟩ := readRadix_outside outside
    rw [refused] at read
    cases read

/-- Nothing is read without a text and a radix. -/
theorem readSigned_given {text : Option String} {radix value : Int} (read : readSigned text radix = .ok value) :
    ∃ numeral base, text = some numeral ∧ radix = Radix.value base := by
  cases text with
  | none => cases read
  | some numeral =>
    rw [readSigned, signedLine, bind_eq_ok_iff] at read
    obtain ⟨base, given, _⟩ := read
    exact ⟨numeral, base, rfl, readRadix_given given⟩

end MachineInt
