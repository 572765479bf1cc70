import MachineInt.Proofs.Numeral.Subword
import MachineInt.Proofs.Word.Making

/-!
# Reading words

Four readings are behind one: of 32 bits or fewer, signed or not. They obey one law all the same. A text makes a word
just when it is a numeral of the signedness and its number is in the range of the width; the word then is the one that
the low bits of the number make, so it passes the validation of words in every case.
-/

namespace MachineInt.Word

open Numeral

/-! ## The law -/

/-- The number that a numeral of a signedness denotes. Without a sign bit there is no minus. -/
def Denoted : Bool → Radix → List Char → Int → Prop
  | false, radix, text, number => DenotesSigned radix text number
  | true, radix, text, number => ∃ magnitude : Nat, DenotesUnsigned radix text magnitude ∧ number = magnitude

/-- The numbers of a width, with a sign bit or without. -/
def InRange (bits : Nat) : Bool → Int → Prop
  | false, number => -2 ^ (bits - 1) ≤ number ∧ number < 2 ^ (bits - 1)
  | true, number => 0 ≤ number ∧ number < 2 ^ bits

/-- There is a text, a radix, and a number in range that the text denotes in it. -/
def Readable (text : Option String) (radix : Int) (size : Width) (isUnsigned : Bool) (number : Int) : Prop :=
  ∃ numeral base, text = some numeral ∧ radix = Radix.value base ∧ Denoted isUnsigned base numeral.toList number ∧
    InRange size.bits isUnsigned number

theorem inRange_false_iff (bits : Nat) (number : Int) : InRange bits false number ↔ Fits bits number := by
  rw [InRange, Fits, signWeight_eq_pow]

theorem inRange_true_iff (bits : Nat) (number : Int) :
    InRange bits true number ↔ 0 ≤ number ∧ number < weight bits := by
  rw [InRange, weight_eq_pow]

/-! ## Four readings -/

theorem readValue_signed_eq_ok_iff (text : String) (radix : Radix) (size : Width) (value : Int) :
    readValue (some text) radix.value size false = .ok value ↔
      DenotesSigned radix text.toList value ∧ Fits size.bits value := by
  cases size with
  | eight => exact Subword.byte.readSigned_eq_ok_iff text radix value
  | sixteen => exact Subword.short.readSigned_eq_ok_iff text radix value
  | thirtyTwo =>
    rw [readValue, readSigned_value, symbols, accumulate_chars_eq_ok_iff]
    rfl

theorem readValue_unsigned_eq_ok_iff (text : String) (radix : Radix) (size : Width) (value : Int) :
    readValue (some text) radix.value size true = .ok value ↔
      ∃ magnitude : Nat, DenotesUnsigned radix text.toList magnitude ∧ magnitude < weight size.bits ∧
        value = wrap size.bits magnitude := by
  cases size with
  | eight => exact Subword.byte.readPattern_eq_ok_iff text radix value
  | sixteen => exact Subword.short.readPattern_eq_ok_iff text radix value
  | thirtyTwo =>
    have whole (magnitude : Nat) : (magnitude : Int) < weight Width.thirtyTwo.bits ↔ magnitude ≤ 2 ^ 32 - 1 := by
      rw [Width.bits, weight_word]
      omega
    simp only [readValue, readUnsigned_eq_ok_iff, whole]
    rfl

theorem readValue_given {text : Option String} {radix : Int} {size : Width} {isUnsigned : Bool} {value : Int}
    (read : readValue text radix size isUnsigned = .ok value) :
    ∃ numeral base, text = some numeral ∧ radix = Radix.value base := by
  cases size with
  | eight =>
    cases isUnsigned with
    | false => exact Subword.readSigned_given read
    | true => exact Subword.readPattern_given read
  | sixteen =>
    cases isUnsigned with
    | false => exact Subword.readSigned_given read
    | true => exact Subword.readPattern_given read
  | thirtyTwo =>
    cases isUnsigned with
    | false => exact readSigned_given read
    | true => exact readUnsigned_given read

/-- All four are one: the value that is read is what the width keeps of a number that the text denotes. -/
theorem readValue_eq_ok_iff (text : Option String) (radix : Int) (size : Width) (isUnsigned : Bool) (value : Int) :
    readValue text radix size isUnsigned = .ok value ↔
      ∃ number, Readable text radix size isUnsigned number ∧ value = wrap size.bits number := by
  constructor
  · intro read
    obtain ⟨numeral, base, rfl, rfl⟩ := readValue_given read
    cases isUnsigned with
    | false =>
      -- A number in the signed range is kept as it is.
      obtain ⟨denotes, fits⟩ := (readValue_signed_eq_ok_iff ..).mp read
      refine ⟨value, ⟨numeral, base, rfl, rfl, denotes, (inRange_false_iff ..).mpr fits⟩, ?_⟩
      rw [wrap_of_fits size.bits_pos fits]
    | true =>
      obtain ⟨magnitude, denotes, small, equal⟩ := (readValue_unsigned_eq_ok_iff ..).mp read
      have range := (inRange_true_iff size.bits magnitude).mpr ⟨Int.natCast_nonneg magnitude, small⟩
      exact ⟨magnitude, ⟨numeral, base, rfl, rfl, ⟨magnitude, denotes, rfl⟩, range⟩, equal⟩
  · rintro ⟨number, ⟨numeral, base, rfl, rfl, denoted, range⟩, rfl⟩
    cases isUnsigned with
    | false =>
      have fits := (inRange_false_iff ..).mp range
      rw [readValue_signed_eq_ok_iff, wrap_of_fits size.bits_pos fits]
      exact ⟨denoted, fits⟩
    | true =>
      obtain ⟨magnitude, denotes, rfl⟩ := denoted
      rw [readValue_unsigned_eq_ok_iff]
      exact ⟨magnitude, denotes, ((inRange_true_iff ..).mp range).2, rfl⟩

/-! ## The word -/

theorem read_bits (text : Option String) (radix : Int) (size : Width) (isUnsigned : Bool) :
    read text radix size.bits isUnsigned =
      (readValue text radix size isUnsigned).mapError .reading >>= fun value =>
        (make size.bits value).mapError .invalid := by
  rw [read, size.ofInt?_bits]

/-- What was read is validated once more, and passes: it is a word of the width already. -/
theorem read_readable {text : Option String} {radix : Int} {size : Width} {isUnsigned : Bool} {number : Int}
    (readable : Readable text radix size isUnsigned number) :
    read text radix size.bits isUnsigned = .ok (wrapped size number) := by
  have value := (readValue_eq_ok_iff ..).mpr ⟨number, readable, rfl⟩
  rw [read_bits, value]
  change (make size.bits (wrap size.bits number)).mapError _ = _
  rw [make_bits (fits_wrap size.bits_pos number)]
  rfl

end MachineInt.Word
