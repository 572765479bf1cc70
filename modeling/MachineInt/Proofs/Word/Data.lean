import MachineInt.Proofs.Json.Number
import MachineInt.Proofs.Word.Making

/-!
# Words from data

Data makes a word just when its two fields stand for the width and the value of one. A number stands for the integer
that it is, and no width or value of a word is too large for that. This last is all that is asked of the way in which
data is taken for integers.
-/

namespace MachineInt

theorem Width.ofInt?_eq_some_iff (given : Int) (size : Width) : ofInt? given = some size ↔ given = size.bits := by
  constructor
  · intro found
    have equal := List.find?_some found
    exact eq_of_beq equal
  · rintro rfl
    exact size.ofInt?_bits

namespace Word

/-! ## Fields -/

section

variable [Intake]

theorem requiredWidth_eq_ok_iff (fields : List (String × Json)) (size : Width) :
    requiredWidth fields = .ok size ↔ requiredInteger fields "width" = .ok (size.bits : Int) := by
  unfold requiredWidth
  cases requiredInteger fields "width" with
  | error fault => simp [Bind.bind, Except.bind]
  | ok given =>
    simp only [Bind.bind, Except.bind, Except.ok.injEq]
    rw [← Width.ofInt?_eq_some_iff]
    cases Width.ofInt? given <;> simp

/-- A word takes its width and its value from the fields of these names. -/
theorem ofFields_eq_ok_iff (fields : List (String × Json)) (word : Word) :
    ofFields fields = .ok word ↔
      requiredInteger fields "width" = .ok (word.width.bits : Int) ∧
      requiredInteger fields "value" = .ok word.value := by
  rw [← requiredWidth_eq_ok_iff, ofFields]
  cases requiredWidth fields with
  | error fault => cases requiredInteger fields "value" <;> simp
  | ok size =>
    cases requiredInteger fields "value" with
    | error fault => simp
    | ok value =>
      obtain ⟨other, number, fits⟩ := word
      simp only [Except.ok.injEq]
      -- The range is checked for the width that was found, and a word has it already.
      split
      · simp
      next outside =>
        constructor
        · rintro ⟨⟩
        · rintro ⟨rfl, rfl⟩
          exact absurd fits outside

theorem ofData_eq_ok_iff (datum : Json) (word : Word) :
    ofData datum = .ok word ↔ ∃ fields, datum = .object fields ∧ ofFields fields = .ok word := by
  cases datum with
  | object fields => cases made : ofFields fields <;> simp [ofData, made, Except.mapError]
  | null | bool | number | string | array => simp [ofData]

end

/-! ## Numbers -/

/-- Numbers are taken for the integers that they are: all integers, and the floating-point numbers in the range of a
word. -/
structure Intake.Faithful [Intake] : Prop where
  int (value : Int) : Intake.integer (.int value) = .ok value
  number {number : Number} {value : Int} (integral : number.IsInt value) (fits : Fits 32 value) :
    Intake.integer (.number number) = .ok value

/-- A floating-point number in the range of a word is too small to be refused for its size. -/
theorem integerOf_number {number : Number} {value : Int} (integral : number.IsInt value) (fits : Fits 32 value) :
    integerOf (.number number) = .ok value := by
  rw [Number.isInt_iff] at integral
  cases number with
  | int other =>
    cases integral
    rfl
  | float x =>
    cases x with
    | finite negative mantissa exponent =>
      have inside : minValue 64 < value ∧ value < signWeight 64 := by
        rw [Fits, signWeight_word] at fits
        rw [minValue, signWeight_wide]
        omega
      change (Binary64.finite negative mantissa exponent).toInt? = some value at integral
      simp only [integerOf, integerOfFloat, integral, if_pos inside]
    | infinite negative => cases integral
    | notANumber => cases integral

theorem lax_faithful : Intake.Faithful := ⟨fun _ => rfl, integerOf_number⟩

end Word

end MachineInt
