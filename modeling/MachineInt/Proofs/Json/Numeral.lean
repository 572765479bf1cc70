import MachineInt.Json.Reader
import MachineInt.Json.Writer
import Mathlib.Algebra.Group.Nat.Defs
import Mathlib.Data.List.Basic

/-!
# Integers in text

An integer is written as the decimal digits of its magnitude, behind a minus if it is negative. The reader takes exactly
this much off the front of a text, as long as what comes after a value cannot be taken for more of the number, and it
takes it for the same integer.
-/

namespace MachineInt.Json

/-- What may come after a value: nothing, or a character that no number goes on with. -/
def EndsValue (tail : List Char) : Prop := ∀ c ∈ tail.head?, c = ',' ∨ c = ']' ∨ c = '\x7d'

theorem endsValue_nil : EndsValue [] := by simp [EndsValue]

theorem endsValue_comma (tail : List Char) : EndsValue (',' :: tail) := by simp [EndsValue]

theorem endsValue_closeArray (tail : List Char) : EndsValue (']' :: tail) := by simp [EndsValue]

theorem endsValue_closeObject (tail : List Char) : EndsValue ('\x7d' :: tail) := by simp [EndsValue]

/-! ## Digits -/

theorem decimalValue_toDigits (magnitude : Nat) : decimalValue (Nat.toDigits 10 magnitude) = magnitude := by
  have value := Nat.ofDigitChars_ten_toDigits (n := magnitude)
  rw [Nat.ofDigitChars_eq_foldl] at value
  simpa only [decimalValue, Nat.mul_comm] using value

theorem isDigit_of_mem_toDigits {magnitude : Nat} {c : Char} (member : c ∈ Nat.toDigits 10 magnitude) :
    c.isDigit = true :=
  Nat.isDigit_of_mem_toDigits (by decide) (by decide) member

theorem ne_of_isDigit {c other : Char} (isDigit : c.isDigit = true) (noDigit : other.isDigit = false) : c ≠ other := by
  rintro rfl
  rw [isDigit] at noDigit
  cases noDigit

/-- Only zero is written with a zero in front. -/
theorem head?_toDigits_ne_zero {magnitude : Nat} (nonzero : magnitude ≠ 0) :
    (Nat.toDigits 10 magnitude).head? ≠ some '0' := by
  induction magnitude using Nat.strongRecOn with
  | ind magnitude ih =>
    rw [Nat.toDigits_eq_if (by decide)]
    split
    · simpa using nonzero
    · have rest := ih (magnitude / 10) (by omega) (by omega)
      rwa [List.head?_append_of_ne_nil _ Nat.toDigits_ne_nil]

theorem wholeDigits_eq_takeWhile {text : List Char} (other : text.head? ≠ some '0') :
    wholeDigits text = text.takeWhile Char.isDigit := by
  unfold wholeDigits
  split
  · simp at other
  · rfl

theorem length_wholeDigits_le (text : List Char) : (wholeDigits text).length ≤ text.length := by
  unfold wholeDigits
  split
  · simp
  · exact (List.takeWhile_sublist _).length_le

theorem length_integralPart_le (text : List Char) : (integralPart text).length ≤ text.length := by
  unfold integralPart
  split
  · exact Nat.succ_le_succ (length_wholeDigits_le _)
  · exact length_wholeDigits_le _

section

variable {tail : List Char} (ends : EndsValue tail)
include ends

theorem takeWhile_isDigit_tail : tail.takeWhile Char.isDigit = [] := by
  cases tail with
  | nil => rfl
  | cons c rest => rcases ends c rfl with rfl | rfl | rfl <;> rfl

theorem fractionDigits_tail : fractionDigits tail = [] := by
  cases tail with
  | nil => rfl
  | cons c rest => rcases ends c rfl with rfl | rfl | rfl <;> rfl

theorem exponentPart?_tail : exponentPart? tail = none := by
  cases tail with
  | nil => rfl
  | cons c rest => rcases ends c rfl with rfl | rfl | rfl <;> rfl

theorem wholeDigits_toDigits (magnitude : Nat) :
    wholeDigits (Nat.toDigits 10 magnitude ++ tail) = Nat.toDigits 10 magnitude := by
  by_cases zero : magnitude = 0
  · rw [zero, Nat.toDigits_zero]
    rfl
  · have other : (Nat.toDigits 10 magnitude ++ tail).head? ≠ some '0' := by
      rw [List.head?_append_of_ne_nil _ Nat.toDigits_ne_nil]
      exact head?_toDigits_ne_zero zero
    rw [wholeDigits_eq_takeWhile other, List.takeWhile_append_of_pos fun _ => isDigit_of_mem_toDigits,
      takeWhile_isDigit_tail ends, List.append_nil]

end

/-! ## Integers -/

/-- The text of an integer: its magnitude behind a minus, if it is negative. -/
def integerText (value : Int) : List Char := (if value < 0 then ['-'] else []) ++ Nat.toDigits 10 value.natAbs

theorem numberText_int (value : Int) : (numberText (.int value)).toList = integerText value := by
  rw [numberText, Int.toString_eq_repr, Int.repr_eq_if, integerText]
  by_cases negative : value < 0
  · have magnitude : (-value).toNat = value.natAbs := by omega
    simp [negative, Int.not_le.mpr negative, magnitude]
  · have magnitude : value.toNat = value.natAbs := by omega
    simp [negative, Int.not_lt.mp negative, magnitude]

theorem integerText_shape (value : Int) : ∃ digit rest, digit.isDigit = true ∧
    integerText value = (if value < 0 then ['-'] else []) ++ digit :: rest := by
  obtain ⟨digit, rest, shape⟩ := List.exists_cons_of_ne_nil (Nat.toDigits_ne_nil (n := value.natAbs) (b := 10))
  refine ⟨digit, rest, isDigit_of_mem_toDigits (shape ▸ List.mem_cons_self), ?_⟩
  rw [integerText, shape]

theorem length_integerText_le {value : Int} {count : Nat} (positive : 0 < count) (small : value.natAbs < 10 ^ count) :
    (integerText value).length ≤ count + 1 := by
  have digits := (Nat.length_toDigits_le_iff (by decide) positive).mpr small
  rw [integerText, List.length_append, Nat.add_comm]
  refine Nat.add_le_add digits ?_
  split <;> decide

/-- A digit is no minus, so the sign is told from the first character. -/
theorem minus_apart (value : Int) (tail : List Char) :
    (match integerText value ++ tail with
      | '-' :: rest => (true, rest)
      | _ => (false, integerText value ++ tail)) = (decide (value < 0), Nat.toDigits 10 value.natAbs ++ tail) := by
  by_cases negative : value < 0
  · simp [integerText, negative]
  · have text : integerText value = Nat.toDigits 10 value.natAbs := by
      rw [integerText, if_neg negative, List.nil_append]
    obtain ⟨digit, rest, isDigit, shape⟩ := integerText_shape value
    rw [decide_eq_false negative, ← text]
    split
    next more minus =>
      rw [shape, if_neg negative] at minus
      exact absurd (List.cons.inj minus).1 (ne_of_isDigit isDigit rfl)
    · rfl

theorem number?_integerText (value : Int) {tail : List Char} (ends : EndsValue tail) :
    number? (integerText value ++ tail) = some (.int value, (integerText value).length) := by
  have size : (integerText value).length = (if value < 0 then 1 else 0) + (Nat.toDigits 10 value.natAbs).length := by
    rw [integerText, List.length_append]
    split <;> rfl
  have digits : (Nat.toDigits 10 value.natAbs).isEmpty = false := List.isEmpty_eq_false_iff.mpr Nat.toDigits_ne_nil
  have number : (if decide (value < 0) then -(value.natAbs : Int) else value.natAbs) = value := by
    simp only [decide_eq_true_eq]
    omega
  unfold number?
  split
  next negative body sign =>
    obtain ⟨rfl, rfl⟩ := Prod.mk.inj (sign.symm.trans (minus_apart value tail))
    simp only [wholeDigits_toDigits ends, digits, List.drop_left, fractionDigits_tail ends, List.isEmpty_nil, if_true,
      List.drop_zero, exponentPart?_tail ends, decimalValue_toDigits, number, size]
    simp

end MachineInt.Json
