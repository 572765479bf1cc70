import MachineInt.Proofs.Numeral.Signed

/-!
# Reading unsigned numerals

Short numerals are summed up in the narrow word and all others in the wide one, which cannot be told from the
answers: a short numeral is too small for either limit, and neither the test of the upper half nor the last
reinterpretation changes its value. So an unsigned text is read as if there were the wide word alone.
-/

namespace MachineInt

open Numeral

namespace Numeral

/-! ## Short lines -/

theorem DigitLine.valueOf_lt {radix : Radix} {line : List Symbol} {digits : List Nat}
    (spelled : DigitLine radix line digits) : radix.valueOf digits < radix.value ^ line.length := by
  rw [List.Forall₂.length_eq spelled]
  exact radix.valueOf_lt spelled.digits_lt

/-- Digits too few to reach the sign bit are within either limit. -/
theorem DigitLine.within_limit {radix : Radix} {line : List Symbol} {digits : List Nat}
    (spelled : DigitLine radix line digits) {bits room : Nat} (negative : Bool) (inside : line.length ≤ room)
    (short : (radix.value ^ room : Nat) ≤ signWeight bits) :
    limit bits negative ≤ -(radix.valueOf digits : Int) := by
  have small := spelled.valueOf_lt
  have longer := Nat.pow_le_pow_right radix.value_pos inside
  unfold limit minValue maxValue
  split <;> omega

/-- Even the first digit too many would have to be one of a line that is short. -/
theorem Ends.not_tooLarge {radix : Radix} {line : List Symbol} {bits room : Nat} {negative : Bool}
    (inside : line.length ≤ room) (short : (radix.value ^ room : Nat) ≤ signWeight bits) (index place : Nat) :
    ¬ Ends (limit bits negative) radix index [] line (.error (.tooLarge place)) := by
  rintro ⟨⟩
  next before after symbol digits digit split spelled within value beyond =>
    have longer : DigitLine radix (before ++ [symbol]) (digits ++ [digit]) :=
      List.rel_append spelled (.cons value .nil)
    have shorter : (before ++ [symbol]).length ≤ room := by
      rw [split] at inside
      simp only [List.length_append, List.length_cons, List.length_nil] at inside ⊢
      omega
    have enough := longer.within_limit negative shorter short
    rw [List.nil_append] at beyond
    omega

theorem Ends.of_short {radix : Radix} {index : Nat} {line : List Symbol} {outcome : Except Offence Int}
    {bits other room : Nat} {negative : Bool} (inside : line.length ≤ room)
    (short : (radix.value ^ room : Nat) ≤ signWeight bits)
    (alsoShort : (radix.value ^ room : Nat) ≤ signWeight other)
    (ends : Ends (limit bits negative) radix index [] line outcome) :
    Ends (limit other negative) radix index [] line outcome := by
  cases ends with
  | whole spelled within => exact .whole spelled (spelled.within_limit negative inside alsoShort)
  | @notDigit before after symbol digits split spelled within foreign =>
    have shorter : before.length ≤ room := by rw [split, List.length_append] at inside; omega
    exact .notDigit split spelled (spelled.within_limit negative shorter alsoShort) foreign
  | tooLarge split spelled within value beyond =>
    exact absurd (.tooLarge split spelled within value beyond) (Ends.not_tooLarge inside short index _)

theorem splitSign_length_le (index : Nat) (line : List Symbol) :
    (splitSign index line).2.2.length ≤ line.length := by
  unfold splitSign
  split
  · exact Nat.le_refl _
  · split <;> simp

theorem splitSign_negative_iff (index : Nat) (line : List Symbol) :
    (splitSign index line).1.getD false = true ↔ ∃ rest, line = .char '-' :: rest := by
  cases line with
  | nil => simp [splitSign]
  | cons symbol rest =>
    cases symbol with
    | chunk text => simp [splitSign, Symbol.sign?]
    | char c =>
      by_cases minus : c = '-'
      · simp [splitSign, Symbol.sign?, minus]
      · by_cases plus : c = '+' <;> simp [splitSign, Symbol.sign?, minus, plus]

/-- On a short line the width of the word plays no part. -/
theorem accumulate_of_short {radix : Radix} {line : List Symbol} {bits other : Nat}
    (short : (radix.value ^ line.length : Nat) ≤ signWeight bits)
    (alsoShort : (radix.value ^ line.length : Nat) ≤ signWeight other) (first : Nat) :
    accumulate bits radix first line = accumulate other radix first line := by
  have inside := splitSign_length_le first line
  unfold accumulate
  -- The sum ends in the same way under either limit, and a line ends in one way only.
  generalize splitSign first line = parts at inside
  obtain ⟨sign, index, body⟩ := parts
  have same : takeDigits (limit bits (sign.getD false)) radix index 0 body =
      takeDigits (limit other (sign.getD false)) radix index 0 body :=
    (takeDigits_iff (limit_nonpos ..) ..).mpr
      (.of_short inside alsoShort short ((takeDigits_iff (limit_nonpos ..) ..).mp rfl))
  simp only [same]

theorem isShort_pow {radix : Radix} {line : List Symbol} (short : isShort radix line = true) :
    radix.value ^ line.length ≤ 2 ^ 31 := by
  simp only [isShort, Bool.or_eq_true, Bool.and_eq_true, decide_eq_true_eq] at short
  rcases short with few | ⟨rfl, few⟩
  · calc radix.value ^ line.length ≤ 36 ^ line.length := Nat.pow_le_pow_left radix.le_max _
      _ ≤ 36 ^ 5 := Nat.pow_le_pow_right (by decide) few
      _ ≤ 2 ^ 31 := by decide
  · calc 10 ^ line.length ≤ 10 ^ 9 := Nat.pow_le_pow_right (by decide) few
      _ ≤ 2 ^ 31 := by decide

/-- The weight of the sign bit of the narrow word is out of reach for a short line. -/
theorem isShort_pow_le {radix : Radix} {line : List Symbol} (short : isShort radix line = true) :
    (radix.value ^ line.length : Nat) ≤ signWeight 32 := by
  rw [signWeight_word]
  exact_mod_cast isShort_pow short

/-- Without a minus a sum is not negative, and bounded by the length of the line. -/
theorem accumulate_range {bits : Nat} {radix : Radix} {first : Nat} {line : List Symbol} {value : Int}
    (noMinus : ∀ rest, line ≠ .char '-' :: rest) (read : accumulate bits radix first line = .ok value) :
    0 ≤ value ∧ value < (radix.value ^ line.length : Nat) ∧ value < signWeight bits := by
  have inside := splitSign_length_le first line
  have positive := splitSign_negative_iff first line
  generalize split : splitSign first line = parts at inside positive
  obtain ⟨sign, index, body⟩ := parts
  obtain ⟨_, digits, spelled, within, rfl⟩ := (accumulate_eq_ok_iff bits radix split value).mp read
  have unsigned : sign.getD false = false := by
    rw [Bool.eq_false_iff, ne_eq, positive]
    rintro ⟨rest, equal⟩
    exact noMinus rest equal
  have small := spelled.valueOf_lt
  have longer := Nat.pow_le_pow_right radix.value_pos inside
  simp only [unsigned, limit, maxValue, Bool.false_eq_true, if_false] at within longer ⊢
  omega

/-! ## The wide word alone -/

theorem upperHalf_eq_zero_iff {value : Int} (nonneg : 0 ≤ value) (small : value < signWeight 64) :
    upperHalf value = 0 ↔ value ≤ 2 ^ 32 - 1 := by
  rw [signWeight_wide] at small
  rw [upperHalf, unsigned, weight_wide, weight_word]
  omega

/-- What becomes of a sum in the wide word. -/
def narrowed (line : List Symbol) (value : Int) : Except ReadError Int :=
  if value ≤ 2 ^ 32 - 1 then .ok (wrap 32 value) else .error (.beyondUnsigned (spelled line))

theorem narrowed_eq_ok_iff (line : List Symbol) (sum value : Int) :
    narrowed line sum = .ok value ↔ sum ≤ 2 ^ 32 - 1 ∧ value = wrap 32 sum := by
  unfold narrowed
  split
  next small => simp only [small, Except.ok.injEq, true_and, eq_comm]
  next large => simp only [large, reduceCtorEq, false_and]

/-- Past the checks of emptiness and minus, an unsigned line is summed up in the wide word whatever its length. -/
theorem unsignedLine_eq (radix : Radix) (first : Nat) (symbol : Symbol) (rest : List Symbol)
    (noMinus : symbol ≠ .char '-') :
    unsignedLine first (symbol :: rest) radix.value =
      accumulate 64 radix first (symbol :: rest) >>= narrowed (symbol :: rest) := by
  have unsigned : ∀ other, symbol :: rest ≠ .char '-' :: other := by
    rintro other ⟨⟩
    exact noMinus rfl
  simp only [unsignedLine, if_neg noMinus, readRadix_value]
  change (if isShort radix (symbol :: rest) then _ else _) = _
  split
  next short =>
    have few := isShort_pow_le short
    have wider : signWeight 32 ≤ signWeight 64 := by decide
    -- A short sum is the same in the wide word, and it is small enough to be left alone there.
    rw [accumulate_of_short few (few.trans wider) first]
    cases read : accumulate 64 radix first (symbol :: rest) with
    | error cause => rfl
    | ok value =>
      have range := accumulate_range unsigned read
      rw [signWeight_word] at few
      have fits : Fits 32 value := by rw [fits_word_iff]; omega
      change _ = narrowed (symbol :: rest) value
      rw [narrowed, if_pos (by omega), wrap_of_fits (by decide) fits]
  · cases read : accumulate 64 radix first (symbol :: rest) with
    | error cause => rfl
    | ok value =>
      have range := accumulate_range unsigned read
      change (if upperHalf value ≠ 0 then _ else _) = narrowed (symbol :: rest) value
      rw [narrowed, ite_not]
      simp only [upperHalf_eq_zero_iff range.1 range.2.2]

/-! ## Texts -/

theorem detachSign_eq_minus_iff (text : List Char) :
    (detachSign text).1 = .minus ↔ ∃ rest, text = '-' :: rest := by
  unfold detachSign
  split <;> simp_all

theorem detachSign_ne_minus {text : List Char} (noMinus : ∀ rest, text ≠ '-' :: rest) :
    (detachSign text).1 ≠ .minus := by
  rw [ne_eq, detachSign_eq_minus_iff, not_exists]
  exact noMinus

/-- A signed numeral without a minus is an unsigned one. -/
theorem denotesSigned_iff_unsigned {radix : Radix} {text : List Char} (noMinus : ∀ rest, text ≠ '-' :: rest)
    (value : Int) :
    DenotesSigned radix text value ↔
      ∃ magnitude : Nat, DenotesUnsigned radix text magnitude ∧ value = magnitude := by
  constructor
  · rintro ⟨sign, magnitude, denotes, rfl⟩
    have unsigned := detachSign_ne_minus noMinus
    rw [((denotes_iff ..).mp denotes).1] at unsigned
    refine ⟨magnitude, ⟨sign, unsigned, denotes⟩, ?_⟩
    cases sign with
    | minus => exact absurd rfl unsigned
    | absent | plus => rfl
  · rintro ⟨magnitude, ⟨sign, unsigned, denotes⟩, rfl⟩
    refine ⟨sign, magnitude, denotes, ?_⟩
    cases sign with
    | minus => exact absurd rfl unsigned
    | absent | plus => rfl

theorem DenotesUnsigned.nonempty {radix : Radix} {text : List Char} {magnitude : Nat}
    (denotes : DenotesUnsigned radix text magnitude) : text ≠ [] := by
  rintro rfl
  obtain ⟨_, _, denotes⟩ := denotes
  exact ((denotes_iff ..).mp denotes).2.1 rfl

theorem DenotesUnsigned.noMinus {radix : Radix} {text : List Char} {magnitude : Nat}
    (denotes : DenotesUnsigned radix text magnitude) : ∀ rest, text ≠ '-' :: rest := by
  rintro rest rfl
  obtain ⟨_, unsigned, denotes⟩ := denotes
  exact unsigned ((denotes_iff ..).mp denotes).1.symm

end Numeral

theorem readUnsigned_empty {text : String} (empty : text.toList = []) (radix : Int) :
    readUnsigned (some text) radix = .error (.noDigits ⟨"", radix⟩) := by
  rw [readUnsigned, symbols, empty, List.map_nil, unsignedLine]

theorem readUnsigned_minus {text : String} {rest : List Char} (minus : text.toList = '-' :: rest) (radix : Int) :
    readUnsigned (some text) radix = .error (.minusUnsigned (spelled (symbols text))) := by
  rw [readUnsigned, symbols, minus, List.map_cons, unsignedLine, if_pos rfl]

section

variable {text : String} (nonempty : text.toList ≠ []) (noMinus : ∀ rest, text.toList ≠ '-' :: rest)
include nonempty noMinus

theorem exists_first : ∃ c rest, text.toList = c :: rest ∧ Symbol.char c ≠ .char '-' := by
  obtain ⟨c, rest, shape⟩ := List.exists_cons_of_ne_nil nonempty
  refine ⟨c, rest, shape, ?_⟩
  rintro ⟨⟩
  exact noMinus rest shape

theorem readUnsigned_eq_wide (radix : Radix) :
    readUnsigned (some text) radix.value = accumulate 64 radix 0 (symbols text) >>= narrowed (symbols text) := by
  obtain ⟨c, rest, shape, other⟩ := exists_first nonempty noMinus
  rw [readUnsigned, symbols, shape, List.map_cons, unsignedLine_eq radix 0 (.char c) (rest.map .char) other]

end

/-- An unsigned text is read just when it is an unsigned numeral that a pattern has room for. -/
theorem readUnsigned_eq_ok_iff (text : String) (radix : Radix) (value : Int) :
    readUnsigned (some text) radix.value = .ok value ↔
      ∃ magnitude : Nat, DenotesUnsigned radix text.toList magnitude ∧ magnitude ≤ 2 ^ 32 - 1 ∧
        value = wrap 32 magnitude := by
  by_cases empty : text.toList = []
  · rw [readUnsigned_empty empty]
    constructor
    · rintro ⟨⟩
    · rintro ⟨_, denotes, _⟩
      exact absurd empty denotes.nonempty
  by_cases minus : ∃ rest, text.toList = '-' :: rest
  · obtain ⟨rest, shape⟩ := minus
    rw [readUnsigned_minus shape]
    constructor
    · rintro ⟨⟩
    · rintro ⟨_, denotes, _⟩
      exact absurd shape (denotes.noMinus rest)
  rw [not_exists] at minus
  rw [readUnsigned_eq_wide empty minus, bind_eq_ok_iff, symbols]
  simp only [accumulate_chars_eq_ok_iff, narrowed_eq_ok_iff, denotesSigned_iff_unsigned minus]
  constructor
  · rintro ⟨_, ⟨⟨magnitude, denotes, rfl⟩, _⟩, small, wrapped⟩
    exact ⟨magnitude, denotes, by omega, wrapped⟩
  · rintro ⟨magnitude, denotes, small, wrapped⟩
    have fits : Fits 64 magnitude := by rw [Fits, signWeight_wide]; omega
    exact ⟨magnitude, ⟨⟨magnitude, denotes, rfl⟩, fits⟩, by omega, wrapped⟩

theorem readUnsigned_given {text : Option String} {radix value : Int} (read : readUnsigned text radix = .ok value) :
    ∃ numeral base, text = some numeral ∧ radix = Radix.value base := by
  cases text with
  | none => cases read
  | some numeral =>
    rw [readUnsigned] at read
    -- Emptiness and a minus are refused before the radix is looked at.
    cases line : symbols numeral with
    | nil =>
      rw [line] at read
      cases read
    | cons symbol rest =>
      rw [line, unsignedLine] at read
      split at read
      · cases read
      · obtain ⟨base, given, _⟩ := (bind_eq_ok_iff ..).mp read
        exact ⟨numeral, base, rfl, readRadix_given given⟩

end MachineInt
