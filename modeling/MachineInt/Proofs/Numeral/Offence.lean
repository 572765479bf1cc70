import MachineInt.Numeral.Report
import MachineInt.Proofs.Numeral.Signed
import Mathlib.Order.Bounds.Basic

/-!
# The first offence

A text that is no numeral of a word is given up at one place: the first one after the sign that holds no digit of the
radix, or at which the numeral so far denotes a number that the word has no room for. The place decides what kind of
failure it is and is named in the report. Neither guard of the sum is early or late against the number itself, so the
place can be told without the sum.
-/

namespace MachineInt

namespace Numeral

/-! ## Offences -/

/-- The place holds a character that is no digit of the radix. -/
def ForeignAt (radix : Radix) (text : List Char) (place : Nat) : Prop :=
  ∃ c, text[place]? = some c ∧ ∀ digit, ¬ radix.IsDigit c digit

/-- The numeral that ends with the place denotes a number, but no word of `bits` bits. -/
def ExceedsAt (bits : Nat) (radix : Radix) (text : List Char) (place : Nat) : Prop :=
  ∃ value, DenotesSigned radix (text.take (place + 1)) value ∧ ¬ Fits bits value

/-- A place of the text after the sign that no numeral of a word can have. -/
structure OffendsAt (bits : Nat) (radix : Radix) (text : List Char) (place : Nat) : Prop where
  afterSign : (detachSign text).1.text.length ≤ place
  inside : place < text.length
  offence : ForeignAt radix text place ∨ ExceedsAt bits radix text place

def Offence.place : Offence → Nat
  | .notDigit place | .tooLarge place => place

/-- The first offence of a text, and which of the two it is. A character that is no digit ends the numeral, so both
cannot be at one place. -/
inductive FirstOffence (bits : Nat) (radix : Radix) (text : List Char) : Offence → Prop
  | notDigit {place : Nat} (least : IsLeast {place | OffendsAt bits radix text place} place)
      (foreign : ForeignAt radix text place) : FirstOffence bits radix text (.notDigit place)
  | tooLarge {place : Nat} (least : IsLeast {place | OffendsAt bits radix text place} place)
      (digit : ¬ ForeignAt radix text place) : FirstOffence bits radix text (.tooLarge place)

/-! ## Places after the sign -/

/-- A smaller magnitude fits with the same sign. -/
theorem fits_apply_of_le {bits small large : Nat} {sign : Sign} (le : small ≤ large)
    (fits : Fits bits (sign.apply large)) : Fits bits (sign.apply small) := by
  have within := (limit_le_iff bits sign large).mpr fits
  exact (limit_le_iff bits sign small).mp (by omega)

section Places

variable {bits : Nat} {radix : Radix} {text body before rest : List Char} {sign : Sign} {digits : List Nat}

/-- What is cut off behind the sign begins with the same sign. -/
theorem detachSign_take (split : detachSign text = (sign, body)) (count : Nat) :
    detachSign (text.take (sign.text.length + (count + 1))) = (sign, body.take (count + 1)) := by
  unfold detachSign at split
  split at split
  · cases split
    simp [Sign.text, detachSign, Nat.add_comm 1]
  · cases split
    simp [Sign.text, detachSign, Nat.add_comm 1]
  next noPlus noMinus =>
    cases split
    cases text with
    | nil => rfl
    | cons c rest =>
      -- The first character is the same, so there is no sign here either.
      rw [Sign.text, List.length_nil, Nat.zero_add, List.take_succ_cons, detachSign]
      · rintro _ ⟨⟩
        exact noPlus rest rfl
      · rintro _ ⟨⟩
        exact noMinus rest rfl

theorem foreignAt_iff (split : detachSign text = (sign, body)) (offset : Nat) :
    ForeignAt radix text (sign.text.length + offset) ↔
      ∃ c, body[offset]? = some c ∧ ∀ digit, ¬ radix.IsDigit c digit := by
  rw [ForeignAt, eq_append_of_detachSign split, List.getElem?_append_right (Nat.le_add_right ..),
    Nat.add_sub_cancel_left]

theorem exceedsAt_iff (split : detachSign text = (sign, body)) {offset : Nat} (inside : offset < body.length) :
    ExceedsAt bits radix text (sign.text.length + offset) ↔
      ∃ digits, DigitString radix (body.take (offset + 1)) digits ∧
        ¬ Fits bits (sign.apply (radix.valueOf digits)) := by
  have nonempty : body.take (offset + 1) ≠ [] := by
    rw [ne_eq, List.take_eq_nil_iff]
    rintro (zero | rfl)
    · omega
    · cases inside
  -- The text up to the place has the sign of the whole, so only its digits are left to choose.
  simp only [ExceedsAt, DenotesSigned, Nat.add_assoc, denotes_iff, detachSign_take split]
  constructor
  · rintro ⟨_, ⟨_, _, ⟨rfl, _, digits, spelled, rfl⟩, rfl⟩, beyond⟩
    exact ⟨digits, spelled, beyond⟩
  · rintro ⟨digits, spelled, beyond⟩
    exact ⟨_, ⟨sign, _, ⟨rfl, nonempty, digits, spelled, rfl⟩, rfl⟩, beyond⟩

section

variable {c : Char} {after : List Char} (split : detachSign text = (sign, before ++ c :: after))
include split

theorem foreignAt_append_iff :
    ForeignAt radix text (sign.text.length + before.length) ↔ ∀ digit, ¬ radix.IsDigit c digit := by
  rw [foreignAt_iff split]
  simp

theorem exceedsAt_append {digit : Nat} (spelled : DigitString radix before digits) (stands : radix.IsDigit c digit)
    (beyond : ¬ Fits bits (sign.apply (radix.valueOf (digits ++ [digit])))) :
    ExceedsAt bits radix text (sign.text.length + before.length) := by
  rw [exceedsAt_iff split (by simp), List.take_length_add_append]
  exact ⟨digits ++ [digit], List.rel_append spelled (.cons stands .nil), beyond⟩

end

/-- Digits that come to a word are free of offences, whatever comes after them. -/
theorem not_offendsAt (split : detachSign text = (sign, before ++ rest))
    (spelled : DigitString radix before digits) (fits : Fits bits (sign.apply (radix.valueOf digits))) {place : Nat}
    (early : place < sign.text.length + before.length) : ¬ OffendsAt bits radix text place := by
  rintro ⟨afterSign, _, offence⟩
  simp only [split] at afterSign
  obtain ⟨offset, rfl⟩ := Nat.exists_eq_add_of_le afterSign
  have inside : offset < before.length := by omega
  rcases offence with foreign | exceeds
  · -- The place is one of the digits.
    obtain ⟨c, here, noDigit⟩ := (foreignAt_iff split offset).mp foreign
    rw [List.getElem?_append_left inside, List.getElem?_eq_getElem inside, Option.some.injEq] at here
    have stands := spelled.get inside (spelled.length_eq ▸ inside)
    rw [List.get_eq_getElem, here] at stands
    exact noDigit _ stands
  · -- The digits up to the place come to no more than all of them.
    have longer : offset < (before ++ rest).length := by rw [List.length_append]; omega
    obtain ⟨others, again, beyond⟩ := (exceedsAt_iff split longer).mp exceeds
    rw [List.take_append_of_le_length inside] at again
    have same := DigitLine.unique ((digitLine_chars ..).mpr again)
      ((digitLine_chars ..).mpr (List.forall₂_take (offset + 1) spelled))
    have smaller := radix.valueOf_le_append (digits.take (offset + 1)) (digits.drop (offset + 1))
    rw [List.take_append_drop] at smaller
    rw [same] at beyond
    exact beyond (fits_apply_of_le smaller fits)

/-- A numeral of a word has no offence. -/
theorem DenotesSigned.not_offendsAt {value : Int} (denotes : DenotesSigned radix text value)
    (fits : Fits bits value) (place : Nat) : ¬ OffendsAt bits radix text place := by
  intro offends
  obtain ⟨sign, _, denotes, rfl⟩ := denotes
  obtain ⟨rfl, _, digits, spelled, rfl⟩ := (denotes_iff ..).mp denotes
  have whole := length_detachSign text
  have split : detachSign text = ((detachSign text).1, (detachSign text).2 ++ []) := by rw [List.append_nil]
  exact Numeral.not_offendsAt split spelled fits (whole ▸ offends.inside) offends

/-- After digits that come to a word, an offence is the first one. -/
theorem isLeast_offendsAt {c : Char} {after : List Char} (split : detachSign text = (sign, before ++ c :: after))
    (spelled : DigitString radix before digits) (fits : Fits bits (sign.apply (radix.valueOf digits)))
    (offence : ForeignAt radix text (sign.text.length + before.length) ∨
      ExceedsAt bits radix text (sign.text.length + before.length)) :
    IsLeast {place | OffendsAt bits radix text place} (sign.text.length + before.length) := by
  have whole := length_detachSign text
  simp only [split, List.length_append, List.length_cons] at whole
  constructor
  · refine ⟨?_, by omega, offence⟩
    rw [split]
    exact Nat.le_add_right ..
  · intro place offends
    by_contra early
    exact Numeral.not_offendsAt split spelled fits (Nat.lt_of_not_le early) offends

end Places

theorem FirstOffence.unique {bits : Nat} {radix : Radix} {text : List Char} {offence other : Offence}
    (left : FirstOffence bits radix text offence) (right : FirstOffence bits radix text other) :
    offence = other := by
  cases left with
  | notDigit least foreign =>
    cases right with
    | notDigit again _ => rw [least.unique again]
    | tooLarge again digit => exact absurd (least.unique again ▸ foreign) digit
  | tooLarge least digit =>
    cases right with
    | notDigit again foreign => exact absurd foreign (least.unique again ▸ digit)
    | tooLarge again _ => rw [least.unique again]

/-! ## The sum ends at the first offence -/

theorem firstOffence_of_ends {bits : Nat} {radix : Radix} {text body : List Char} {sign : Sign} {offence : Offence}
    (split : detachSign text = (sign, body))
    (ends : Ends (limit bits (sign.negative?.getD false)) radix sign.text.length [] (body.map .char)
      (.error offence)) : FirstOffence bits radix text offence := by
  -- Either way the digits before the symbol at fault are within the limit, so no place before it offends.
  cases ends with
  | notDigit shape spelled within foreign =>
    obtain ⟨before, c, after, rfl, rfl, rfl⟩ := chars_eq_append_cons shape
    rw [digitLine_chars] at spelled
    rw [List.nil_append, limit_le_iff] at within
    rw [Radix.digit?_char_eq_none_iff] at foreign
    have here := (foreignAt_append_iff split).mpr foreign
    rw [List.length_map]
    exact .notDigit (isLeast_offendsAt split spelled within (.inl here)) here
  | tooLarge shape spelled within value beyond =>
    obtain ⟨before, c, after, rfl, rfl, rfl⟩ := chars_eq_append_cons shape
    rw [digitLine_chars] at spelled
    rw [List.nil_append, limit_le_iff] at within
    rw [List.nil_append, ← not_le, limit_le_iff] at beyond
    rw [Radix.digit?_char_iff] at value
    have here := exceedsAt_append split spelled value beyond
    have digit : ¬ ForeignAt radix text (sign.text.length + before.length) := by
      rw [foreignAt_append_iff split]
      exact fun foreign => foreign _ value
    rw [List.length_map]
    exact .tooLarge (isLeast_offendsAt split spelled within (.inr here)) digit

theorem accumulate_chars_offence {bits : Nat} {radix : Radix} {text : List Char} {cause : ReadError}
    (failed : accumulate bits radix 0 (text.map .char) = .error cause) :
    ((detachSign text).2 = [] ∧ cause = .noDigits ⟨String.ofList text, radix.value⟩) ∨
      ∃ offence, FirstOffence bits radix text offence ∧
        cause = offence.toReadError ⟨String.ofList text, radix.value⟩ := by
  rw [accumulate_eq_error_iff bits radix (splitSign_chars 0 text), List.map_eq_nil_iff, spelled_chars,
    Nat.zero_add] at failed
  rcases failed with bare | ⟨_, offence, ends, rfl⟩
  · exact .inl bare
  · exact .inr ⟨offence, firstOffence_of_ends rfl ends, rfl⟩

theorem FirstOffence.offendsAt {bits : Nat} {radix : Radix} {text : List Char} {offence : Offence}
    (first : FirstOffence bits radix text offence) : ∃ place, OffendsAt bits radix text place := by
  cases first with
  | notDigit least _ => exact ⟨_, least.1⟩
  | tooLarge least _ => exact ⟨_, least.1⟩

theorem OffendsAt.body_ne_nil {bits : Nat} {radix : Radix} {text : List Char} {place : Nat}
    (offends : OffendsAt bits radix text place) : (detachSign text).2 ≠ [] := by
  intro bare
  have whole := length_detachSign text
  have afterSign := offends.afterSign
  have inside := offends.inside
  rw [bare, List.length_nil] at whole
  omega

/-- A line of characters is given up for want of digits, or at its first offence. -/
theorem accumulate_chars_eq_error_iff (bits : Nat) (radix : Radix) (text : List Char) (cause : ReadError) :
    accumulate bits radix 0 (text.map .char) = .error cause ↔
      ((detachSign text).2 = [] ∧ cause = .noDigits ⟨String.ofList text, radix.value⟩) ∨
      ∃ offence, FirstOffence bits radix text offence ∧
        cause = offence.toReadError ⟨String.ofList text, radix.value⟩ := by
  refine ⟨accumulate_chars_offence, ?_⟩
  rintro (⟨bare, rfl⟩ | ⟨offence, first, rfl⟩)
  · rw [accumulate_eq_error_iff bits radix (splitSign_chars 0 text), List.map_eq_nil_iff, spelled_chars]
    exact .inl ⟨bare, rfl⟩
  · -- With an offence the text cannot have been read.
    obtain ⟨place, offends⟩ := first.offendsAt
    cases sum : accumulate bits radix 0 (text.map .char) with
    | ok value =>
      obtain ⟨denotes, fits⟩ := (accumulate_chars_eq_ok_iff bits radix 0 text value).mp sum
      exact absurd offends (denotes.not_offendsAt fits place)
    | error cause =>
      -- The sum ended at an offence too, and the first one is unique.
      rcases accumulate_chars_offence sum with ⟨bare, _⟩ | ⟨other, again, rfl⟩
      · exact absurd bare offends.body_ne_nil
      · rw [first.unique again]

end Numeral

open Numeral

/-! ## The report -/

/-- The text as it is shown in a report; the common radix goes without saying. -/
def shownInput (text : String) (radix : Radix) : String :=
  "For input string: \"" ++ text ++ "\"" ++ if radix.value = 10 then "" else s!" under radix {radix.value}"

theorem describe_eq (text : String) (radix : Radix) :
    Reading.describe ⟨text, radix.value⟩ = shownInput text radix := by
  have common : (radix.value : Int) = 10 ↔ radix.value = 10 := by omega
  simp only [Reading.describe_eq_ite, common]
  unfold shownInput
  split
  · rw [String.append_empty]
    rfl
  · rfl

theorem message_noDigits (text : String) (radix : Radix) :
    (ReadError.noDigits ⟨text, radix.value⟩).message = shownInput text radix := by
  rw [← describe_eq]
  rfl

theorem message_offence (text : String) (radix : Radix) (offence : Offence) :
    (offence.toReadError ⟨text, radix.value⟩).message =
      shownInput text radix ++ s!" (error at index {offence.place})" := by
  have whole (reading : Reading) : (offence.toReadError reading).message =
      s!"{reading.describe} (error at index {offence.place})" := by cases offence <;> rfl
  rw [whole, describe_eq]
  simp only [String.append_assoc]
  rfl

theorem ofReading_eq_failure_iff (reading : Except ReadError Int) (kind : FailureKind) (details : String) :
    Report.ofReading reading = .failure kind details ↔
      ∃ cause, reading = .error cause ∧ kind = cause.kind ∧ details = cause.message := by
  cases reading with
  | ok value => simp [Report.ofReading]
  | error cause => simp [Report.ofReading, eq_comm]

/-- What is reported of a text that is not read. A text without digits is malformed and no place of it is named; any
other is reported at its first offence, which is malformed where the character is no digit and too large otherwise. -/
theorem readSigned_failure (text : String) (radix : Radix) (kind : FailureKind) (details : String) :
    Report.ofReading (readSigned (some text) radix.value) = .failure kind details ↔
      ((text = "" ∨ text = "+" ∨ text = "-") ∧ kind = .malformedInput ∧ details = shownInput text radix) ∨
      ∃ place, IsLeast {place | OffendsAt 32 radix text.toList place} place ∧
        (ForeignAt radix text.toList place ∧ kind = .malformedInput ∨
          ¬ ForeignAt radix text.toList place ∧ kind = .numericOverflow) ∧
        details = shownInput text radix ++ s!" (error at index {place})" := by
  simp only [ofReading_eq_failure_iff, readSigned_value, symbols, accumulate_chars_eq_error_iff,
    detachSign_bare_iff, String.ofList_toList]
  constructor
  · rintro ⟨_, (⟨bare, rfl⟩ | ⟨offence, first, rfl⟩), rfl, rfl⟩
    · exact .inl ⟨bare, rfl, message_noDigits text radix⟩
    · right
      cases first with
      | notDigit least foreign => exact ⟨_, least, .inl ⟨foreign, rfl⟩, message_offence text radix _⟩
      | tooLarge least digit => exact ⟨_, least, .inr ⟨digit, rfl⟩, message_offence text radix _⟩
  · rintro (⟨bare, rfl, rfl⟩ | ⟨place, least, ⟨foreign, rfl⟩ | ⟨digit, rfl⟩, rfl⟩)
    · exact ⟨_, .inl ⟨bare, rfl⟩, rfl, (message_noDigits text radix).symm⟩
    · refine ⟨_, .inr ⟨.notDigit place, .notDigit least foreign, rfl⟩, rfl, ?_⟩
      rw [message_offence, Offence.place]
    · refine ⟨_, .inr ⟨.tooLarge place, .tooLarge least digit, rfl⟩, rfl, ?_⟩
      rw [message_offence, Offence.place]

/-- A text may be too large before it is malformed. -/
example : Report.ofReading (readSigned (some "80000000g") 16) =
    .failure .numericOverflow "For input string: \"80000000g\" under radix 16 (error at index 7)" := by
  decide +kernel

end MachineInt
