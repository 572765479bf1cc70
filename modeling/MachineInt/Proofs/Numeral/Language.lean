import MachineInt.Numeral.Reading
import Mathlib.Data.List.Forall2
import Mathlib.Data.Nat.Digits.Defs

/-!
# What numerals denote

The language of numerals, stated without the parser: a sign that may be missing, then one or more digits, which
denote their positional sum. Digits are told by the alphabet alone, so nothing here depends on how characters are
classified while a text is read.
-/

namespace MachineInt

/-! ## Digits -/

/-- The character stands for the digit, as it is written or as a capital. -/
def IsDigit (c : Char) (digit : Nat) : Prop :=
  digit < maxRadix ∧ (c = digitChar digit ∨ c = (digitChar digit).toUpper)

instance (c : Char) (digit : Nat) : Decidable (IsDigit c digit) := inferInstanceAs (Decidable (_ ∧ _))

private theorem charDigit_toUpper {digit : Nat} (small : digit < maxRadix) :
    charDigit (digitChar digit).toUpper = some digit := by
  have all : ∀ digit ∈ List.range maxRadix, charDigit (digitChar digit).toUpper = some digit := by decide
  exact all digit (List.mem_range.mpr small)

/-- A run of consecutive characters that stand for consecutive digits. -/
private theorem isDigit_of_run (start first count : Nat)
    (run : ∀ place ∈ List.range count, IsDigit (Char.ofNat (start + place)) (first + place)) {c : Char}
    (low : start ≤ c.toNat) (high : c.toNat < start + count) : IsDigit c (c.toNat - start + first) := by
  have stands := run (c.toNat - start) (List.mem_range.mpr (by omega))
  rwa [Nat.add_sub_cancel' low, Char.ofNat_toNat, Nat.add_comm first] at stands

private theorem isDigit_of_charDigit {c : Char} {digit : Nat} (read : charDigit c = some digit) :
    IsDigit c digit := by
  simp only [charDigit, Char.le_def, UInt32.le_iff_toNat_le] at read
  -- Three runs of characters: the decimal digits, the small letters and the capitals.
  split at read
  next decimal =>
    cases read
    exact isDigit_of_run 48 0 10 (by decide) decimal.1 (Nat.lt_succ_of_le decimal.2)
  · split at read
    next small =>
      cases read
      exact isDigit_of_run 97 10 26 (by decide) small.1 (Nat.lt_succ_of_le small.2)
    · split at read
      next capital =>
        cases read
        exact isDigit_of_run 65 10 26 (by decide) capital.1 (Nat.lt_succ_of_le capital.2)
      · cases read

/-- The classification by ranges of characters is the alphabet, in either case. -/
theorem charDigit_iff (c : Char) (digit : Nat) : charDigit c = some digit ↔ IsDigit c digit := by
  constructor
  · exact isDigit_of_charDigit
  · rintro ⟨small, rfl | rfl⟩
    · exact charDigit_digitChar small
    · exact charDigit_toUpper small

namespace Radix

theorem value_pos (radix : Radix) : 0 < radix.value := Nat.zero_lt_of_lt radix.two_le

/-- The character stands for a digit of the radix. -/
def IsDigit (radix : Radix) (c : Char) (digit : Nat) : Prop := MachineInt.IsDigit c digit ∧ digit < radix.value

instance (radix : Radix) (c : Char) (digit : Nat) : Decidable (radix.IsDigit c digit) :=
  inferInstanceAs (Decidable (_ ∧ _))

theorem digit?_char_iff (radix : Radix) (c : Char) (digit : Nat) :
    radix.digit? (.char c) = some digit ↔ radix.IsDigit c digit := by
  simp only [digit?, Option.filter_eq_some_iff, charDigit_iff, decide_eq_true_eq, IsDigit]

theorem digit?_char_eq_none_iff (radix : Radix) (c : Char) :
    radix.digit? (.char c) = none ↔ ∀ digit, ¬ radix.IsDigit c digit := by
  simp only [← digit?_char_iff, Option.eq_none_iff_forall_ne_some]

theorem digit?_lt {radix : Radix} {symbol : Symbol} {digit : Nat} (read : radix.digit? symbol = some digit) :
    digit < radix.value := by
  cases symbol with
  | char c => exact ((radix.digit?_char_iff c digit).mp read).2
  | chunk text => cases read

/-- The positional sum of digits, the highest first. -/
def valueOf (radix : Radix) (digits : List Nat) : Nat := Nat.ofDigits radix.value digits.reverse

@[simp] theorem valueOf_nil (radix : Radix) : radix.valueOf [] = 0 := rfl

theorem valueOf_concat (radix : Radix) (digits : List Nat) (digit : Nat) :
    radix.valueOf (digits ++ [digit]) = radix.valueOf digits * radix.value + digit := by
  rw [valueOf, List.reverse_append, List.reverse_singleton, List.singleton_append, Nat.ofDigits_cons, valueOf]
  ring

/-- Further digits do not make a numeral smaller. -/
theorem valueOf_le_append (radix : Radix) (digits more : List Nat) :
    radix.valueOf digits ≤ radix.valueOf (digits ++ more) := by
  have positive : 0 < radix.value ^ more.reverse.length := Nat.pow_pos radix.value_pos
  rw [valueOf, valueOf, List.reverse_append, Nat.ofDigits_append]
  exact (Nat.le_mul_of_pos_left _ positive).trans (Nat.le_add_left _ _)

theorem valueOf_lt (radix : Radix) {digits : List Nat} (small : ∀ digit ∈ digits, digit < radix.value) :
    radix.valueOf digits < radix.value ^ digits.length := by
  have bound := Nat.ofDigits_lt_base_pow_length (b := radix.value) (l := digits.reverse) radix.two_le
    (fun digit member => small digit (List.mem_reverse.mp member))
  rwa [List.length_reverse] at bound

end Radix

namespace Numeral

/-! ## Digits in a row -/

/-- The symbols are digits of the radix, with these values. -/
def DigitLine (radix : Radix) (line : List Symbol) (digits : List Nat) : Prop :=
  List.Forall₂ (fun symbol digit => radix.digit? symbol = some digit) line digits

/-- The characters stand for digits of the radix, with these values. -/
def DigitString (radix : Radix) (text : List Char) (digits : List Nat) : Prop :=
  List.Forall₂ radix.IsDigit text digits

instance (radix : Radix) (text : List Char) (digits : List Nat) : Decidable (DigitString radix text digits) :=
  inferInstanceAs (Decidable (List.Forall₂ ..))

theorem digitLine_chars (radix : Radix) (text : List Char) (digits : List Nat) :
    DigitLine radix (text.map .char) digits ↔ DigitString radix text digits := by
  simp only [DigitLine, DigitString, List.forall₂_map_left_iff, Radix.digit?_char_iff]

/-- A line of characters is cut into lines of characters. -/
theorem chars_eq_append_cons {text : List Char} {before after : List Symbol} {symbol : Symbol}
    (shape : text.map Symbol.char = before ++ symbol :: after) :
    ∃ front c back, text = front ++ c :: back ∧ before = front.map .char ∧ symbol = .char c := by
  obtain ⟨front, rest, rfl, rfl, tail⟩ := List.map_eq_append_iff.mp shape
  obtain ⟨c, back, rfl, rfl, _⟩ := List.map_eq_cons_iff.mp tail
  exact ⟨front, c, back, rfl, rfl, rfl⟩

/-- Characters spell the text they make up. -/
theorem spelled_chars (text : List Char) : spelled (text.map .char) = String.ofList text := by
  apply String.toList_injective
  rw [spelled, String.toList_join, String.toList_ofList, List.map_map, List.flatMap_map]
  simp [Symbol.text]

theorem DigitLine.digits_lt {radix : Radix} {line : List Symbol} {digits : List Nat}
    (spelled : DigitLine radix line digits) : ∀ digit ∈ digits, digit < radix.value := by
  induction spelled with
  | nil => simp
  | cons read _ ih => exact List.forall_mem_cons.mpr ⟨Radix.digit?_lt read, ih⟩

/-- Symbols have at most one value each. -/
theorem DigitLine.unique {radix : Radix} {line : List Symbol} {digits others : List Nat}
    (left : DigitLine radix line digits) (right : DigitLine radix line others) : digits = others := by
  induction left generalizing others with
  | nil => cases right; rfl
  | cons read _ ih =>
    cases right with
    | cons again rest =>
      rw [read, Option.some.injEq] at again
      rw [again, ih rest]

/-! ## Signs -/

/-- What may stand in front of the digits. -/
inductive Sign
  | absent
  | plus
  | minus
  deriving DecidableEq, Repr

namespace Sign

def text : Sign → List Char
  | .absent => []
  | .plus => ['+']
  | .minus => ['-']

/-- The magnitude with its sign. -/
def apply (sign : Sign) (magnitude : Nat) : Int :=
  match sign with
  | .minus => -magnitude
  | .absent | .plus => magnitude

/-- Whether the sign is there, and if so, whether it is the negative one. -/
def negative? : Sign → Option Bool
  | .absent => none
  | .plus => some false
  | .minus => some true

theorem apply_eq (sign : Sign) (magnitude : Nat) :
    sign.apply magnitude = if sign.negative?.getD false then -(magnitude : Int) else magnitude := by
  cases sign <;> rfl

end Sign

/-- The sign of a text, and what comes after it. -/
def detachSign : List Char → Sign × List Char
  | '+' :: rest => (.plus, rest)
  | '-' :: rest => (.minus, rest)
  | text => (.absent, text)

theorem splitSign_chars (index : Nat) (text : List Char) :
    splitSign index (text.map .char) =
      ((detachSign text).1.negative?, index + (detachSign text).1.text.length,
        (detachSign text).2.map .char) := by
  unfold detachSign
  split
  · rfl
  · rfl
  next noPlus noMinus =>
    cases text with
    | nil => rfl
    | cons c rest =>
      have plus : c ≠ '+' := fun equal => noPlus rest (by rw [equal])
      have minus : c ≠ '-' := fun equal => noMinus rest (by rw [equal])
      simp [splitSign, Symbol.sign?, plus, minus, Sign.negative?, Sign.text]

theorem text_detachSign (text : List Char) :
    (detachSign text).1.text ++ (detachSign text).2 = text := by
  unfold detachSign
  split <;> rfl

theorem eq_append_of_detachSign {text body : List Char} {sign : Sign} (split : detachSign text = (sign, body)) :
    text = sign.text ++ body := by
  have whole := text_detachSign text
  rwa [split, eq_comm] at whole

theorem length_detachSign (text : List Char) :
    (detachSign text).1.text.length + (detachSign text).2.length = text.length := by
  rw [← List.length_append, text_detachSign]

/-- What has nothing after its sign is no more than a sign. -/
theorem detachSign_bare_iff (text : String) :
    (detachSign text.toList).2 = [] ↔ text = "" ∨ text = "+" ∨ text = "-" := by
  constructor
  · intro bare
    have whole := text_detachSign text.toList
    rw [bare, List.append_nil] at whole
    cases sign : (detachSign text.toList).1 with
    | absent => exact .inl (String.toList_injective (by rw [← whole, sign]; rfl))
    | plus => exact .inr (.inl (String.toList_injective (by rw [← whole, sign]; rfl)))
    | minus => exact .inr (.inr (String.toList_injective (by rw [← whole, sign]; rfl)))
  · rintro (rfl | rfl | rfl) <;> rfl

theorem not_isDigit_sign {radix : Radix} {digit : Nat} :
    ¬ radix.IsDigit '+' digit ∧ ¬ radix.IsDigit '-' digit := by
  constructor <;> intro stands <;> exact absurd ((charDigit_iff _ digit).mpr stands.1) (by simp [charDigit])

theorem detachSign_append {radix : Radix} (sign : Sign) {body : List Char} {digits : List Nat}
    (spelled : DigitString radix body digits) : detachSign (sign.text ++ body) = (sign, body) := by
  cases sign with
  | plus => rfl
  | minus => rfl
  | absent =>
    -- Without a sign, the first digit must not be taken for one.
    rw [Sign.text, List.nil_append, detachSign]
    · rintro rest rfl
      cases spelled with
      | cons stands _ => exact not_isDigit_sign.1 stands
    · rintro rest rfl
      cases spelled with
      | cons stands _ => exact not_isDigit_sign.2 stands

/-! ## Numerals -/

/-- The text is the sign and one or more digits of the radix that come to the magnitude. -/
def Denotes (radix : Radix) (text : List Char) (sign : Sign) (magnitude : Nat) : Prop :=
  ∃ body digits, text = sign.text ++ body ∧ body ≠ [] ∧ DigitString radix body digits ∧
    magnitude = radix.valueOf digits

/-- A numeral with any sign or none denotes its magnitude with the sign. -/
def DenotesSigned (radix : Radix) (text : List Char) (value : Int) : Prop :=
  ∃ sign magnitude, Denotes radix text sign magnitude ∧ value = sign.apply magnitude

/-- A numeral without a minus denotes its magnitude. -/
def DenotesUnsigned (radix : Radix) (text : List Char) (magnitude : Nat) : Prop :=
  ∃ sign, sign ≠ .minus ∧ Denotes radix text sign magnitude

theorem denotes_iff (radix : Radix) (text : List Char) (sign : Sign) (magnitude : Nat) :
    Denotes radix text sign magnitude ↔
      (detachSign text).1 = sign ∧ (detachSign text).2 ≠ [] ∧
        ∃ digits, DigitString radix (detachSign text).2 digits ∧ magnitude = radix.valueOf digits := by
  constructor
  · rintro ⟨body, digits, rfl, nonempty, spelled, value⟩
    rw [detachSign_append sign spelled]
    exact ⟨rfl, nonempty, digits, spelled, value⟩
  · rintro ⟨rfl, nonempty, digits, spelled, value⟩
    exact ⟨_, digits, (text_detachSign text).symm, nonempty, spelled, value⟩

theorem Denotes.detachSign {radix : Radix} {text : List Char} {magnitude : Nat}
    (denotes : Denotes radix text .absent magnitude) : Numeral.detachSign text = (.absent, text) := by
  obtain ⟨body, digits, rfl, _, spelled, _⟩ := denotes
  exact detachSign_append .absent spelled

/-- A text denotes at most one number. -/
theorem Denotes.unique {radix : Radix} {text : List Char} {sign other : Sign} {magnitude another : Nat}
    (left : Denotes radix text sign magnitude) (right : Denotes radix text other another) :
    sign = other ∧ magnitude = another := by
  obtain ⟨rfl, _, digits, spelled, rfl⟩ := (denotes_iff ..).mp left
  obtain ⟨rfl, _, others, again, rfl⟩ := (denotes_iff ..).mp right
  have same := DigitLine.unique ((digitLine_chars ..).mpr spelled) ((digitLine_chars ..).mpr again)
  exact ⟨rfl, by rw [same]⟩

end Numeral

end MachineInt
