import MachineInt.Proofs.Numeral.NormalForm

/-!
# One numeral for each number

What is written of a number, said of the text alone: symbols of the alphabet for digits of the radix, no zero in front
of another digit, the magnitude as their positional sum, and a minus in front of them if the number is negative. There
is exactly one such text, so this much determines what is written.
-/

namespace MachineInt

namespace Numeral

/-- The text spells these digits, the highest first; they come to the magnitude, and none of them can be left out. -/
structure Spells (radix : Radix) (magnitude : Nat) (text : List Char) (digits : List Nat) : Prop where
  symbols : List.Forall₂ (fun c digit => alphabet[digit]? = some c) text digits
  below : ∀ digit ∈ digits, digit < radix.value
  nonempty : digits ≠ []
  leading : digits.head? = some 0 → digits = [0]
  sum : radix.valueOf digits = magnitude

/-- The text is the numeral of the number. -/
def IsNumeral (radix : Radix) (value : Int) (text : List Char) : Prop :=
  ∃ body digits, text = (if value < 0 then ['-'] else []) ++ body ∧ Spells radix value.natAbs body digits

/-! ## Symbols -/

theorem getElem?_alphabet {digit : Nat} (small : digit < maxRadix) : alphabet[digit]? = some (digitChar digit) := by
  have inside : digit < alphabet.length := small
  simp [digitChar, List.getD, inside]

theorem digitChar_of_getElem? {c : Char} {digit : Nat} (found : alphabet[digit]? = some c) : digitChar digit = c := by
  simp [digitChar, List.getD, found]

/-- The alphabet has one symbol for each digit, so the digits determine the text. -/
theorem Spells.text_eq {radix : Radix} {magnitude : Nat} {text : List Char} {digits : List Nat}
    (spells : Spells radix magnitude text digits) : text = digits.map digitChar := by
  have symbols := spells.symbols
  clear spells
  induction symbols with
  | nil => rfl
  | cons found _ ih => rw [List.map_cons, digitChar_of_getElem? found, ← ih]

/-! ## Digits -/

theorem trimmed_of_leading {α : Type} [DecidableEq α] {zero : α} {list : List α}
    (leading : list.head? = some zero → list = [zero]) : trimmed zero list = list := by
  cases list with
  | nil => rfl
  | cons first rest =>
    cases rest with
    | nil => rfl
    | cons next rest =>
      have other : first ≠ zero := by
        rintro rfl
        simp at leading
      rw [trimmed, if_neg other]

theorem leading_trimmed {α : Type} [DecidableEq α] (zero : α) (list : List α)
    (first : (trimmed zero list).head? = some zero) : trimmed zero list = [zero] := by
  induction list with
  | nil => simp [trimmed] at first
  | cons head rest ih =>
    cases rest with
    | nil => simpa [trimmed] using first
    | cons next rest =>
      rw [trimmed] at first ⊢
      split at first
      next zero => rw [if_pos zero, ih first]
      next other => simp [other] at first

theorem Spells.digits_eq {radix : Radix} {magnitude : Nat} {text : List Char} {digits : List Nat}
    (spells : Spells radix magnitude text digits) : digits = canonicalDigits radix magnitude := by
  rw [← spells.sum, canonicalDigits_valueOf spells.nonempty spells.below, trimmed_of_leading spells.leading]

/-- What has no zero to trim begins with none, unless it is the only digit. -/
theorem canonicalDigits_leading (radix : Radix) (magnitude : Nat)
    (first : (canonicalDigits radix magnitude).head? = some 0) : canonicalDigits radix magnitude = [0] := by
  have fixed := canonicalDigits_valueOf (canonicalDigits_ne_nil radix magnitude) (canonicalDigits_lt radix magnitude)
  rw [valueOf_canonicalDigits] at fixed
  rw [fixed] at first ⊢
  exact leading_trimmed 0 _ first

theorem spells_canonicalDigits (radix : Radix) (magnitude : Nat) :
    Spells radix magnitude ((canonicalDigits radix magnitude).map digitChar) (canonicalDigits radix magnitude) where
  symbols := by
    rw [List.forall₂_map_left_iff, List.forall₂_same]
    intro digit member
    exact getElem?_alphabet (Nat.lt_of_lt_of_le (canonicalDigits_lt radix magnitude digit member) radix.le_max)
  below := canonicalDigits_lt radix magnitude
  nonempty := canonicalDigits_ne_nil radix magnitude
  leading := canonicalDigits_leading radix magnitude
  sum := valueOf_canonicalDigits radix magnitude

/-! ## Numerals -/

/-- There is one numeral for each number, and it is the one that is written. -/
theorem isNumeral_iff (radix : Radix) (value : Int) (text : List Char) :
    IsNumeral radix value text ↔ text = canonical radix value := by
  constructor
  · rintro ⟨body, digits, rfl, spells⟩
    rw [canonical, spells.text_eq, spells.digits_eq]
  · rintro rfl
    exact ⟨_, _, rfl, spells_canonicalDigits radix value.natAbs⟩

end Numeral

open Numeral

/-- A word is written as the numeral of its value, and a pattern as that of its value without a sign, in the radix asked
for or else in ten. -/
theorem written_numeral (value radix : Int) :
    ((Radix.orTen radix).value : Int) = (if 2 ≤ radix ∧ radix ≤ 36 then radix else 10) ∧
    (∀ text : String, signedText value radix = text ↔
      IsNumeral (Radix.orTen radix) (wrap 32 value) text.toList) ∧
    (∀ text : String, unsignedText value radix = text ↔
      IsNumeral (Radix.orTen radix) (value % 2 ^ 32) text.toList) ∧
    '-' ∉ (unsignedText value radix).toList := by
  have view : unsigned 32 value = value % 2 ^ 32 := by rw [unsigned, weight_word]
  refine ⟨orTen_value radix, ?_, ?_, ?_⟩
  · intro text
    rw [isNumeral_iff, ← signedText_toList, String.toList_inj, eq_comm]
  · intro text
    rw [isNumeral_iff, ← view, ← unsignedText_toList, String.toList_inj, eq_comm]
  · rw [unsignedText_toList]
    exact minus_not_mem_canonical _ (unsigned_nonneg 32 value)

end MachineInt
