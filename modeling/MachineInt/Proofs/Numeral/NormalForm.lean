import MachineInt.Proofs.Numeral.RoundTrip

/-!
# Writing what was read

A number has many spellings in a radix: letters may be capitals, a plus or zeros may stand in front, and even zero
may have a minus. What is written of a number that was read is the plainest of them, because the digits of a number
are determined up to the zeros in front.
-/

namespace MachineInt

namespace Numeral

/-! ## Zeros in front -/

/-- A list without the zeros in front; its last entry stays. -/
def trimmed {α : Type} [DecidableEq α] (zero : α) : List α → List α
  | first :: next :: rest => if first = zero then trimmed zero (next :: rest) else first :: next :: rest
  | short => short

/-- Where nothing but the one zero goes to the other, trimming can be done before or after. -/
theorem trimmed_map {α β : Type} [DecidableEq α] [DecidableEq β] {f : α → β} {zero : α} {image : β} {list : List α}
    (only : ∀ entry ∈ list, f entry = image ↔ entry = zero) :
    trimmed image (list.map f) = (trimmed zero list).map f := by
  induction list with
  | nil => rfl
  | cons first rest ih =>
    cases rest with
    | nil => rfl
    | cons next rest =>
      obtain ⟨here, later⟩ := List.forall_mem_cons.mp only
      simp only [List.map_cons, trimmed, here] at ih ⊢
      split
      · exact ih later
      · rfl

theorem valueOf_zero_cons (radix : Radix) (digits : List Nat) :
    radix.valueOf (0 :: digits) = radix.valueOf digits := by
  rw [Radix.valueOf, List.reverse_cons, Nat.ofDigits_append_zero, Radix.valueOf]

/-- A number has no other digits than its own, apart from zeros in front. -/
theorem canonicalDigits_valueOf {radix : Radix} {digits : List Nat} (nonempty : digits ≠ [])
    (small : ∀ digit ∈ digits, digit < radix.value) :
    canonicalDigits radix (radix.valueOf digits) = trimmed 0 digits := by
  induction digits with
  | nil => exact absurd rfl nonempty
  | cons first rest ih =>
    obtain ⟨here, later⟩ := List.forall_mem_cons.mp small
    cases rest with
    | nil =>
      have single : radix.valueOf [first] = first := by simp [Radix.valueOf]
      rw [single, canonicalDigits_of_lt radix here]
      rfl
    | cons next rest =>
      rw [trimmed]
      split
      next zero =>
        rw [zero, valueOf_zero_cons]
        exact ih (List.cons_ne_nil next rest) later
      next nonzero =>
        -- The first digit is the highest one of the number, so the list is that of its digits in full.
        have digits_eq : Nat.digits radix.value (radix.valueOf (first :: next :: rest)) =
            (first :: next :: rest).reverse := by
          apply Nat.digits_ofDigits radix.value radix.two_le
          · intro digit member
            exact small digit (List.mem_reverse.mp member)
          · intro _
            rwa [List.getLast_reverse]
        have positive : radix.valueOf (first :: next :: rest) ≠ 0 := by
          intro zero
          rw [zero, Nat.digits_zero, eq_comm, List.reverse_eq_nil_iff] at digits_eq
          cases digits_eq
        rw [canonicalDigits, if_neg positive, digits_eq, List.reverse_reverse]

/-! ## Letters -/

theorem digitChar_eq_zero_iff {digit : Nat} (small : digit < maxRadix) : digitChar digit = '0' ↔ digit = 0 := by
  have all : ∀ digit ∈ List.range maxRadix, digitChar digit = '0' ↔ digit = 0 := by decide
  exact all digit (List.mem_range.mpr small)

theorem toLower_digitChar {digit : Nat} (small : digit < maxRadix) :
    (digitChar digit).toLower = digitChar digit ∧ (digitChar digit).toUpper.toLower = digitChar digit := by
  have all : ∀ digit ∈ List.range maxRadix,
      (digitChar digit).toLower = digitChar digit ∧ (digitChar digit).toUpper.toLower = digitChar digit := by decide
  exact all digit (List.mem_range.mpr small)

/-- A digit in small letters is the one that is written. -/
theorem toLower_of_isDigit {c : Char} {digit : Nat} (stands : IsDigit c digit) : c.toLower = digitChar digit := by
  obtain ⟨small, rfl | rfl⟩ := stands
  · exact (toLower_digitChar small).1
  · exact (toLower_digitChar small).2

theorem map_toLower {radix : Radix} {body : List Char} {digits : List Nat} (spelled : DigitString radix body digits) :
    body.map Char.toLower = digits.map digitChar := by
  induction spelled with
  | nil => rfl
  | cons stands _ ih => rw [List.map_cons, List.map_cons, toLower_of_isDigit stands.1, ih]

theorem DigitString.digits_lt {radix : Radix} {body : List Char} {digits : List Nat}
    (spelled : DigitString radix body digits) : ∀ digit ∈ digits, digit < radix.value :=
  ((digitLine_chars ..).mpr spelled).digits_lt

/-! ## The plainest spelling -/

/-- A numeral in small letters, without a plus, without zeros in front of other digits, and without a minus if the
number is zero. -/
def normalForm (text : List Char) : List Char :=
  let (sign, body) := detachSign text
  let digits := trimmed '0' (body.map Char.toLower)
  if sign = .minus ∧ digits ≠ ['0'] then '-' :: digits else digits

/-- The digits of a numeral, trimmed and in small letters, are those of its number. -/
theorem trimmed_body {radix : Radix} {body : List Char} {digits : List Nat} (nonempty : body ≠ [])
    (spelled : DigitString radix body digits) :
    trimmed '0' (body.map Char.toLower) = (canonicalDigits radix (radix.valueOf digits)).map digitChar := by
  have some : digits ≠ [] := by
    rintro rfl
    exact nonempty (List.forall₂_nil_right_iff.mp spelled)
  rw [map_toLower spelled, canonicalDigits_valueOf some spelled.digits_lt]
  apply trimmed_map
  intro digit member
  exact digitChar_eq_zero_iff (Nat.lt_of_lt_of_le (spelled.digits_lt digit member) radix.le_max)

theorem canonicalDigits_eq_zero_iff (radix : Radix) (magnitude : Nat) :
    (canonicalDigits radix magnitude).map digitChar = ['0'] ↔ magnitude = 0 := by
  constructor
  · intro zero
    obtain ⟨digit, rest, shape, written, nothing⟩ := List.map_eq_cons_iff.mp zero
    rw [List.map_eq_nil_iff.mp nothing] at shape
    have small := canonicalDigits_lt radix magnitude
    rw [shape, List.forall_mem_singleton] at small
    rw [digitChar_eq_zero_iff (Nat.lt_of_lt_of_le small radix.le_max)] at written
    rw [← valueOf_canonicalDigits radix magnitude, shape, written, valueOf_zero_cons, Radix.valueOf_nil]
  · rintro rfl
    rfl

theorem apply_lt_zero_iff (sign : Sign) (magnitude : Nat) :
    sign.apply magnitude < 0 ↔ sign = .minus ∧ magnitude ≠ 0 := by
  cases sign with
  | minus => simp [Sign.apply, Nat.pos_iff_ne_zero]
  | absent | plus => simp [Sign.apply]

theorem natAbs_apply (sign : Sign) (magnitude : Nat) : (sign.apply magnitude).natAbs = magnitude := by
  cases sign <;> simp [Sign.apply]

/-- The numeral of a number is the plainest spelling of every text that denotes it. -/
theorem canonical_of_denotes {radix : Radix} {text : List Char} {sign : Sign} {magnitude : Nat}
    (denotes : Denotes radix text sign magnitude) : canonical radix (sign.apply magnitude) = normalForm text := by
  obtain ⟨body, digits, rfl, nonempty, spelled, rfl⟩ := denotes
  unfold normalForm canonical
  rw [detachSign_append sign spelled, natAbs_apply]
  dsimp only
  rw [trimmed_body nonempty spelled]
  simp only [ne_eq, canonicalDigits_eq_zero_iff, apply_lt_zero_iff]
  split <;> rfl

theorem minus_not_mem_canonical (radix : Radix) {value : Int} (nonneg : 0 ≤ value) : '-' ∉ canonical radix value := by
  intro member
  rw [canonical, if_neg (by omega), List.nil_append] at member
  obtain ⟨digit, listed, written⟩ := List.mem_map.mp member
  have small := canonicalDigits_lt radix value.natAbs digit listed
  have stands : radix.IsDigit '-' digit := ⟨⟨Nat.lt_of_lt_of_le small radix.le_max, .inl written.symm⟩, small⟩
  exact not_isDigit_sign.2 stands

end Numeral

open Numeral

/-- What was read is written in its plainest spelling, as a word and as a pattern; and a pattern, though the word it
is held in may be negative, is written without a minus. -/
theorem written_read (text : String) (radix : Radix) (value : Int) :
    (readSigned (some text) radix.value = .ok value →
      signedText value radix.value = String.ofList (normalForm text.toList)) ∧
    (readUnsigned (some text) radix.value = .ok value →
      unsignedText value radix.value = String.ofList (normalForm text.toList) ∧
      '-' ∉ (unsignedText value radix.value).toList) := by
  constructor
  · intro read
    rw [readSigned_value, symbols, accumulate_chars_eq_ok_iff] at read
    obtain ⟨⟨sign, magnitude, denotes, rfl⟩, fits⟩ := read
    apply String.toList_injective
    rw [signedText_toList, orTen_radix, wrap_of_fits (by decide) fits, canonical_of_denotes denotes,
      String.toList_ofList]
  · intro read
    obtain ⟨magnitude, ⟨sign, unsigned, denotes⟩, small, wrapped⟩ := (readUnsigned_eq_ok_iff ..).mp read
    rw [wrapped]
    have back : MachineInt.unsigned 32 (wrap 32 magnitude) = magnitude := by
      apply unsigned_wrap_of_range
      · omega
      · rw [weight_word]
        omega
    have positive : sign.apply magnitude = magnitude := by
      cases sign with
      | minus => exact absurd rfl unsigned
      | absent | plus => rfl
    constructor
    · apply String.toList_injective
      rw [unsignedText_toList, orTen_radix, back, ← positive, canonical_of_denotes denotes, String.toList_ofList]
    · rw [unsignedText_toList, orTen_radix, back]
      exact minus_not_mem_canonical radix (Int.natCast_nonneg magnitude)

/-- A capital behind zeros, a zero with a minus, and the greatest pattern behind a plus and a zero. -/
theorem written_read_spellings :
    (readSigned (some "-00fF") 16 = .ok (-255) ∧ signedText (-255) 16 = "-ff") ∧
    (readSigned (some "-000") 16 = .ok 0 ∧ signedText 0 16 = "0") ∧
    (readUnsigned (some "+0FFFFFFFF") 16 = .ok (-1) ∧ unsignedText (-1) 16 = "ffffffff") := by
  have capital : readSigned (some "-00fF") 16 = .ok (-255) := by rfl
  have zero : readSigned (some "-000") 16 = .ok 0 := by rfl
  have greatest : readUnsigned (some "+0FFFFFFFF") 16 = .ok (-1) := by rfl
  refine ⟨⟨capital, ?_⟩, ⟨zero, ?_⟩, greatest, ?_⟩
  · exact (written_read "-00fF" ⟨16, by decide, by decide⟩ (-255)).1 capital
  · exact (written_read "-000" ⟨16, by decide, by decide⟩ 0).1 zero
  · exact ((written_read "+0FFFFFFFF" ⟨16, by decide, by decide⟩ (-1)).2 greatest).1

end MachineInt
