import MachineInt.Setting
import MachineInt.Proofs.Numeral.Marked
import MachineInt.Proofs.Numeral.Uniqueness

/-!
# Words in every common spelling

A word may be set as it is written in radix ten, or in radix sixteen or eight behind a mark, with zeros between the mark
and the digits at will; a minus stands in front of a negative word, and a plus may stand in front of any other. The
reader takes all of these for the word. What is written never looks like another mark: no digit below ten is one, and a
numeral in radix ten begins with a zero only if it is nothing else.
-/

namespace MachineInt

namespace Numeral

/-- The sign that a word may be written with: a minus if it is negative, otherwise a plus or none. -/
def Sign.Suits (sign : Sign) (value : Int) : Prop := sign = .minus ↔ value < 0

instance (sign : Sign) (value : Int) : Decidable (sign.Suits value) := inferInstanceAs (Decidable (_ ↔ _))

/-- The common spellings of a word. The digits are those that are written of its magnitude without a sign. -/
inductive Spelling (value : Int) : List Char → Prop
  | decimal {sign : Sign} (suits : sign.Suits value) :
      Spelling value (sign.text ++ (unsignedText value.natAbs 10).toList)
  | hexadecimal {sign : Sign} {mark : List Char} (zeros : Nat) (suits : sign.Suits value)
      (listed : mark ∈ sixteenMarks) :
      Spelling value (sign.text ++ (mark ++ (List.replicate zeros '0' ++ (unsignedText value.natAbs 16).toList)))
  | octal {sign : Sign} (zeros : Nat) (suits : sign.Suits value) :
      Spelling value (sign.text ++ (['0'] ++ (List.replicate zeros '0' ++ (unsignedText value.natAbs 8).toList)))

/-! ## Signs and zeros -/

theorem Sign.Suits.apply_natAbs {sign : Sign} {value : Int} (suits : sign.Suits value) :
    sign.apply value.natAbs = value := by
  unfold Suits at suits
  cases sign with
  | minus =>
    have negative : value < 0 := suits.mp rfl
    simp only [apply]
    omega
  | absent | plus =>
    have nonneg : ¬ value < 0 := fun negative => by simp at suits; omega
    simp only [apply]
    omega

/-- Zeros in front of a numeral without a sign do not change what it denotes. -/
theorem Denotes.zeros {radix : Radix} {body : List Char} {magnitude : Nat} (count : Nat)
    (denotes : Denotes radix body .absent magnitude) :
    Denotes radix (List.replicate count '0' ++ body) .absent magnitude := by
  induction count with
  | zero => simpa using denotes
  | succ count ih =>
    obtain ⟨rest, digits, shape, _, spelled, sum⟩ := ih
    have zero : radix.IsDigit '0' 0 := ⟨by decide, radix.value_pos⟩
    refine ⟨'0' :: rest, 0 :: digits, ?_, List.cons_ne_nil _ _, .cons zero spelled, ?_⟩
    · rw [List.replicate_succ, List.cons_append, shape]
      rfl
    · rw [valueOf_zero_cons, sum]

theorem unsignedText_of_small (radix : Radix) {magnitude : Nat} (small : magnitude < 2 ^ 32) :
    (unsignedText magnitude radix.value).toList = canonical radix magnitude := by
  have same : unsigned 32 (magnitude : Int) = magnitude := by
    rw [unsigned, weight_word]
    omega
  rw [unsignedText_toList, same, orTen_radix]

theorem denotes_canonical_natCast (radix : Radix) (magnitude : Nat) :
    Denotes radix (canonical radix magnitude) .absent magnitude := by
  have bare : writtenSign (magnitude : Int) = .absent := if_neg (by omega)
  simpa [bare] using denotes_canonical radix magnitude

/-! ## Marks -/

/-- A character that no mark of radix sixteen ends with. -/
def Plain (c : Char) : Prop := c ≠ 'x' ∧ c ≠ 'X' ∧ c ≠ '#'

instance (c : Char) : Decidable (Plain c) := inferInstanceAs (Decidable (_ ∧ _))

theorem plain_of_isDigit {c : Char} {digit : Nat} (stands : IsDigit c digit) (low : digit < 10) : Plain c := by
  have all : ∀ digit ∈ List.range 10, Plain (digitChar digit) ∧ Plain (digitChar digit).toUpper := by decide
  obtain ⟨small, capital⟩ := all digit (List.mem_range.mpr low)
  obtain ⟨_, rfl | rfl⟩ := stands
  · exact small
  · exact capital

/-- The digits of a radix up to ten are plain characters. -/
theorem DigitString.plain {radix : Radix} (low : radix.value ≤ 10) {body : List Char} {digits : List Nat}
    (spelled : DigitString radix body digits) : ∀ c ∈ body, Plain c := by
  induction spelled with
  | nil => simp
  | cons stands _ ih =>
    exact List.forall_mem_cons.mpr ⟨plain_of_isDigit stands.1 (Nat.lt_of_lt_of_le stands.2 low), ih⟩

theorem unlisted_of_plain {text : List Char} (plain : ∀ c ∈ text, Plain c) :
    ∀ mark ∈ sixteenMarks, ¬ mark <+: text := by
  have marked : ∀ mark ∈ sixteenMarks, mark.all (Plain ·) ≠ true := by decide
  intro mark listed begins
  apply marked mark listed
  rw [List.all_eq_true]
  intro c member
  exact decide_eq_true (plain c (begins.subset member))

/-- A zero in front of a numeral in radix eight is a mark. -/
theorem marks_eight {body : List Char} {magnitude : Nat} (denotes : Denotes .eight body .absent magnitude) :
    Marks ['0'] body .eight := by
  obtain ⟨_, _, rfl, nonempty, spelled, _⟩ := denotes
  have zero : Plain '0' := by decide
  exact .eight (unlisted_of_plain (List.forall_mem_cons.mpr ⟨zero, spelled.plain (by decide)⟩)) nonempty

/-- What is written in radix ten has no mark. -/
theorem marks_ten (magnitude : Nat) : Marks [] (canonical .ten magnitude) .ten := by
  have small := canonicalDigits_lt .ten magnitude
  rw [canonical, if_neg (by omega), List.nil_append, Int.natAbs_natCast]
  refine .ten (unlisted_of_plain ((digitString_map_digitChar small).plain (by decide))) ?_
  -- A zero at the front is the digit zero, and then it is the only one.
  intro rest shape
  obtain ⟨first, more, digits, zero, rfl⟩ := List.map_eq_cons_iff.mp shape
  have below := small first (by simp [digits])
  rw [digitChar_eq_zero_iff (Nat.lt_of_lt_of_le below (by decide))] at zero
  have only := canonicalDigits_leading .ten magnitude (by simp [digits, zero])
  rw [digits, List.cons.injEq] at only
  rw [only.2, List.map_nil]

/-! ## Spellings -/

theorem Spelling.denotesMarked {value : Int} {text : List Char} (small : value.natAbs < 2 ^ 32)
    (spelling : Spelling value text) :
    ∃ sign, sign.Suits value ∧ DenotesMarked text sign value.natAbs := by
  have denotes (radix : Radix) :
      Denotes radix (unsignedText value.natAbs radix.value).toList .absent value.natAbs := by
    rw [unsignedText_of_small radix small]
    exact denotes_canonical_natCast radix value.natAbs
  cases spelling with
  | @decimal sign suits =>
    have marks : Marks [] (unsignedText value.natAbs Radix.ten.value).toList .ten := by
      rw [unsignedText_of_small .ten small]
      exact marks_ten value.natAbs
    exact ⟨sign, suits, [], _, .ten, rfl, marks, denotes .ten⟩
  | @hexadecimal sign mark zeros suits listed =>
    exact ⟨sign, suits, mark, _, .sixteen, rfl, .sixteen listed, (denotes .sixteen).zeros zeros⟩
  | @octal sign zeros suits =>
    have body := (denotes .eight).zeros zeros
    exact ⟨sign, suits, ['0'], _, .eight, rfl, marks_eight body, body⟩

end Numeral

open Numeral

theorem readMarked_spelling {text : String} {value : Int} (word : Fits 32 value)
    (spelling : Spelling value text.toList) : readMarked (some text) = .ok value := by
  have range := (fits_word_iff value).mp word
  obtain ⟨sign, suits, denoted⟩ := spelling.denotesMarked (by omega)
  rw [readMarked_eq_ok_iff]
  exact ⟨⟨sign, value.natAbs, denoted, suits.apply_natAbs.symm⟩, word⟩

/-- A name that is set to a text that is read has its value, whatever would stand in for it. -/
theorem integerSetting_eq {name text : String} {value : Int} {fallback : Option Int} {source : Option Settings}
    {environment : Settings} (named : name ≠ "") (set : (source.getD environment).text? name = some text)
    (read : readMarked (some text) = .ok value) :
    integerSetting (some name) fallback source environment = some value := by
  simp [integerSetting, named, set, read]

/-- A word comes back from each of its common spellings, by itself and as a setting of any name. -/
theorem spelling_read {value : Int} (low : -2 ^ 31 ≤ value) (high : value ≤ 2 ^ 31 - 1) {text : String}
    (spelling : Spelling value text.toList) :
    readMarked (some text) = .ok value ∧
    ∀ (name : String) (fallback : Option Int) (source : Option Settings) (environment : Settings),
      name ≠ "" → (source.getD environment).text? name = some text →
        integerSetting (some name) fallback source environment = some value := by
  have read := readMarked_spelling ((fits_word_iff value).mpr ⟨low, high⟩) spelling
  refine ⟨read, ?_⟩
  intro name fallback source environment named set
  exact integerSetting_eq named set read

/-- The least word behind the mark of radix eight and two zeros, and zero behind that mark, which is not a second one. -/
theorem spelling_read_octal :
    (readMarked (some "-00020000000000") = .ok (-2 ^ 31) ∧
      integerSetting (some "limit") (some 7) (some [("limit", some "-00020000000000")]) [] = some (-2 ^ 31)) ∧
    (readMarked (some "+00") = .ok 0 ∧
      integerSetting (some "limit") none none [("limit", some "+00")] = some 0) := by
  have least : unsignedText (-2 ^ 31 : Int).natAbs 8 = "20000000000" := by decide +kernel
  have zero : unsignedText (0 : Int).natAbs 8 = "0" := by decide +kernel
  have spelled := @Spelling.octal (-2 ^ 31) .minus 2 (by decide)
  have again := @Spelling.octal 0 .plus 0 (by decide)
  rw [least] at spelled
  rw [zero] at again
  have first := @spelling_read (-2 ^ 31) (by decide) (by decide) "-00020000000000" spelled
  have second := @spelling_read 0 (by decide) (by decide) "+00" again
  exact ⟨⟨first.1, first.2 _ _ _ _ (by decide) rfl⟩, second.1, second.2 _ _ _ _ (by decide) rfl⟩

end MachineInt
