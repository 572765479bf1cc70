import MachineInt.Proofs.Numeral.InCells
import MachineInt.Proofs.Numeral.Uniqueness

/-!
# Decimal numerals of any size

Two digits at a time from tables, on a line that is cut to its length beforehand: the result is the numeral of the
number, however large that is, and the line is full when the last character is written. For words, the general way of
writing gives the same text.
-/

namespace MachineInt

open Numeral

theorem decimalText_toList (value : Int) : (decimalText value).toList = canonical .ten value := by
  rw [decimalText, Line.text, String.toList_ofList, decimal_written]

theorem length_decimalText (value : Int) : (decimalText value).length = decimalLength value := by
  rw [← String.length_toList, decimalText_toList, decimalLength_eq]

namespace Numeral

/-! ## Full lines -/

theorem room_decimal (value : Int) : (decimal value).room = decimalLength value := by
  rw [decimal, room_writeMinus, room_writePairs, Line.blank]

theorem length_decimal (value : Int) : (decimal value).written.length = decimalLength value := by
  rw [decimal_written, decimalLength_eq]

/-- No cell is left blank. -/
theorem cells_decimal (value : Int) : (decimal value).cells = (decimalText value).toList.map some := by
  rw [Line.cells, Line.blanks, room_decimal, length_decimal, Nat.sub_self, decimal_written, decimalText_toList]
  rfl

/-- Each place of the line is taken. -/
theorem places_decimal (value : Int) : (decimal value).places = (List.range (decimalLength value)).map Int.ofNat := by
  rw [Line.places, Line.blanks, room_decimal, length_decimal, Nat.sub_self, List.range_eq_range']

/-! ## The general way -/

theorem positional_text (bits : Nat) (value : Int) : (positional bits .ten value).text = MachineInt.decimalText value := by
  rw [Line.text, positional_written, MachineInt.decimalText, Line.text, decimal_written]

/-! ## The tables -/

/-- What is done on the way to a decimal numeral: a table is looked into only where it has an entry. -/
def InTables : Act → Prop
  | .pair index => 0 ≤ index ∧ index ≤ 99
  | _ => True

theorem shows_decimal_inTables (value : Int) :
    ∃ cells, InCells.decimal value = .ok (0, cells) ∧ Shows InTables cells (decimal value) := by
  obtain ⟨cells, ran, shown⟩ := shows_decimal InTables (fun _ _ => trivial)
    (fun index small => ⟨by omega, by omega⟩) value
  have front : (decimal value).cell + 1 = 0 := by
    rw [Line.cell, room_decimal, length_decimal]
    omega
  rw [front] at ran
  exact ⟨cells, ran, shown⟩

end Numeral

/-- The decimal numeral of an integer of any size is written on a line of its exact length: from the last cell to the
first one each is written once, with entries that the tables have. For a word, and for a pattern on the line of the wide
word, the general way of writing comes to the same text. -/
theorem decimalText_exact (value : Int) :
    (∀ text : String, decimalText value = text ↔ IsNumeral .ten value text.toList) ∧
    decimalLength value = (decimalText value).length ∧
    (∃ cells, InCells.decimal value = .ok (0, cells) ∧ cells.text = decimalText value ∧
      cells.content = (decimalText value).toList.map some ∧
      cells.places = (List.range (decimalLength value)).map Int.ofNat ∧
      ∀ index, .pair index ∈ cells.acts → 0 ≤ index ∧ index ≤ 99) ∧
    (Fits 32 value →
      (positional 32 .ten value).text = decimalText value ∧
      InCells.positionalText 32 .ten value = .ok (decimalText value)) ∧
    (0 ≤ value → value ≤ 2 ^ 32 - 1 →
      (positional 64 .ten value).text = decimalText value ∧
      InCells.positionalText 64 .ten value = .ok (decimalText value)) := by
  refine ⟨?_, (length_decimalText value).symm, ?_, ?_, ?_⟩
  · intro text
    rw [isNumeral_iff, ← decimalText_toList, String.toList_inj, eq_comm]
  · obtain ⟨cells, ran, shown⟩ := shows_decimal_inTables value
    refine ⟨cells, ran, shown.text, ?_, ?_, ?_⟩
    · rw [shown.content, cells_decimal]
    · rw [shown.places, places_decimal]
    · intro index looked
      exact shown.acts _ looked rfl
  · intro fits
    rw [fits_word_iff] at fits
    have small : value.natAbs < 2 ^ 32 := by omega
    rw [positionalText_eq (by decide) .ten small, positional_text]
    exact ⟨rfl, rfl⟩
  · intro nonneg pattern
    have small : value.natAbs < 2 ^ 64 := by omega
    rw [positionalText_eq (by decide) .ten small, positional_text]
    exact ⟨rfl, rfl⟩

/-- The least word, whose magnitude is no word, and the greatest pattern. -/
theorem decimalText_exact_extremes :
    (Fits 32 (-2147483648) ∧ InCells.positionalText 32 .ten (-2147483648) = .ok (decimalText (-2147483648))) ∧
    ((0 : Int) ≤ 4294967295 ∧ (4294967295 : Int) ≤ 2 ^ 32 - 1 ∧
      InCells.positionalText 64 .ten 4294967295 = .ok (decimalText 4294967295)) := by
  have least : Fits 32 (-2147483648) := by decide
  have nonneg : (0 : Int) ≤ 4294967295 := by decide
  have greatest : (4294967295 : Int) ≤ 2 ^ 32 - 1 := by decide
  exact ⟨⟨least, ((decimalText_exact (-2147483648)).2.2.2.1 least).2⟩, nonneg, greatest,
    ((decimalText_exact 4294967295).2.2.2.2 nonneg greatest).2⟩

end MachineInt
