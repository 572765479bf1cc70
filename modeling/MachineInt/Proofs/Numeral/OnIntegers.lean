import MachineInt.Proofs.Numeral.InCells
import MachineInt.Proofs.Numeral.PowerOfTwo
import MachineInt.Proofs.Pattern.Ends

/-!
# Numerals on integers without a bound

The numerals of words once more, with integers that have no bound and cells that could be missed. A word is cut off
before it is written, or its low bits are masked out. Where a digit is a group of bits, the word keeps its sign to begin
with: the mask takes the digit from a negative word as from any other, and the first shift has the sign gone. The texts
are those of the patterns.
-/

namespace MachineInt

open Numeral

namespace OnIntegers

def spell (bits : Nat) (radix : Radix) (value : Int) : Except Slip String :=
  if radix = Radix.ten then InCells.decimalText value else InCells.positionalText bits radix value

def signedText (value radix : Int) : Except Slip String := spell 32 (Radix.orTen radix) (wrap 32 value)

def unsignedText (value radix : Int) : Except Slip String := spell 64 (Radix.orTen radix) (low value)

def unsignedDecimalText (value : Int) : Except Slip String := InCells.decimalText (low value)

/-- The cells that the ones of a word reach into, one at least. -/
def groupCount (bits : Nat) (value : Int) : Nat := (max ((32 - leadingZeros value + (bits - 1)) / bits) 1).toNat

/-- The digits of the low groups of bits, in all the cells in front of `place`. -/
def writeGroups (bits : Nat) : Nat → Int → Cells → Except Slip Cells
  | 0, _, cells => .ok cells
  | place + 1, value, cells => do
    let cells ← cells.writeDigit place (value.land (unsignedMax bits))
    writeGroups bits place (shiftRight value bits) cells

def grouped (bits : Nat) (value : Int) : Except Slip String := do
  let word := wrap 32 value
  let cells ← writeGroups bits (groupCount bits word) word (.blank (groupCount bits word))
  pure cells.text

def hexText (value : Int) : Except Slip String := grouped hexBits value

def octalText (value : Int) : Except Slip String := grouped octalBits value

def binaryText (value : Int) : Except Slip String := grouped binaryBits value

/-! ## Division -/

theorem decimalText_eq (value : Int) : InCells.decimalText value = .ok (decimalText value) := by
  obtain ⟨cells, ran, shown⟩ := shows_decimal (fun _ => True) (fun _ _ => trivial) (fun _ _ => trivial) value
  rw [InCells.decimalText, ran, decimalText, ← shown.text]
  rfl

theorem spell_eq {bits : Nat} (positive : 0 < bits) (radix : Radix) {value : Int} (small : value.natAbs < 2 ^ bits) :
    spell bits radix value = .ok (Numeral.spell bits radix value).text := by
  rw [spell, Numeral.spell]
  split
  · exact decimalText_eq value
  · exact positionalText_eq positive radix small

theorem signedText_eq (value radix : Int) : signedText value radix = .ok (MachineInt.signedText value radix) := by
  have word := (fits_word_iff _).mp (fits_wrap (by decide : 0 < 32) value)
  rw [signedText, wrap_eq, spell_eq (by decide) _ (by omega), MachineInt.signedText]

theorem unsignedText_eq (value radix : Int) : unsignedText value radix = .ok (MachineInt.unsignedText value radix) := by
  have nonneg := unsigned_nonneg 32 value
  have small := unsigned_lt 32 value
  rw [weight_word] at small
  rw [unsignedText, low_eq, spell_eq (by decide) _ (by omega), MachineInt.unsignedText]

theorem unsignedDecimalText_eq (value : Int) :
    unsignedDecimalText value = .ok (MachineInt.unsignedDecimalText value) := by
  rw [unsignedDecimalText, low_eq, decimalText_eq, MachineInt.unsignedDecimalText]

/-! ## Groups of bits -/

section

variable {bits : Nat} {radix : Radix} (shape : radix.value = 2 ^ bits)
include shape

theorem groupCount_eq (value : Int) : groupCount bits value = Numeral.groupCount bits (pattern value) := by
  have positive := groupBits_pos shape
  have most := Pattern.leadingZeros_le (pattern value)
  have reach : (32 : Int) - (pattern value).leadingZeros + (bits - 1) =
      (32 - (pattern value).leadingZeros + (bits - 1) : Nat) := by omega
  rw [groupCount, leadingZeros_eq, MachineInt.leadingZeros, Numeral.groupCount, reach, ← Int.natCast_ediv]
  omega

/-- The mask takes the same digit from the word, be it negative, as from the pattern. -/
theorem land_eq_lowGroup (value : Int) : value.land (unsignedMax bits) = lowGroup bits (pattern value) := by
  have fewer : weight bits ∣ weight 32 := by
    rw [weight_eq_pow, weight_eq_pow]
    exact pow_dvd_pow 2 (groupBits_lt shape).le
  have modulus : (radix.value : Int) = weight bits := by rw [shape, weight, Nat.one_shiftLeft]
  have number : ((pattern value).toNat : Int) = value % weight 32 := natCast_toNat_ofInt value
  rw [land_unsignedMax, lowGroup_eq shape, Int.natCast_emod, number, modulus, unsigned,
    Int.emod_emod_of_dvd value fewer]

theorem lowGroup_lt (x : Pattern) : lowGroup bits x < maxRadix := by
  rw [lowGroup_eq shape]
  exact (Nat.mod_lt _ radix.value_pos).trans_le radix.le_max

theorem shows_writeGroups {allowed : Act → Prop} (asking : ∀ digit : Nat, allowed (.digit digit)) (count : Nat)
    (value : Int) {cells : Cells} {line : Line} (shows : Shows allowed cells line)
    (room : line.written.length + count = line.room) :
    ∃ next, writeGroups bits count value cells = .ok next ∧
      Shows allowed next (Numeral.writeGroups bits count (pattern value) line) := by
  -- The induction is on the cells in front; all that is kept of the value is its pattern.
  induction count generalizing value cells line with
  | zero => exact ⟨cells, rfl, shows⟩
  | succ count ih =>
    have here : (count : Int) = line.cell := by
      rw [Line.cell]
      omega
    have digit := land_eq_lowGroup shape value
    obtain ⟨middle, wrote, shown⟩ := shows.writeDigit count here (by omega) digit (lowGroup_lt shape _)
      (by rw [digit]; exact asking _)
    have moved : pattern (shiftRight value bits) = (pattern value).shiftRight bits := by
      rw [shiftRight_eq, MachineInt.shiftRight, pattern_toInt]
    obtain ⟨next, ran, shown⟩ := ih (shiftRight value bits) shown
      (by rw [Line.length_write, Line.room_write]; omega)
    refine ⟨next, ?_, ?_⟩
    · rw [writeGroups, wrote]
      exact ran
    · rwa [Numeral.writeGroups, ← moved]

theorem grouped_eq (value : Int) : grouped bits value = .ok (Numeral.grouped bits (pattern value)).text := by
  have same : pattern (wrap 32 value) = pattern value := by rw [wrap_eq, pattern_wrap]
  have count := groupCount_eq shape (wrap 32 value)
  have start := shows_blank (fun _ => True) (Numeral.groupCount bits (pattern value))
  obtain ⟨cells, ran, shown⟩ := shows_writeGroups shape (fun _ => trivial)
    (Numeral.groupCount bits (pattern value)) (wrap 32 value) start (by simp [Line.blank])
  rw [same] at count shown
  rw [grouped, count, ran, Numeral.grouped, ← shown.text]
  rfl

end

theorem hexText_eq (value : Int) : hexText value = .ok (MachineInt.hexText value) :=
  grouped_eq (rfl : (⟨16, by decide, by decide⟩ : Radix).value = 2 ^ hexBits) value

theorem octalText_eq (value : Int) : octalText value = .ok (MachineInt.octalText value) :=
  grouped_eq (rfl : (⟨8, by decide, by decide⟩ : Radix).value = 2 ^ octalBits) value

theorem binaryText_eq (value : Int) : binaryText value = .ok (MachineInt.binaryText value) :=
  grouped_eq (rfl : (⟨2, by decide, by decide⟩ : Radix).value = 2 ^ binaryBits) value

end OnIntegers

end MachineInt
