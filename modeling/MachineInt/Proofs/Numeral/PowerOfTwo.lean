import MachineInt.Proofs.Numeral.Length
import MachineInt.Proofs.Numeral.RoundTrip
import MachineInt.Proofs.Pattern.Integers
import MachineInt.Proofs.Pattern.LeadingZeros

/-!
# Groups of bits are digits

In a radix that is a power of two, masking out the lowest group of bits leaves the remainder of the pattern, and
shifting it on leaves the quotient. The place of the highest one decides how many groups there are, in octal too, where
the last group of a full pattern has a bit less than the others. So the numeral is the one that division arrives at.
-/

namespace MachineInt

open Pattern

theorem toNat_pattern (value : Int) : (pattern value).toNat = (unsigned 32 value).natAbs := by
  have view : ((pattern value).toNat : Int) = unsigned 32 value := natCast_toNat_ofInt value
  omega

namespace Numeral

section

variable {bits : Nat} {radix : Radix} (shape : radix.value = 2 ^ bits)
include shape

theorem groupBits_pos : 0 < bits := by
  have two := radix.two_le
  rw [shape] at two
  exact Nat.pos_of_ne_zero fun none => by simp [none] at two

theorem groupBits_lt : bits < 32 := by
  have most := radix.le_max
  rw [shape] at most
  exact (Nat.pow_lt_pow_iff_right (by decide)).mp (Nat.lt_of_le_of_lt most (by decide : maxRadix < 2 ^ 32))

theorem length_canonicalDigits_of_ne_zero {magnitude : Nat} (nonzero : magnitude ≠ 0) :
    (canonicalDigits radix magnitude).length = Nat.log 2 magnitude / bits + 1 := by
  rw [canonicalDigits, if_neg nonzero, List.length_reverse, Nat.length_digits _ _ radix.two_le nonzero, shape,
    Nat.log_pow_left]

/-- There are as many groups as digits. -/
theorem groupCount_eq (x : Pattern) : groupCount bits x = (canonicalDigits radix x.toNat).length := by
  have positive := groupBits_pos shape
  by_cases zero : x = 0
  · -- No one in the pattern leaves the one digit that zero has.
    have rounded : (bits - 1) / bits = 0 := Nat.div_eq_of_lt (by omega)
    rw [zero, groupCount, leadingZeros_zero, Nat.sub_self, Nat.zero_add, rounded]
    rfl
  · have nonzero : x.toNat ≠ 0 := fun none => zero (BitVec.eq_of_toNat_eq none)
    have place := log_add_leadingZeros zero
    have reach : 32 - x.leadingZeros + (bits - 1) = Nat.log 2 x.toNat + bits := by omega
    rw [groupCount, reach, Nat.add_div_right _ positive, length_canonicalDigits_of_ne_zero shape nonzero]
    exact Nat.max_eq_left (Nat.le_add_left _ _)

theorem lowGroup_eq (x : Pattern) : lowGroup bits x = x.toNat % radix.value := by
  have few := groupBits_lt shape
  have mask : (BitVec.ofNat 32 (1 <<< bits - 1)).toNat = 2 ^ bits - 1 := by
    have small : 2 ^ bits < 2 ^ 32 := Nat.pow_lt_pow_right (by decide) few
    rw [BitVec.toNat_ofNat, Nat.one_shiftLeft]
    exact Nat.mod_eq_of_lt (by omega)
  rw [lowGroup, BitVec.toNat_and, mask, Nat.and_two_pow_sub_one_eq_mod, shape]

theorem toNat_shiftRight (x : Pattern) : (x.shiftRight bits).toNat = x.toNat / radix.value := by
  have few := groupBits_lt shape
  rw [Pattern.shiftRight, distance_natCast (by omega), BitVec.toNat_ushiftRight, Nat.shiftRight_eq_div_pow, shape]

/-- Group after group, the digits of the pattern come out from the low end. -/
theorem writeGroups_written (count : Nat) (x : Pattern) (line : Line)
    (groups : count = (canonicalDigits radix x.toNat).length) :
    (writeGroups bits count x line).written = (canonicalDigits radix x.toNat).map digitChar ++ line.written := by
  -- The groups left to write are always as many as the digits of what is left of the pattern.
  induction count generalizing x line with
  | zero =>
    have some := length_canonicalDigits_pos radix x.toNat
    omega
  | succ count ih =>
    rw [writeGroups, lowGroup_eq shape]
    by_cases large : radix.value ≤ x.toNat
    · rw [length_canonicalDigits_of_le radix large, ← toNat_shiftRight shape] at groups
      rw [ih _ _ (Nat.succ.inj groups), toNat_shiftRight shape, canonicalDigits_of_le radix large]
      simp [Line.write]
    · have single := canonicalDigits_of_lt radix (Nat.lt_of_not_le large)
      have last : count = 0 := by simpa [single] using groups
      rw [last, writeGroups, single, Nat.mod_eq_of_lt (Nat.lt_of_not_le large)]
      simp [Line.write]

/-- The numeral in groups is that of the pattern read without a sign. -/
theorem grouped_written (value : Int) :
    (grouped bits (pattern value)).written = canonical radix (unsigned 32 value) := by
  have nonneg := unsigned_nonneg 32 value
  rw [grouped, writeGroups_written shape _ _ _ (groupCount_eq shape (pattern value)), Line.blank, List.append_nil,
    canonical, if_neg (by omega), List.nil_append, toNat_pattern]

theorem grouped_text (value : Int) : (grouped bits (pattern value)).text = unsignedText value radix.value := by
  apply String.toList_injective
  rw [Line.text, String.toList_ofList, grouped_written shape, unsignedText_toList, orTen_radix]

end

end Numeral

open Numeral

/-- Hexadecimal, octal and binary numerals of a pattern are the unsigned ones in radix sixteen, eight and two. -/
theorem groupedTexts_eq (value : Int) :
    hexText value = unsignedText value 16 ∧
    octalText value = unsignedText value 8 ∧
    binaryText value = unsignedText value 2 := by
  have hex : (⟨16, by decide, by decide⟩ : Radix).value = 2 ^ hexBits := rfl
  have octal : (⟨8, by decide, by decide⟩ : Radix).value = 2 ^ octalBits := rfl
  have binary : (⟨2, by decide, by decide⟩ : Radix).value = 2 ^ binaryBits := rfl
  exact ⟨grouped_text hex value, grouped_text octal value, grouped_text binary value⟩

end MachineInt
