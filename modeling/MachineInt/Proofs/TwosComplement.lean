import MachineInt.TwosComplement
import Mathlib.Algebra.Order.Ring.Int
import Mathlib.Data.Int.ModEq

/-!
# Two readings of one pattern

Wrapping and the unsigned view pick representatives of one class modulo the weight of the width, so that either can
be taken before the other without a difference.
-/

namespace MachineInt

/-! ## The widths in use -/

theorem weight_word : weight 32 = 2 ^ 32 := by decide
theorem weight_wide : weight 64 = 2 ^ 64 := by decide
theorem signWeight_word : signWeight 32 = 2 ^ 31 := by decide
theorem signWeight_wide : signWeight 64 = 2 ^ 63 := by decide

theorem weight_eq_pow (place : Nat) : weight place = 2 ^ place := by
  rw [weight, Nat.one_shiftLeft, Nat.cast_pow, Nat.cast_ofNat]

theorem signWeight_eq_pow (bits : Nat) : signWeight bits = 2 ^ (bits - 1) := weight_eq_pow (bits - 1)

theorem fits_word_iff (value : Int) : Fits 32 value ↔ -2 ^ 31 ≤ value ∧ value ≤ 2 ^ 31 - 1 := by
  rw [Fits, signWeight_word]
  omega

theorem fits_iff_pow (bits : Nat) (value : Int) :
    Fits bits value ↔ -2 ^ (bits - 1) ≤ value ∧ value ≤ 2 ^ (bits - 1) - 1 := by
  rw [Fits, signWeight_eq_pow, Int.le_sub_one_iff]

theorem fits_of_le {bits wider : Nat} {value : Int} (le : signWeight bits ≤ signWeight wider)
    (fits : Fits bits value) : Fits wider value := by
  unfold Fits at fits ⊢
  omega

theorem signedWidth_of_pos {bits : Nat} (positive : 0 < bits) : signedWidth bits = .ok bits := by
  rw [signedWidth, if_neg (by omega), Int.toNat_natCast]

theorem wrapAt_of_pos {bits : Nat} (positive : 0 < bits) (value : Int) :
    wrapAt value bits = .ok (wrap bits value) := by
  rw [wrapAt, signedWidth_of_pos positive]
  rfl

theorem fitsAt_of_pos {bits : Nat} (positive : 0 < bits) (value : Int) :
    fitsAt value bits = .ok (decide (Fits bits value)) := by
  rw [fitsAt, signedWidth_of_pos positive]
  rfl

/-! ## The unsigned view -/

theorem unsignedAt_natCast (bits : Nat) (value : Int) : unsignedAt value bits = .ok (unsigned bits value) := by
  rw [unsignedAt, unsignedWidth, if_neg (by omega), Int.toNat_natCast]
  rfl

theorem unsigned_eq_emod (bits : Nat) (value : Int) : unsigned bits value = value % 2 ^ bits := by
  rw [unsigned, weight_eq_pow]

theorem unsigned_nonneg (bits : Nat) (value : Int) : 0 ≤ unsigned bits value :=
  Int.emod_nonneg value (ne_of_gt (weight_pos bits))

theorem unsigned_lt (bits : Nat) (value : Int) : unsigned bits value < weight bits :=
  Int.emod_lt_of_pos value (weight_pos bits)

theorem wrap_unsigned (bits : Nat) (value : Int) : wrap bits (unsigned bits value) = wrap bits value := by
  rw [wrap, wrap, unsigned, Int.emod_add_emod]

/-- An unsigned view has room in a wider signed word. -/
theorem fits_unsigned {bits wider : Nat} (narrow : weight bits ≤ signWeight wider) (value : Int) :
    Fits wider (unsigned bits value) := by
  have low := unsigned_nonneg bits value
  have high := unsigned_lt bits value
  unfold Fits
  omega

theorem unsigned_wrap (bits : Nat) (value : Int) : unsigned bits (wrap bits value) = unsigned bits value := by
  rw [wrap, unsigned, unsigned, Int.emod_sub_emod, Int.add_sub_cancel]

/-- A number without a sign comes back from the signed word of its pattern. -/
theorem unsigned_wrap_of_range {bits : Nat} {value : Int} (nonneg : 0 ≤ value) (small : value < weight bits) :
    unsigned bits (wrap bits value) = value := by
  rw [unsigned_wrap]
  exact Int.emod_eq_of_lt nonneg small

/-- A word is what its unsigned view wraps to. -/
theorem wrap_unsigned_of_fits {bits : Nat} (positive : 0 < bits) {value : Int} (fits : Fits bits value) :
    wrap bits (unsigned bits value) = value := by
  rw [wrap_unsigned, wrap_of_fits positive fits]

/-! ## Congruence -/

theorem unsigned_eq_iff_modEq {bits : Nat} {x y : Int} :
    unsigned bits x = unsigned bits y ↔ x ≡ y [ZMOD 2 ^ bits] := by
  rw [unsigned_eq_emod, unsigned_eq_emod]
  rfl

/-- Integers wrap to one word just when they are congruent. -/
theorem wrap_eq_iff_modEq {bits : Nat} {x y : Int} : wrap bits x = wrap bits y ↔ x ≡ y [ZMOD 2 ^ bits] := by
  rw [← unsigned_eq_iff_modEq]
  constructor
  · intro same
    rw [← unsigned_wrap bits x, same, unsigned_wrap]
  · intro same
    rw [← wrap_unsigned bits x, same, wrap_unsigned]

end MachineInt
