import MachineInt.Proofs.Numeral.Canonical
import Mathlib.Data.Nat.Digits.Lemmas

/-!
# The length of a numeral

A numeral has as few digits as its magnitude allows: no more than a power of the radix that exceeds the magnitude has
zeros. The decimal line is cut to its length before anything is written on it, by comparing with one power of ten after
another, and the comparison stops at the right one.
-/

namespace MachineInt.Numeral

theorem length_canonicalDigits_pos (radix : Radix) (magnitude : Nat) :
    0 < (canonicalDigits radix magnitude).length :=
  List.length_pos_iff.mpr (canonicalDigits_ne_nil radix magnitude)

theorem length_canonicalDigits_le_iff (radix : Radix) (magnitude : Nat) {count : Nat} (positive : 0 < count) :
    (canonicalDigits radix magnitude).length ≤ count ↔ magnitude < radix.value ^ count := by
  have two := radix.two_le
  unfold canonicalDigits
  split
  next zero =>
    -- Zero has a digit, although no power of the radix is that small.
    have above : 0 < radix.value ^ count := Nat.pow_pos radix.value_pos
    simp only [zero, above, List.length_singleton, iff_true]
    omega
  next => rw [List.length_reverse, Nat.digits_length_le_iff two]

/-- A further digit comes off with every quotient. -/
theorem length_canonicalDigits_of_le (radix : Radix) {magnitude : Nat} (large : radix.value ≤ magnitude) :
    (canonicalDigits radix magnitude).length = (canonicalDigits radix (magnitude / radix.value)).length + 1 := by
  rw [canonicalDigits_of_le radix large, List.length_append, List.length_singleton]

theorem length_canonical (radix : Radix) (value : Int) :
    (canonical radix value).length =
      (canonicalDigits radix value.natAbs).length + if value < 0 then 1 else 0 := by
  rw [canonical, List.length_append, List.length_map, Nat.add_comm]
  split <;> rfl

/-- A magnitude below a power of two has at most as many digits as the power has zeros in radix two. -/
theorem length_canonicalDigits_le (radix : Radix) {magnitude bits : Nat} (positive : 0 < bits)
    (small : magnitude < 2 ^ bits) : (canonicalDigits radix magnitude).length ≤ bits := by
  rw [length_canonicalDigits_le_iff radix magnitude positive]
  exact small.trans_le (Nat.pow_le_pow_left radix.two_le bits)

/-! ## Powers of ten -/

/-- The count goes on from any length that is not too long. -/
theorem countDigits_eq (magnitude : Nat) {size : Nat} (positive : 0 < size)
    (short : size ≤ (canonicalDigits .ten magnitude).length) :
    countDigits magnitude (10 ^ size) size = (canonicalDigits .ten magnitude).length := by
  -- On what is still missing: a comparison that succeeds is a digit more, and with the last one it fails.
  induction left : (canonicalDigits .ten magnitude).length - size generalizing size with
  | zero =>
    have whole : (canonicalDigits .ten magnitude).length = size := by omega
    have above : magnitude < 10 ^ size := (length_canonicalDigits_le_iff .ten magnitude positive).mp whole.le
    rw [countDigits, if_neg (by omega), whole]
  | succ left ih =>
    have longer : ¬ (canonicalDigits .ten magnitude).length ≤ size := by omega
    rw [length_canonicalDigits_le_iff .ten magnitude positive, not_lt] at longer
    rw [countDigits, if_pos ⟨Nat.pow_pos (by decide), longer⟩, ← Nat.pow_succ]
    exact ih (by omega) (by omega) (by omega)

/-- The length that is settled beforehand is that of the numeral. -/
theorem decimalLength_eq (value : Int) : decimalLength value = (canonical .ten value).length := by
  have counted := countDigits_eq value.natAbs Nat.one_pos (length_canonicalDigits_pos .ten value.natAbs)
  rw [Nat.pow_one] at counted
  rw [decimalLength, counted, length_canonical]

end MachineInt.Numeral
