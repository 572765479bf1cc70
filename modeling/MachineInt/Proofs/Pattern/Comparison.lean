import MachineInt.Proofs.Pattern.OnIntegers
import MachineInt.Proofs.Pattern.TrailingZeros
import MachineInt.Subword

/-!
# The two orders of words

A comparison tells three cases apart. The signed one compares the words, the unsigned one the patterns, though by way of
the signed one: when the least word is added and what leaves the range comes round, patterns in their order become words
in theirs. The sign is put together from two moves that leave nothing but a sign bit each.
-/

namespace MachineInt

/-- The number tells which of the two integers is the greater. -/
inductive ThreeWay (x y : Int) : Int → Prop
  | below (less : x < y) : ThreeWay x y (-1)
  | equal (same : x = y) : ThreeWay x y 0
  | above (greater : y < x) : ThreeWay x y 1

namespace ThreeWay

variable {x y a b : Int}

theorem unique (first : ThreeWay x y a) (second : ThreeWay x y b) : a = b := by
  cases first with
  | below less =>
    cases second with
    | below => rfl
    | equal same => exact absurd same less.ne
    | above greater => exact absurd greater less.asymm
  | equal same =>
    cases second with
    | below less => exact absurd same less.ne
    | equal => rfl
    | above greater => exact absurd same greater.ne'
  | above greater =>
    cases second with
    | below less => exact absurd less greater.asymm
    | equal same => exact absurd same greater.ne'
    | above => rfl

/-- Moving both sides by the same distance changes nothing. -/
theorem of_add {moved : Int} (threeWay : ThreeWay (x + moved) (y + moved) a) : ThreeWay x y a := by
  cases threeWay with
  | below less => exact .below (by omega)
  | equal same => exact .equal (by omega)
  | above greater => exact .above (by omega)

end ThreeWay

theorem threeWay_compare (x y : Int) : ThreeWay x y (orderSign (compare x y)) := by
  rcases lt_trichotomy x y with less | same | greater
  · rw [compare_lt_iff_lt.mpr less]
    exact .below less
  · rw [compare_eq_iff_eq.mpr same]
    exact .equal same
  · rw [compare_gt_iff_gt.mpr greater]
    exact .above greater

/-- The sign of a difference compares its sides. -/
theorem threeWay_sign_sub (x y : Int) : ThreeWay x y (x - y).sign := by
  rcases lt_trichotomy x y with less | same | greater
  · rw [Int.sign_eq_neg_one_of_neg (Int.sub_neg_of_lt less)]
    exact .below less
  · rw [same, Int.sub_self]
    exact .equal rfl
  · rw [Int.sign_eq_one_of_pos (Int.sub_pos_of_lt greater)]
    exact .above greater

/-! ## Words of 32 bits -/

theorem threeWay_signedOrder (x y : Int) : ThreeWay (wrap 32 x) (wrap 32 y) (orderSign (signedOrder x y)) :=
  threeWay_compare _ _

/-- Half way round, a pattern is the word that lies the same distance below it, with no other wrap-around. -/
theorem wrap_add_minValue (bits : Nat) (value : Int) :
    wrap bits (value + minValue bits) = unsigned bits value + minValue bits := by
  rw [wrap, minValue, Int.neg_add_cancel_right, unsigned, Int.sub_eq_add_neg]

theorem threeWay_unsignedOrder (x y : Int) :
    ThreeWay (unsigned 32 x) (unsigned 32 y) (orderSign (unsignedOrder x y)) := by
  -- The comparison cuts its operands to words again, and they are words already.
  have moved (value : Int) : wrap 32 (wrap 32 (value + minValue 32)) = unsigned 32 value + minValue 32 := by
    rw [wrap_of_fits (by decide) (fits_wrap (by decide) _), wrap_add_minValue]
  have compared := threeWay_signedOrder (wrap 32 (x + minValue 32)) (wrap 32 (y + minValue 32))
  rw [moved, moved] at compared
  exact compared.of_add

/-! ### The sign -/

namespace Pattern

/-- Copies of the sign bit at all places. -/
theorem shiftRightSigned_top (x : Pattern) : x.shiftRightSigned 31 = if x.msb then BitVec.allOnes 32 else 0 := by
  have whole : distance 31 = 31 := by decide
  rw [shiftRightSigned, whole]
  apply BitVec.eq_of_getLsbD_eq
  intro place inside
  -- The one bit that is moved and not copied is the sign bit itself.
  have sign : (if 31 + place < 32 then x.getLsbD (31 + place) else x.msb) = x.msb := by
    split
    next lowest =>
      have first : 31 + place = 31 := by omega
      rw [first, BitVec.msb_eq_getLsbD_last]
    · rfl
  rw [BitVec.getLsbD_sshiftRight, sign, decide_eq_false (Nat.not_le.mpr inside), Bool.not_false, Bool.true_and]
  cases x.msb with
  | true => rw [if_pos rfl, BitVec.getLsbD_allOnes, decide_eq_true inside]
  | false => exact BitVec.getLsbD_zero.symm

/-- The sign bit at the lowest place. -/
theorem shiftRight_top (x : Pattern) : x.shiftRight 31 = if x.msb then 1 else 0 := by
  have whole : distance 31 = 31 := by decide
  have sign : x.msb = x.getLsbD 31 := BitVec.msb_eq_getLsbD_last x
  apply BitVec.eq_of_toNat_eq
  rw [shiftRight, whole, toNat_shiftRight_top, ← sign]
  cases x.msb <;> rfl

/-- What has no sign bit has one when it is negated, unless it is zero. -/
theorem msb_neg_of_positive {x : Pattern} (nonzero : x ≠ 0) (positive : x.msb = false) : (-x).msb = true := by
  have other : x ≠ BitVec.intMin 32 := by
    rintro rfl
    exact absurd positive (by decide)
  have some : x ≠ 0#32 := nonzero
  simp [some, other, positive]

end Pattern

theorem threeWay_sign (value : Int) : ThreeWay (wrap 32 value) 0 (sign value) := by
  rw [← toInt_pattern, sign]
  generalize pattern value = x
  simp only [Pattern.shiftRightSigned_top, Pattern.shiftRight_top]
  cases negative : x.msb with
  | true =>
    -- All places hold a one before the other half is put to them.
    rw [if_pos rfl, BitVec.allOnes_or]
    exact .below (BitVec.toInt_neg_of_msb_true negative)
  | false =>
    by_cases zero : x = 0
    · rw [zero]
      exact .equal rfl
    · have some : x.toInt ≠ 0 := fun none => zero (BitVec.eq_of_toInt_eq none)
      have least : 0 ≤ x.toInt := BitVec.toInt_nonneg_of_msb_false negative
      rw [Pattern.msb_neg_of_positive zero negative]
      exact .above (by omega)

theorem sign_eq_signedOrder (value : Int) : sign value = orderSign (signedOrder value 0) := by
  have zero : wrap 32 0 = 0 := by decide
  have compared := threeWay_signedOrder value 0
  rw [zero] at compared
  exact (threeWay_sign value).unique compared

/-! ### Where the orders agree -/

theorem testBit_signBit (value : Int) : value.testBit 31 = decide (wrap 32 value < 0) := by
  rw [← toInt_pattern, ← BitVec.msb_eq_toInt, BitVec.msb_eq_getLsbD_last, pattern, getLsbD_ofInt _ (by decide)]

/-- Only words with the sign bit have another unsigned view. -/
theorem unsigned_eq_of_sign (value : Int) :
    unsigned 32 value = if wrap 32 value < 0 then wrap 32 value + 2 ^ 32 else wrap 32 value := by
  have range := (fits_word_iff _).mp (fits_wrap (by decide : 0 < 32) value)
  rw [← unsigned_wrap, unsigned, weight_word]
  split <;> omega

/-- Of two words with different sign bits the orders see different ones as the greater. -/
theorem orders_eq_iff (x y : Int) :
    orderSign (signedOrder x y) = orderSign (unsignedOrder x y) ↔
      wrap 32 x = wrap 32 y ∨ x.testBit 31 = y.testBit 31 := by
  have signed := threeWay_signedOrder x y
  have plain := threeWay_unsignedOrder x y
  have left := (fits_word_iff _).mp (fits_wrap (by decide : 0 < 32) x)
  have right := (fits_word_iff _).mp (fits_wrap (by decide : 0 < 32) y)
  rw [unsigned_eq_of_sign, unsigned_eq_of_sign] at plain
  rw [testBit_signBit, testBit_signBit, decide_eq_decide]
  generalize wrap 32 x = first at *
  generalize wrap 32 y = second at *
  by_cases alike : first < 0 ↔ second < 0
  · -- Both views lie above their words by the same distance, or neither does.
    have same : ThreeWay first second (orderSign (unsignedOrder x y)) := by
      by_cases negative : first < 0
      · rw [if_pos negative, if_pos (alike.mp negative)] at plain
        exact plain.of_add
      · rw [if_neg negative, if_neg (mt alike.mpr negative)] at plain
        exact plain
    exact iff_of_true (signed.unique same) (.inr alike)
  · refine iff_of_false ?_ ?_
    · -- The word with the sign bit is the smaller one with the sign and the greater one without.
      intro same
      rw [← same] at plain
      by_cases negative : first < 0
      · rw [if_pos negative, if_neg (by omega)] at plain
        have smaller := signed.unique (.below (by omega))
        have greater := plain.unique (.above (by omega))
        omega
      · rw [if_neg negative, if_pos (by omega)] at plain
        have greater := signed.unique (.above (by omega))
        have smaller := plain.unique (.below (by omega))
        omega
    · rintro (rfl | sign)
      · exact alike Iff.rfl
      · exact alike sign

example : (signedOrder (-1) 1, unsignedOrder (-1) 1) = (.lt, .gt) := by decide

/-! ## Words of 8 and 16 bits -/

theorem Subword.threeWay_signedDifference (size : Subword) (x y : Int) :
    ThreeWay (wrap size.bits x) (wrap size.bits y) (size.signedDifference x y).sign :=
  threeWay_sign_sub _ _

theorem Subword.threeWay_unsignedDifference (size : Subword) (x y : Int) :
    ThreeWay (unsigned size.bits x) (unsigned size.bits y) (size.unsignedDifference x y).sign :=
  threeWay_sign_sub _ _

namespace OnIntegers

def signedDifference (bits : Nat) (x y : Int) : Int := wrap bits x - wrap bits y

def unsignedDifference (bits : Nat) (x y : Int) : Int := x.land (unsignedMax bits) - y.land (unsignedMax bits)

theorem signedDifference_eq (size : Subword) (x y : Int) :
    signedDifference size.bits x y = size.signedDifference x y := by
  rw [signedDifference, wrap_eq, wrap_eq, Subword.signedDifference]

theorem unsignedDifference_eq (size : Subword) (x y : Int) :
    unsignedDifference size.bits x y = size.unsignedDifference x y := by
  rw [unsignedDifference, land_unsignedMax, land_unsignedMax]
  rfl

end OnIntegers

/-- The comparisons of words are those of the integers that the words are, with the sign and without, and the sign of a
word is its comparison with zero. They agree where the sign bits do. For words of 8 and 16 bits the sign of the
difference compares them in the same two ways. -/
theorem orders_compare (x y : Int) :
    ThreeWay (wrap 32 x) (wrap 32 y) (orderSign (signedOrder x y)) ∧
    ThreeWay (x % 2 ^ 32) (y % 2 ^ 32) (orderSign (unsignedOrder x y)) ∧
    sign x = orderSign (signedOrder x 0) ∧
    (orderSign (signedOrder x y) = orderSign (unsignedOrder x y) ↔
      wrap 32 x = wrap 32 y ∨ x.testBit 31 = y.testBit 31) ∧
    (∀ size : Subword,
      ThreeWay (wrap size.bits x) (wrap size.bits y) (size.signedDifference x y).sign ∧
      ThreeWay (x % 2 ^ size.bits) (y % 2 ^ size.bits) (size.unsignedDifference x y).sign) ∧
    OnIntegers.signedOrder x y = orderSign (signedOrder x y) ∧
    OnIntegers.unsignedOrder x y = orderSign (unsignedOrder x y) ∧
    OnIntegers.sign x = sign x ∧
    ∀ size : Subword, OnIntegers.signedDifference size.bits x y = size.signedDifference x y ∧
      OnIntegers.unsignedDifference size.bits x y = size.unsignedDifference x y := by
  have plain := threeWay_unsignedOrder x y
  rw [unsigned, unsigned, weight_word] at plain
  refine ⟨threeWay_signedOrder x y, plain, sign_eq_signedOrder x, orders_eq_iff x y, ?_, OnIntegers.signedOrder_eq x y,
    OnIntegers.unsignedOrder_eq x y, OnIntegers.sign_eq x, ?_⟩
  · intro size
    have small := size.threeWay_unsignedDifference x y
    rw [unsigned, unsigned, weight_eq_pow] at small
    exact ⟨size.threeWay_signedDifference x y, small⟩
  · intro size
    exact ⟨OnIntegers.signedDifference_eq size x y, OnIntegers.unsignedDifference_eq size x y⟩

end MachineInt
