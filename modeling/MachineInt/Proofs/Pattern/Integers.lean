import MachineInt.Pattern
import MachineInt.Proofs.TwosComplement
import Mathlib.Data.Int.Bitwise

/-!
# The low bits of integers

An integer has infinitely many bits, all of them equal from some place on: zeros if it is not negative, ones if it is.
The low bits of what is computed from integers depend on their low bits alone, except where bits come down from above.
So a computation on integers can be followed on patterns, step by step, as long as an operand is cut to its low bits
before it is moved down.
-/

namespace MachineInt

section

variable {bits : Nat}

/-! ## Low bits -/

/-- A bit of the pattern is that bit of the integer. -/
theorem getLsbD_ofInt (value : Int) {place : Nat} (inside : place < bits) :
    (BitVec.ofInt bits value).getLsbD place = value.testBit place := by
  cases value with
  | ofNat value =>
    change (BitVec.ofNat bits value).getLsbD place = value.testBit place
    rw [BitVec.getLsbD_ofNat, decide_eq_true inside, Bool.true_and]
  | negSucc value =>
    change _ = !value.testBit place
    rw [BitVec.ofInt_negSucc_eq_not_ofNat, BitVec.getLsbD_not, BitVec.getLsbD_ofNat, decide_eq_true inside,
      Bool.true_and, Bool.true_and]

theorem ofInt_land (x y : Int) : BitVec.ofInt bits (x.land y) = BitVec.ofInt bits x &&& BitVec.ofInt bits y := by
  apply BitVec.eq_of_getLsbD_eq
  intro place inside
  simp only [BitVec.getLsbD_and, getLsbD_ofInt _ inside, Int.testBit_land]

theorem ofInt_lor (x y : Int) : BitVec.ofInt bits (x.lor y) = BitVec.ofInt bits x ||| BitVec.ofInt bits y := by
  apply BitVec.eq_of_getLsbD_eq
  intro place inside
  simp only [BitVec.getLsbD_or, getLsbD_ofInt _ inside, Int.testBit_lor]

theorem ofInt_two_pow (place : Nat) : BitVec.ofInt bits (2 ^ place) = BitVec.twoPow bits place := by
  apply BitVec.eq_of_toNat_eq
  rw [← Nat.cast_ofNat, ← Nat.cast_pow, BitVec.ofInt_natCast, BitVec.toNat_ofNat, BitVec.toNat_twoPow]

theorem ofInt_shiftLeft (value : Int) (places : Nat) :
    BitVec.ofInt bits (value <<< places) = BitVec.ofInt bits value <<< places := by
  rw [Int.shiftLeft_eq, BitVec.ofInt_mul, ofInt_two_pow, BitVec.shiftLeft_eq_mul_twoPow]

/-- Bits that are moved down keep their order. -/
theorem testBit_shiftRight (value : Int) (places place : Nat) :
    (value >>> places).testBit place = value.testBit (places + place) := by
  cases value with
  | ofNat value => exact Nat.testBit_shiftRight value
  | negSucc value =>
    rw [Int.negSucc_shiftRight]
    exact congrArg not (Nat.testBit_shiftRight value)

/-- A mask that is low enough drops what comes down from above the pattern. -/
theorem ofInt_shiftRight_land (value : Int) {places mask : Nat} (low : mask < 2 ^ (bits - places)) :
    BitVec.ofInt bits ((value >>> places).land mask) =
      (BitVec.ofInt bits value >>> places) &&& BitVec.ofNat bits mask := by
  apply BitVec.eq_of_getLsbD_eq
  intro place inside
  rw [ofInt_land, BitVec.ofInt_natCast, BitVec.getLsbD_and, BitVec.getLsbD_and, BitVec.getLsbD_ushiftRight,
    getLsbD_ofInt _ inside, testBit_shiftRight]
  by_cases above : places + place < bits
  · rw [getLsbD_ofInt _ above]
  · have zero : mask.testBit place = false :=
      Nat.testBit_lt_two_pow (low.trans_le (Nat.pow_le_pow_right (by decide) (by omega)))
    simp [BitVec.getLsbD_ofNat, zero]

/-- A mask that is no wider than the pattern leaves nothing above it to come down. -/
theorem ofInt_land_shiftRight (value : Int) {places mask : Nat} (narrow : mask < 2 ^ bits) :
    BitVec.ofInt bits ((value.land mask) >>> places) =
      (BitVec.ofInt bits value &&& BitVec.ofNat bits mask) >>> places := by
  apply BitVec.eq_of_getLsbD_eq
  intro place inside
  have lower : Int.testBit mask (places + place) = mask.testBit (places + place) := rfl
  rw [getLsbD_ofInt _ inside, testBit_shiftRight, Int.testBit_land, BitVec.getLsbD_ushiftRight, BitVec.getLsbD_and,
    BitVec.getLsbD_ofNat, lower]
  by_cases above : places + place < bits
  · rw [getLsbD_ofInt _ above, decide_eq_true above, Bool.true_and]
  · have zero : mask.testBit (places + place) = false :=
      Nat.testBit_lt_two_pow (narrow.trans_le (Nat.pow_le_pow_right (by decide) (by omega)))
    rw [zero, Bool.and_false, Bool.and_false, Bool.and_false]

/-! ## Masks -/

/-- A mask of low ones leaves what is left of a division by their number. -/
theorem land_unsignedMax (value : Int) : value.land (unsignedMax bits) = unsigned bits value := by
  have mask : unsignedMax bits = ((2 ^ bits - 1 : Nat) : Int) := by
    have positive := Nat.two_pow_pos bits
    rw [unsignedMax, weight, Nat.one_shiftLeft]
    omega
  have whole : weight bits = ((2 ^ bits : Nat) : Int) := by rw [weight, Nat.one_shiftLeft]
  rw [mask, unsigned, whole]
  cases value with
  | ofNat value =>
    change ((value &&& 2 ^ bits - 1 : Nat) : Int) = (value : Int) % _
    rw [Nat.and_two_pow_sub_one_eq_mod, Int.natCast_emod]
  | negSucc value =>
    -- The bits that the mask leaves are the ones that the magnitude below minus one has not.
    have below := Nat.mod_lt value (Nat.two_pow_pos bits)
    have rest : Nat.ldiff (2 ^ bits - 1) value = 2 ^ bits - (value % 2 ^ bits + 1) := by
      apply Nat.eq_of_testBit_eq
      intro place
      rw [Nat.testBit_ldiff, Nat.testBit_two_pow_sub_one, Nat.testBit_two_pow_sub_succ below, Nat.testBit_mod_two_pow]
      cases decide (place < bits) <;> simp
    change ((Nat.ldiff (2 ^ bits - 1) value : Nat) : Int) = _
    rw [rest, Int.negSucc_emod _ (by exact_mod_cast Nat.two_pow_pos bits)]
    omega

/-! ## The two readings -/

theorem toNat_ofInt (value : Int) : (BitVec.ofInt bits value).toNat = (unsigned bits value).toNat := by
  rw [BitVec.toNat_ofInt, unsigned, weight, Nat.one_shiftLeft]

/-- Read without a sign, the low bits are the unsigned view. -/
theorem natCast_toNat_ofInt (value : Int) : ((BitVec.ofInt bits value).toNat : Int) = unsigned bits value := by
  rw [toNat_ofInt, Int.toNat_of_nonneg (unsigned_nonneg bits value)]

theorem ofInt_eq_iff (x y : Int) : BitVec.ofInt bits x = BitVec.ofInt bits y ↔ unsigned bits x = unsigned bits y := by
  rw [← BitVec.toNat_inj, ← Int.natCast_inj, natCast_toNat_ofInt, natCast_toNat_ofInt]

theorem ofInt_unsigned (value : Int) : BitVec.ofInt bits (unsigned bits value) = BitVec.ofInt bits value := by
  rw [ofInt_eq_iff, unsigned, Int.emod_eq_of_lt (unsigned_nonneg bits value) (unsigned_lt bits value)]

theorem ofInt_wrap (value : Int) : BitVec.ofInt bits (wrap bits value) = BitVec.ofInt bits value := by
  rw [ofInt_eq_iff, unsigned_wrap]

/-- The unsigned view has zeros above the pattern, so zeros come down. -/
theorem ofInt_unsigned_shiftRight (value : Int) (places : Nat) :
    BitVec.ofInt bits (unsigned bits value >>> places) = BitVec.ofInt bits value >>> places := by
  apply BitVec.eq_of_toNat_eq
  rw [← natCast_toNat_ofInt, ← Int.natCast_shiftRight, BitVec.ofInt_natCast, BitVec.toNat_ofNat, BitVec.toNat_ushiftRight]
  exact Nat.mod_eq_of_lt ((Nat.shiftRight_le _ _).trans_lt (BitVec.isLt _))

/-- Read with its sign, the pattern of an integer is what the integer wraps to. -/
theorem toInt_ofInt_eq_wrap (positive : 0 < bits) (value : Int) :
    (BitVec.ofInt bits value).toInt = wrap bits value := by
  obtain ⟨low, high⟩ := fits_wrap positive value
  rw [signWeight_eq_pow] at low high
  rw [← ofInt_wrap, BitVec.toInt_ofInt_eq_self positive low high]

/-- Read with its sign, a pattern keeps its bits. -/
theorem testBit_toInt (x : BitVec bits) {place : Nat} (inside : place < bits) :
    x.toInt.testBit place = x.getLsbD place := by
  rw [← getLsbD_ofInt _ inside, BitVec.ofInt_toInt]

/-- A word is told by its bits. -/
theorem toInt_eq_wrap (positive : 0 < bits) {x : BitVec bits} {value : Int}
    (same : ∀ place < bits, x.toInt.testBit place = value.testBit place) : x.toInt = wrap bits value := by
  have whole : x = BitVec.ofInt bits value := by
    apply BitVec.eq_of_getLsbD_eq
    intro place inside
    rw [← testBit_toInt x inside, same place inside, getLsbD_ofInt value inside]
  rw [whole, toInt_ofInt_eq_wrap positive]

/-! ## Words -/

theorem fits_ofNat_iff (value : Nat) : Fits bits value ↔ value < 2 ^ (bits - 1) := by
  rw [Fits, signWeight, weight, Nat.one_shiftLeft]
  omega

theorem fits_negSucc_iff (value : Nat) : Fits bits (Int.negSucc value) ↔ value < 2 ^ (bits - 1) := by
  rw [Fits, signWeight, weight, Nat.one_shiftLeft]
  omega

theorem fits_natBitwise (f : Bool → Bool → Bool) {x y : Nat} (left : x < 2 ^ (bits - 1)) (right : y < 2 ^ (bits - 1)) :
    Fits bits (Int.natBitwise f x y) := by
  unfold Int.natBitwise
  cases f false false with
  | false => exact (fits_ofNat_iff _).mpr (Nat.bitwise_lt_two_pow left right)
  | true => exact (fits_negSucc_iff _).mpr (Nat.bitwise_lt_two_pow left right)

/-- What is put together bit by bit from two words is a word: from the sign bit on, each has the same bit everywhere. -/
theorem fits_bitwise (f : Bool → Bool → Bool) {x y : Int} (left : Fits bits x) (right : Fits bits y) :
    Fits bits (Int.bitwise f x y) := by
  cases x with
  | ofNat x =>
    have below := (fits_ofNat_iff x).mp left
    cases y with
    | ofNat y => exact fits_natBitwise f below ((fits_ofNat_iff y).mp right)
    | negSucc y => exact fits_natBitwise (fun a b => f a !b) below ((fits_negSucc_iff y).mp right)
  | negSucc x =>
    have below := (fits_negSucc_iff x).mp left
    cases y with
    | ofNat y => exact fits_natBitwise (fun a b => f (!a) b) below ((fits_ofNat_iff y).mp right)
    | negSucc y => exact fits_natBitwise (fun a b => f (!a) !b) below ((fits_negSucc_iff y).mp right)

theorem fits_land {x y : Int} (left : Fits bits x) (right : Fits bits y) : Fits bits (x.land y) := by
  rw [← Int.bitwise_and]
  exact fits_bitwise and left right

theorem fits_lor {x y : Int} (left : Fits bits x) (right : Fits bits y) : Fits bits (x.lor y) := by
  rw [← Int.bitwise_or]
  exact fits_bitwise or left right

end

/-! ## Patterns of 32 bits -/

@[simp] theorem pattern_toInt (x : Pattern) : pattern x.toInt = x := BitVec.ofInt_toInt

@[simp] theorem pattern_natCast (value : Nat) : pattern value = BitVec.ofNat 32 value := BitVec.ofInt_natCast 32 value

@[simp] theorem pattern_wrap (value : Int) : pattern (wrap 32 value) = pattern value := ofInt_wrap value

@[simp] theorem pattern_unsigned (value : Int) : pattern (unsigned 32 value) = pattern value := ofInt_unsigned value

@[simp] theorem pattern_neg (value : Int) : pattern (-value) = -pattern value := BitVec.ofInt_neg

@[simp] theorem pattern_land (x y : Int) : pattern (x.land y) = pattern x &&& pattern y := ofInt_land x y

@[simp] theorem pattern_lor (x y : Int) : pattern (x.lor y) = pattern x ||| pattern y := ofInt_lor x y

@[simp] theorem pattern_shiftLeft (value : Int) (places : Nat) :
    pattern (value <<< places) = pattern value <<< places := ofInt_shiftLeft value places

@[simp] theorem pattern_unsigned_shiftRight (value : Int) (places : Nat) :
    pattern (unsigned 32 value >>> places) = pattern value >>> places := ofInt_unsigned_shiftRight value places

theorem toInt_pattern_of_fits {value : Int} (fits : Fits 32 value) : (pattern value).toInt = value := by
  rw [toInt_pattern, wrap_of_fits (by decide) fits]

/-- A pattern read with its sign is a word. -/
theorem fits_toInt (x : Pattern) : Fits 32 x.toInt := by
  have wrapped := toInt_pattern x.toInt
  rw [pattern_toInt] at wrapped
  rw [wrapped]
  exact fits_wrap (by decide) _

end MachineInt
