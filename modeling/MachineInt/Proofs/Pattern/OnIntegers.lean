import MachineInt.Arithmetic
import MachineInt.Division
import MachineInt.Pattern.Comparison
import MachineInt.Pattern.Reversal
import MachineInt.Proofs.Pattern.Integers

/-!
# Operations on integers without a bound

The operations on words once more, as they are carried out where integers have no bound: `and` and `or` act on the
infinitely many bits of their operands, what is moved up stays, and nothing is lost at the top unless it is cut off. To
cut an integer to a word, the weight of the sign bit is added, the low bits are masked out, and the weight is taken off
again. Every operation does this at places of its own, some before they begin, some with their last step, some by a mask
on the way and some not at all. The results are those of the operations on patterns.
-/

namespace MachineInt

namespace OnIntegers

/-! ## Cutting off and moving -/

def wrap (bits : Nat) (value : Int) : Int :=
  (value + signWeight bits).land (unsignedMax bits) - signWeight bits

/-- The low 32 bits. -/
def low (value : Int) : Int := value.land (unsignedMax 32)

/-- The bits moved up, with zeros below them. -/
def up (value : Int) (places : Nat) : Int := value <<< places

/-- The bits moved down; those that would fall below the first are gone. -/
def down (value : Int) (places : Nat) : Int := value >>> places

/-- The low five bits of a distance. -/
def places (amount : Int) : Nat := (amount.land 31).toNat

def shiftLeft (value amount : Int) : Int := wrap 32 (up value (places amount))

def shiftRight (value amount : Int) : Int := wrap 32 (down (low value) (places amount))

def shiftRightSigned (value amount : Int) : Int := down (wrap 32 value) (places amount)

def turnLeft (value amount : Int) : Int := wrap 32 ((shiftLeft value amount).lor (shiftRight value (-amount)))

def turnRight (value amount : Int) : Int := wrap 32 ((shiftRight value amount).lor (shiftLeft value (-amount)))

/-! ## Counting -/

/-- How many zeros a search has still to grant, and what it has still to look at. -/
structure Search where
  zeros : Int
  rest : Int

def Search.fromTop (search : Search) (size : Nat) : Search :=
  if up 1 size ≤ search.rest then ⟨search.zeros - size, down search.rest size⟩ else search

def leadingZeros (value : Int) : Int :=
  let word := wrap 32 value
  if word ≤ 0 then if word = 0 then 32 else 0
  else
    let search := [16, 8, 4, 2].foldl Search.fromTop ⟨31, word⟩
    search.zeros - down search.rest 1

def Search.fromBottom (search : Search) (size : Nat) : Search :=
  let moved := shiftLeft search.rest size
  if moved ≠ 0 then ⟨search.zeros - size, moved⟩ else search

def trailingZeros (value : Int) : Int :=
  let word := wrap 32 value
  if word = 0 then 32
  else
    let search := [16, 8, 4, 2].foldl Search.fromBottom ⟨31, word⟩
    search.zeros - shiftRight (shiftLeft search.rest 1) 31

def ones (value : Int) : Int :=
  let word := low value
  let pairs := word - (down word 1).land pairMask
  let nibbles := pairs.land nibbleMask + (down pairs 2).land nibbleMask
  let bytes := (nibbles + down nibbles 4).land byteMask
  let halves := bytes + down bytes 8
  let total := halves + down halves 16
  total.land countMask

def highestOne (value : Int) : Int :=
  let word := wrap 32 value
  word.land (shiftRight (minValue 32) (leadingZeros word))

def lowestOne (value : Int) : Int :=
  let word := wrap 32 value
  wrap 32 (word.land (-word))

/-! ## Reversing -/

def trade (value : Int) (size mask : Nat) : Int := (up (value.land mask) size).lor ((down value size).land mask)

def reverseBytes (value : Int) : Int :=
  let word := low value
  let upper := (up word 24).lor (up (word.land 0xFF00) 8)
  wrap 32 ((upper.lor ((down word 8).land 0xFF00)).lor (down word 24))

def reverseBits (value : Int) : Int :=
  reverseBytes (trade (trade (trade (low value) 1 pairMask) 2 nibbleMask) 4 byteMask)

/-- The sign of the word is copied to all places above it, and cut off again with the last step. -/
def swapBytes (value : Int) : Int :=
  let word := wrap 16 value
  wrap 16 ((down (word.land 0xFF00) 8).lor (up word 8))

/-! ## Comparing and calculating -/

def sign (value : Int) : Int :=
  let word := wrap 32 value
  (shiftRightSigned word 31).lor (shiftRight (-word) 31)

def signedOrder (x y : Int) : Int :=
  let x := wrap 32 x
  let y := wrap 32 y
  if x < y then -1 else if x = y then 0 else 1

def unsignedOrder (x y : Int) : Int :=
  signedOrder (wrap 32 (x + minValue 32)) (wrap 32 (y + minValue 32))

def wordSum (a b : Int) : Int := wrap 32 (a + b)

def wordMax (a b : Int) : Int := max (wrap 32 a) (wrap 32 b)

def wordMin (a b : Int) : Int := min (wrap 32 a) (wrap 32 b)

def unsignedQuotient (dividend divisor : Int) : Except ArithmeticError Int :=
  if low divisor = 0 then .error .divisionByZero else .ok (wrap 32 (low dividend / low divisor))

def unsignedRemainder (dividend divisor : Int) : Except ArithmeticError Int :=
  if low divisor = 0 then .error .moduloByZero else .ok (wrap 32 (low dividend % low divisor))

/-! ## The same results -/

theorem wrap_eq (bits : Nat) (value : Int) : wrap bits value = MachineInt.wrap bits value := by
  rw [wrap, land_unsignedMax]
  rfl

theorem low_eq (value : Int) : low value = unsigned 32 value := land_unsignedMax value

theorem places_eq (amount : Int) : places amount = distance amount := by
  have mask : (31 : Int) = unsignedMax 5 := by decide
  have whole : weight 5 = 32 := by decide
  rw [places, mask, land_unsignedMax, unsigned, whole]
  rfl

theorem pattern_up (value : Int) (places : Nat) : pattern (up value places) = pattern value <<< places :=
  pattern_shiftLeft value places

theorem pattern_down_low (value : Int) (places : Nat) :
    pattern (down (low value) places) = pattern value >>> places := by
  rw [low_eq]
  exact pattern_unsigned_shiftRight value places

theorem pattern_low (value : Int) : pattern (low value) = pattern value := by
  rw [low_eq, pattern_unsigned]

/-- What is cut to a word last is the word of its low bits. -/
theorem wrap_of_pattern {value : Int} {x : Pattern} (bits : pattern value = x) : wrap 32 value = x.toInt := by
  rw [wrap_eq, ← toInt_pattern, bits]

/-- What is a word already is the word of its low bits. -/
theorem eq_of_pattern {value : Int} {x : Pattern} (fits : Fits 32 value) (bits : pattern value = x) :
    value = x.toInt := by
  rw [← bits, toInt_pattern_of_fits fits]

theorem shiftLeft_eq (value amount : Int) : shiftLeft value amount = MachineInt.shiftLeft value amount := by
  apply wrap_of_pattern
  rw [pattern_up, places_eq]
  rfl

theorem shiftRight_eq (value amount : Int) : shiftRight value amount = MachineInt.shiftRight value amount := by
  apply wrap_of_pattern
  rw [pattern_down_low, places_eq]
  rfl

theorem shiftRightSigned_eq (value amount : Int) :
    shiftRightSigned value amount = MachineInt.shiftRightSigned value amount := by
  rw [shiftRightSigned, wrap_eq, places_eq, ← toInt_pattern]
  exact BitVec.toInt_sshiftRight.symm

/-- The two halves of a turn are put together bit by bit. -/
theorem turnLeft_eq (value amount : Int) : turnLeft value amount = MachineInt.turnLeft value amount := by
  apply wrap_of_pattern
  rw [pattern_lor, shiftLeft_eq, shiftRight_eq, MachineInt.shiftLeft, MachineInt.shiftRight, pattern_toInt,
    pattern_toInt]
  rfl

theorem turnRight_eq (value amount : Int) : turnRight value amount = MachineInt.turnRight value amount := by
  apply wrap_of_pattern
  rw [pattern_lor, shiftLeft_eq, shiftRight_eq, MachineInt.shiftLeft, MachineInt.shiftRight, pattern_toInt,
    pattern_toInt]
  rfl

/-- Where the groups that `mask` selects have room above them, nothing comes down that the mask does not drop. -/
theorem pattern_trade (value : Int) {size mask : Nat} (room : mask < 2 ^ (32 - size)) :
    pattern (trade value size mask) = (pattern value).trade size mask := by
  have upper : pattern ((down value size).land mask) = (pattern value >>> size) &&& BitVec.ofNat 32 mask :=
    ofInt_shiftRight_land value room
  rw [trade, pattern_lor, pattern_up, pattern_land, pattern_natCast, upper, Pattern.trade]

theorem reverseBytes_eq (value : Int) : reverseBytes value = MachineInt.reverseBytes value := by
  have mask : pattern 0xFF00 = 0xFF00#32 := by decide
  apply wrap_of_pattern
  simp only [pattern_lor, pattern_up, pattern_land, pattern_low, pattern_down_low, mask, Pattern.reverseBytes]

theorem reverseBits_eq (value : Int) : reverseBits value = MachineInt.reverseBits value := by
  rw [reverseBits, reverseBytes_eq, MachineInt.reverseBytes, pattern_trade _ (by decide), pattern_trade _ (by decide),
    pattern_trade _ (by decide), pattern_low]
  rfl

theorem swapBytes_eq (value : Int) : swapBytes value = MachineInt.swapBytes value := by
  have lower : BitVec.ofInt 16 (down ((wrap 16 value).land 0xFF00) 8) =
      (BitVec.ofInt 16 value &&& 0xFF00#16) >>> 8 := by
    rw [wrap_eq, ← ofInt_wrap value]
    exact ofInt_land_shiftRight _ (by decide)
  have upper : BitVec.ofInt 16 (up (wrap 16 value) 8) = BitVec.ofInt 16 value <<< 8 := by
    rw [wrap_eq, up, ofInt_shiftLeft, ofInt_wrap]
  rw [swapBytes, wrap_eq, ← toInt_ofInt_eq_wrap (by decide), ofInt_lor, lower, upper, MachineInt.swapBytes]

/-- Neither half is cut in the end, because both are words. -/
theorem sign_eq (value : Int) : sign value = MachineInt.sign value := by
  rw [sign, shiftRightSigned_eq, shiftRight_eq, wrap_eq]
  apply eq_of_pattern
  · exact fits_lor (fits_toInt _) (fits_toInt _)
  · rw [pattern_lor, MachineInt.shiftRightSigned, MachineInt.shiftRight]
    simp

theorem lowestOne_eq (value : Int) : lowestOne value = MachineInt.lowestOne value := by
  apply wrap_of_pattern
  rw [wrap_eq, pattern_land, pattern_neg, pattern_wrap]
  rfl

theorem signedOrder_eq (x y : Int) : signedOrder x y = orderSign (MachineInt.signedOrder x y) := by
  rw [signedOrder, wrap_eq, wrap_eq, MachineInt.signedOrder]
  rcases lt_trichotomy (MachineInt.wrap 32 x) (MachineInt.wrap 32 y) with below | equal | above
  · rw [if_pos below, compare_lt_iff_lt.mpr below]
    rfl
  · rw [if_neg equal.not_lt, if_pos equal, compare_eq_iff_eq.mpr equal]
    rfl
  · rw [if_neg above.not_gt, if_neg above.ne', compare_gt_iff_gt.mpr above]
    rfl

theorem unsignedOrder_eq (x y : Int) : unsignedOrder x y = orderSign (MachineInt.unsignedOrder x y) := by
  rw [unsignedOrder, signedOrder_eq, wrap_eq, wrap_eq, MachineInt.unsignedOrder]

theorem wordSum_eq (a b : Int) : wordSum a b = MachineInt.wordSum a b := wrap_eq 32 (a + b)

theorem wordMax_eq (a b : Int) : wordMax a b = MachineInt.wordMax a b := by
  rw [wordMax, wrap_eq, wrap_eq, MachineInt.wordMax]

theorem wordMin_eq (a b : Int) : wordMin a b = MachineInt.wordMin a b := by
  rw [wordMin, wrap_eq, wrap_eq, MachineInt.wordMin]

theorem unsignedQuotient_eq (dividend divisor : Int) :
    unsignedQuotient dividend divisor = MachineInt.unsignedQuotient dividend divisor := by
  rw [unsignedQuotient, low_eq, low_eq, wrap_eq, MachineInt.unsignedQuotient]

theorem unsignedRemainder_eq (dividend divisor : Int) :
    unsignedRemainder dividend divisor = MachineInt.unsignedRemainder dividend divisor := by
  rw [unsignedRemainder, low_eq, low_eq, wrap_eq, MachineInt.unsignedRemainder]

end OnIntegers

end MachineInt
