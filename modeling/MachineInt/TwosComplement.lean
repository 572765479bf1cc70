/-!
# Two's complement

A signed word of `bits` bits holds the integers from `-2 ^ (bits - 1)` up to, but not including,
`2 ^ (bits - 1)`. Wrapping moves an integer into that range without changing it modulo `2 ^ bits`; the
unsigned view is the representative of the same class that is not negative. Both are defined on integers of
any size, so a word is never anything but an integer in range.

Widths that arrive as integers are checked first: a signed word needs a sign bit, an unsigned view only a
width that is not negative.
-/

namespace MachineInt

/-- Why an operation on words has no answer. -/
inductive ArithmeticError
  | negativeShift
  | divisionByZero
  | moduloByZero
  deriving DecidableEq, Repr

def ArithmeticError.message : ArithmeticError → String
  | .negativeShift => "negative shift count"
  | .divisionByZero => "integer division or modulo by zero"
  | .moduloByZero => "integer modulo by zero"

/-- The weight of the bit at a place, counted from zero. -/
def weight (place : Nat) : Int := ((1 <<< place : Nat) : Int)

/-- The weight of the sign bit. -/
def signWeight (bits : Nat) : Int := weight (bits - 1)

/-- The least signed word of `bits` bits. -/
def minValue (bits : Nat) : Int := -signWeight bits

/-- The greatest signed word of `bits` bits. -/
def maxValue (bits : Nat) : Int := signWeight bits - 1

/-- The greatest unsigned word of `bits` bits, a mask of that many ones. -/
def unsignedMax (bits : Nat) : Int := weight bits - 1

/-- The signed word of `bits` bits that is congruent to `value` modulo `2 ^ bits`. -/
def wrap (bits : Nat) (value : Int) : Int :=
  (value + signWeight bits) % weight bits - signWeight bits

/-- The value of the low `bits` bits read without a sign. -/
def unsigned (bits : Nat) (value : Int) : Int := value % weight bits

/-- That `value` is a signed word of `bits` bits. -/
def Fits (bits : Nat) (value : Int) : Prop := -signWeight bits ≤ value ∧ value < signWeight bits

instance (bits : Nat) (value : Int) : Decidable (Fits bits value) :=
  inferInstanceAs (Decidable (_ ∧ _))

/-! ## Widths given as integers -/

/-- A width that leaves room for a sign bit. -/
def signedWidth (bits : Int) : Except ArithmeticError Nat :=
  if bits ≤ 0 then .error .negativeShift else .ok bits.toNat

/-- A width that is not negative; no bits at all are allowed. -/
def unsignedWidth (bits : Int) : Except ArithmeticError Nat :=
  if bits < 0 then .error .negativeShift else .ok bits.toNat

def wrapAt (value bits : Int) : Except ArithmeticError Int :=
  (signedWidth bits).map (wrap · value)

def fitsAt (value bits : Int) : Except ArithmeticError Bool :=
  (signedWidth bits).map fun width => decide (Fits width value)

def unsignedAt (value bits : Int) : Except ArithmeticError Int :=
  (unsignedWidth bits).map (unsigned · value)

/-! ## Bounds -/

theorem weight_pos (place : Nat) : 0 < weight place := by
  rw [weight, Nat.one_shiftLeft]
  exact Int.natCast_pos.mpr (Nat.two_pow_pos place)

theorem weight_succ (place : Nat) : weight (place + 1) = 2 * weight place := by
  rw [weight, weight, Nat.one_shiftLeft, Nat.one_shiftLeft, Nat.pow_succ]
  omega

theorem signWeight_pos (bits : Nat) : 0 < signWeight bits := weight_pos (bits - 1)

/-- A width that has a sign bit counts twice its weight. -/
theorem weight_eq {bits : Nat} (positive : 0 < bits) : weight bits = 2 * signWeight bits := by
  obtain ⟨lower, rfl⟩ := Nat.exists_eq_succ_of_ne_zero (Nat.pos_iff_ne_zero.mp positive)
  exact weight_succ lower

/-- Every wrapped integer is a word. -/
theorem fits_wrap {bits : Nat} (positive : 0 < bits) (value : Int) : Fits bits (wrap bits value) := by
  have modulus := weight_eq positive
  have pos := signWeight_pos bits
  have low := Int.emod_nonneg (value + signWeight bits) (b := weight bits) (by omega)
  have high := Int.emod_lt_of_pos (value + signWeight bits) (b := weight bits) (by omega)
  unfold Fits wrap
  omega

/-- Wrapping leaves words as they are. -/
theorem wrap_of_fits {bits : Nat} (positive : 0 < bits) {value : Int} (fits : Fits bits value) :
    wrap bits value = value := by
  have modulus := weight_eq positive
  unfold Fits at fits
  unfold wrap
  rw [Int.emod_eq_of_lt (by omega) (by omega)]
  omega

end MachineInt
