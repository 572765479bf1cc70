import MachineInt.Proofs.Pattern.OnIntegers

/-!
# Turns of a word

The 32 places of a pattern lie on a circle, and every integer names one of them. A turn is put together from two moves
whose distances are reduced by themselves. At every place of the circle at least one of the two halves has a bit to bring,
and if both have, it is the same one: so the turn reads the circle a distance back, and turns add up as their distances do.
-/

namespace MachineInt

namespace Pattern

/-! ## The circle of places -/

/-- The bit at a place of the circle; places that differ by whole turns are one place. -/
def circle (x : Pattern) (place : Int) : Bool := x.getLsbD (distance place)

theorem circle_natCast (x : Pattern) {place : Nat} (inside : place < 32) : x.circle place = x.getLsbD place := by
  rw [circle, distance_natCast inside]

/-- Places of the pattern are places of the circle. -/
theorem eq_of_circle {x y : Pattern} (same : ∀ place, x.circle place = y.circle place) : x = y := by
  apply BitVec.eq_of_getLsbD_eq
  intro place inside
  rw [← circle_natCast x inside, ← circle_natCast y inside, same]

theorem circle_add_whole (x : Pattern) (place turns : Int) : x.circle (place + 32 * turns) = x.circle place := by
  have same : distance (place + 32 * turns) = distance place := by
    unfold distance
    omega
  rw [circle, circle, same]

/-! ## Moves -/

/-- A move up brings the bits from further back, except to the places that it leaves empty. -/
theorem circle_shiftLeft (x : Pattern) (amount place : Int) :
    (x.shiftLeft amount).circle place = (decide (distance amount ≤ distance place) && x.circle (place - amount)) := by
  have inside := distance_lt place
  rw [shiftLeft, circle, BitVec.getLsbD_shiftLeft, decide_eq_true inside, Bool.true_and, ← decide_not, circle]
  by_cases filled : distance amount ≤ distance place
  · have source : distance place - distance amount = distance (place - amount) := by
      unfold distance at filled ⊢
      omega
    rw [source]
    simp [filled]
  · simp [filled]

/-- A move down brings the bits from further on, except to the places that it leaves empty. -/
theorem circle_shiftRight (x : Pattern) (amount place : Int) :
    (x.shiftRight amount).circle place =
      (decide (distance place + distance amount < 32) && x.circle (place + amount)) := by
  rw [shiftRight, circle, BitVec.getLsbD_ushiftRight, circle]
  by_cases filled : distance place + distance amount < 32
  · have source : distance amount + distance place = distance (place + amount) := by
      unfold distance at filled ⊢
      omega
    rw [source, decide_eq_true filled, Bool.true_and]
  · rw [BitVec.getLsbD_of_ge _ _ (by omega), decide_eq_false filled, Bool.false_and]

/-! ## Turns -/

/-- Every place is filled by one half of the turn or by both. -/
theorem filled_or_filled (amount place : Int) :
    distance amount ≤ distance place ∨ distance place + distance (-amount) < 32 := by
  unfold distance
  omega

theorem circle_turnLeft (x : Pattern) (amount place : Int) :
    (x.turnLeft amount).circle place = x.circle (place - amount) := by
  have halves : (x.turnLeft amount).circle place =
      ((x.shiftLeft amount).circle place || (x.shiftRight (-amount)).circle place) := BitVec.getLsbD_or ..
  rw [halves, circle_shiftLeft, circle_shiftRight, ← sub_eq_add_neg]
  -- Both halves bring the bit from the same place, so it does not matter if the other one brings it too.
  rcases filled_or_filled amount place with up | down
  · simp [up]
  · simp [down]

/-- A turn to the right is a turn to the left by the opposite distance. -/
theorem turnRight_eq_turnLeft (x : Pattern) (amount : Int) : x.turnRight amount = x.turnLeft (-amount) := by
  rw [turnRight, turnLeft, neg_neg, BitVec.or_comm]

theorem circle_turnRight (x : Pattern) (amount place : Int) :
    (x.turnRight amount).circle place = x.circle (place + amount) := by
  rw [turnRight_eq_turnLeft, circle_turnLeft, sub_neg_eq_add]

theorem turnLeft_turnLeft (x : Pattern) (a b : Int) : (x.turnLeft a).turnLeft b = x.turnLeft (a + b) := by
  apply eq_of_circle
  intro place
  rw [circle_turnLeft, circle_turnLeft, circle_turnLeft, sub_sub, add_comm b a]

/-- Whole turns change nothing. -/
theorem turnLeft_whole (x : Pattern) (turns : Int) : x.turnLeft (32 * turns) = x := by
  apply eq_of_circle
  intro place
  rw [circle_turnLeft, sub_eq_add_neg, ← mul_neg, circle_add_whole]

theorem turnRight_turnLeft (x : Pattern) (amount : Int) : (x.turnLeft amount).turnRight amount = x := by
  rw [turnRight_eq_turnLeft, turnLeft_turnLeft, add_neg_cancel]
  exact x.turnLeft_whole 0

end Pattern

/-! ## Words -/

/-- A bit of the word is found where the turn has taken it. -/
theorem testBit_turnLeft (value amount : Int) {place : Nat} (inside : place < 32) :
    (turnLeft value amount).testBit ((place + amount) % 32).toNat = value.testBit place := by
  have moved : (turnLeft value amount).testBit (distance (place + amount)) =
      ((pattern value).turnLeft amount).circle (place + amount) := testBit_toInt _ (distance_lt _)
  refine moved.trans ?_
  rw [Pattern.circle_turnLeft, add_sub_cancel_right, Pattern.circle_natCast _ inside, pattern, getLsbD_ofInt _ inside]

theorem turnLeft_turnLeft (value a b : Int) : turnLeft (turnLeft value a) b = turnLeft value (a + b) := by
  rw [turnLeft, turnLeft, pattern_toInt, Pattern.turnLeft_turnLeft, turnLeft]

theorem turnLeft_whole (value turns : Int) : turnLeft value (32 * turns) = wrap 32 value := by
  rw [turnLeft, Pattern.turnLeft_whole, toInt_pattern]

theorem turnLeft_eq_turnRight (value amount : Int) : turnLeft value amount = turnRight value (-amount) := by
  rw [turnLeft, turnRight, Pattern.turnRight_eq_turnLeft, neg_neg]

theorem turnRight_turnLeft (value amount : Int) : turnRight (turnLeft value amount) amount = wrap 32 value := by
  rw [turnRight, turnLeft, pattern_toInt, Pattern.turnRight_turnLeft, toInt_pattern]

/-- The integers modulo 32 turn a word, of whatever size and sign the distances are: every bit goes as many places on,
turns add up, whole turns leave the word, and the other direction is the opposite. -/
theorem turns_act (value a b : Int) :
    (∀ place : Fin 32, (turnLeft value a).testBit ((place.val + a) % 32).toNat = value.testBit place.val) ∧
    turnLeft (turnLeft value a) b = turnLeft value (a + b) ∧
    turnLeft value (32 * b) = wrap 32 value ∧
    turnLeft value a = turnRight value (-a) ∧
    turnRight (turnLeft value a) a = wrap 32 value ∧
    OnIntegers.turnLeft value a = turnLeft value a ∧
    OnIntegers.turnRight value a = turnRight value a :=
  ⟨fun place => testBit_turnLeft value a place.isLt, turnLeft_turnLeft value a b, turnLeft_whole value b,
    turnLeft_eq_turnRight value a, turnRight_turnLeft value a, OnIntegers.turnLeft_eq value a,
    OnIntegers.turnRight_eq value a⟩

end MachineInt
