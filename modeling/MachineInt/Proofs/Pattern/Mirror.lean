import MachineInt.Proofs.Pattern.Ones
import MachineInt.Proofs.Pattern.Reversal
import MachineInt.Proofs.Pattern.Turning

/-!
# The mirror image of a word

Reversing the bits turns the circle of places over. What is found from the one end of a word is found from the other end
of its mirror image, and what goes round to the left goes round to the right. The number of ones is not changed by
anything that only moves bits from place to place.
-/

namespace MachineInt

namespace Pattern

/-! ## The ends -/

theorem mem_onePlaces_reverseBits {x : Pattern} {place : Nat} :
    place ∈ x.reverseBits.onePlaces ↔ place < 32 ∧ 31 - place ∈ x.onePlaces := by
  rw [mem_onePlaces, mem_onePlaces]
  constructor
  · intro one
    have inside := BitVec.lt_of_getLsbD one
    rw [getLsbD_reverseBits x inside] at one
    exact ⟨inside, one⟩
  · rintro ⟨inside, one⟩
    rw [getLsbD_reverseBits x inside, one]

theorem isGreatest_reverseBits {x : Pattern} {lowest : Nat} (least : IsLeast (x.onePlaces : Set Nat) lowest) :
    IsGreatest (x.reverseBits.onePlaces : Set Nat) (31 - lowest) := by
  have inside := lt_of_mem_onePlaces least.1
  have back : 31 - (31 - lowest) = lowest := by omega
  constructor
  · rw [Finset.mem_coe, mem_onePlaces_reverseBits, back]
    exact ⟨by omega, least.1⟩
  · intro place one
    obtain ⟨bound, mirrored⟩ := mem_onePlaces_reverseBits.mp one
    have := least.2 mirrored
    omega

theorem reverseBits_zero : (0 : Pattern).reverseBits = 0 := by decide

theorem reverseBits_twoPow {place : Nat} (inside : place < 32) :
    reverseBits (BitVec.twoPow 32 place) = BitVec.twoPow 32 (31 - place) := by
  apply BitVec.eq_of_getLsbD_eq
  intro other bound
  have met : place = 31 - other ↔ 31 - place = other := by omega
  have mirrored : 31 - place < 32 := by omega
  rw [getLsbD_reverseBits _ bound, BitVec.getLsbD_twoPow, BitVec.getLsbD_twoPow]
  simp [inside, mirrored, met]

theorem leadingZeros_reverseBits (x : Pattern) : x.reverseBits.leadingZeros = x.trailingZeros := by
  by_cases zero : x = 0
  · rw [zero, reverseBits_zero, leadingZeros_zero, trailingZeros_zero]
  · obtain ⟨lowest, least⟩ := exists_isLeast zero
    have inside := lt_of_mem_onePlaces least.1
    have zeros := leadingZeros_eq (isGreatest_reverseBits least)
    rw [trailingZeros_eq least]
    omega

theorem highestOne_reverseBits (x : Pattern) : x.reverseBits.highestOne = x.lowestOne.reverseBits := by
  by_cases zero : x = 0
  · rw [zero]
    decide
  · obtain ⟨lowest, least⟩ := exists_isLeast zero
    rw [highestOne_eq (isGreatest_reverseBits least), lowestOne_eq least,
      reverseBits_twoPow (lt_of_mem_onePlaces least.1)]

/-! ## Turns -/

theorem circle_reverseBits (x : Pattern) (place : Int) : x.reverseBits.circle place = x.circle (31 - place) := by
  have across : 31 - distance place = distance (31 - place) := by
    unfold distance
    omega
  rw [circle, getLsbD_reverseBits x (distance_lt place), across, circle]

theorem reverseBits_turnLeft (x : Pattern) (amount : Int) :
    (x.turnLeft amount).reverseBits = x.reverseBits.turnRight amount := by
  apply eq_of_circle
  intro place
  rw [circle_reverseBits, circle_turnLeft, circle_turnRight, circle_reverseBits, sub_sub]

/-! ## The number of ones -/

/-- Bits that are moved to places of their own keep their number. -/
theorem ones_of_moved {x y : Pattern} (source target : Nat → Nat)
    (moved : ∀ place < 32, y.getLsbD place = x.getLsbD (source place)) (inside : ∀ place < 32, target place < 32)
    (left : ∀ place < 32, target (source place) = place) (right : ∀ place < 32, source (target place) = place) :
    y.ones = x.ones := by
  rw [ones_eq, ones_eq]
  -- The ones of `y` go to those of `x` by their sources, and come back by the targets.
  apply Finset.card_nbij' source target
  · intro place one
    rw [Finset.mem_coe, mem_onePlaces] at one ⊢
    rw [← moved place (BitVec.lt_of_getLsbD one), one]
  · intro place one
    rw [Finset.mem_coe, mem_onePlaces] at one ⊢
    have bound := BitVec.lt_of_getLsbD one
    rw [moved _ (inside place bound), right place bound, one]
  · intro place one
    exact left place (lt_of_mem_onePlaces one)
  · intro place one
    exact right place (lt_of_mem_onePlaces one)

theorem ones_reverseBits (x : Pattern) : x.reverseBits.ones = x.ones :=
  ones_of_moved (31 - ·) (31 - ·) (fun _ => getLsbD_reverseBits x) (by omega) (by omega) (by omega)

theorem ones_reverseBytes (x : Pattern) : x.reverseBytes.ones = x.ones :=
  ones_of_moved facing facing (fun _ => getLsbD_reverseBytes x) (fun _ => facing_lt) (fun _ => facing_facing)
    (fun _ => facing_facing)

theorem ones_turnLeft (x : Pattern) (amount : Int) : (x.turnLeft amount).ones = x.ones := by
  apply ones_of_moved (fun place => distance (place - amount)) (fun place => distance (place + amount))
  · intro place inside
    rw [← circle_natCast _ inside, circle_turnLeft, circle]
  · intro place _
    exact distance_lt _
  all_goals
    intro place inside
    unfold distance
    omega

theorem ones_turnRight (x : Pattern) (amount : Int) : (x.turnRight amount).ones = x.ones := by
  rw [turnRight_eq_turnLeft, ones_turnLeft]

end Pattern

/-- Reversing the bits of a word exchanges its ends and the two directions of a turn; and neither a reversal nor a turn
changes the number of ones. -/
theorem reversal_mirrors (value amount : Int) :
    leadingZeros (reverseBits value) = trailingZeros value ∧
    highestOne (reverseBits value) = reverseBits (lowestOne value) ∧
    reverseBits (turnLeft value amount) = turnRight (reverseBits value) amount ∧
    ones (reverseBits value) = ones value ∧
    ones (reverseBytes value) = ones value ∧
    ones (turnLeft value amount) = ones value ∧
    ones (turnRight value amount) = ones value := by
  simp only [leadingZeros, trailingZeros, highestOne, lowestOne, reverseBits, reverseBytes, turnLeft, turnRight, ones,
    pattern_toInt, BitVec.toInt_inj]
  generalize pattern value = x
  exact ⟨x.leadingZeros_reverseBits, x.highestOne_reverseBits, x.reverseBits_turnLeft amount, x.ones_reverseBits,
    x.ones_reverseBytes, x.ones_turnLeft amount, x.ones_turnRight amount⟩

end MachineInt
