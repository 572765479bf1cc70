import MachineInt.Pattern.Count
import MachineInt.Proofs.Pattern.Integers
import Mathlib.Data.Finset.Max
import Mathlib.Data.Finset.Range
import Mathlib.Data.Nat.Log

/-!
# The places of the ones

A pattern is the set of places that hold a one. A pattern that is not empty has a lowest and a highest of them, and each
is what some arithmetic leaves: the negation of a pattern agrees with it up to its lowest one and nowhere above, and the
highest one is the logarithm of the number that the pattern is without a sign.
-/

namespace MachineInt

namespace Pattern

/-- The places that hold a one. -/
def onePlaces (x : Pattern) : Finset Nat := {place ∈ Finset.range 32 | x.getLsbD place}

@[simp] theorem mem_onePlaces {x : Pattern} {place : Nat} : place ∈ x.onePlaces ↔ x.getLsbD place = true := by
  rw [onePlaces, Finset.mem_filter, Finset.mem_range, and_iff_right_iff_imp]
  exact BitVec.lt_of_getLsbD

theorem lt_of_mem_onePlaces {x : Pattern} {place : Nat} (one : place ∈ x.onePlaces) : place < 32 :=
  BitVec.lt_of_getLsbD (mem_onePlaces.mp one)

theorem onePlaces_nonempty {x : Pattern} (nonzero : x ≠ 0) : x.onePlaces.Nonempty := by
  rw [Finset.nonempty_iff_ne_empty]
  intro empty
  apply nonzero
  apply BitVec.eq_of_getLsbD_eq
  intro place _
  have none : place ∉ x.onePlaces := by simp [empty]
  simpa using none

theorem exists_isLeast {x : Pattern} (nonzero : x ≠ 0) : ∃ lowest, IsLeast (x.onePlaces : Set Nat) lowest :=
  ⟨_, Finset.isLeast_min' _ (onePlaces_nonempty nonzero)⟩

theorem exists_isGreatest {x : Pattern} (nonzero : x ≠ 0) : ∃ highest, IsGreatest (x.onePlaces : Set Nat) highest :=
  ⟨_, Finset.isGreatest_max' _ (onePlaces_nonempty nonzero)⟩

/-! ## The lowest one -/

theorem getLsbD_of_lt {x : Pattern} {lowest place : Nat} (least : IsLeast (x.onePlaces : Set Nat) lowest)
    (below : place < lowest) : x.getLsbD place = false := by
  by_contra one
  rw [Bool.not_eq_false, ← mem_onePlaces] at one
  exact absurd (least.2 one) (by omega)

/-- Negation turns all bits above the lowest one. -/
theorem lowestOne_eq {x : Pattern} {lowest : Nat} (least : IsLeast (x.onePlaces : Set Nat) lowest) :
    x.lowestOne = BitVec.twoPow 32 lowest := by
  have one : x.getLsbD lowest = true := mem_onePlaces.mp least.1
  have inside := BitVec.lt_of_getLsbD one
  apply BitVec.eq_of_getLsbD_eq
  intro place bound
  rw [lowestOne, BitVec.getLsbD_and, BitVec.getLsbD_neg, BitVec.getLsbD_twoPow]
  rcases lt_trichotomy place lowest with below | rfl | above
  · have other : ¬ lowest = place := by omega
    simp [getLsbD_of_lt least below, other]
  · have none : ¬ ∃ earlier < place, x.getLsbD earlier = true := by
      rintro ⟨earlier, below, again⟩
      rw [getLsbD_of_lt least below] at again
      cases again
    simp only [one, none, bound, decide_true, decide_false, Bool.true_and, Bool.bne_false]
  · have earlier : ∃ earlier < place, x.getLsbD earlier = true := ⟨lowest, above, one⟩
    have other : ¬ lowest = place := by omega
    simp [earlier, bound, other]

/-! ## The highest one -/

theorem log_toNat {x : Pattern} {highest : Nat} (greatest : IsGreatest (x.onePlaces : Set Nat) highest) :
    Nat.log 2 x.toNat = highest := by
  have one : x.toNat.testBit highest = true := mem_onePlaces.mp greatest.1
  have low : 2 ^ highest ≤ x.toNat := Nat.ge_two_pow_of_testBit one
  have high : x.toNat < 2 ^ (highest + 1) := by
    apply Nat.lt_pow_two_of_testBit
    intro place above
    by_contra further
    rw [Bool.not_eq_false] at further
    exact absurd (greatest.2 (mem_onePlaces.mpr further)) (by omega)
  exact Nat.log_eq_of_pow_le_of_lt_pow low high

end Pattern

end MachineInt
