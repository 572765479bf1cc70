import MachineInt.Proofs.Pattern.LeadingZeros
import MachineInt.Proofs.Pattern.Places

/-!
# The zeros below the lowest one

The search moves the pattern up as long as a one is left, and grants a zero less for each place. A one is left as long as
the lowest one is, so the search never moves that one over the top, and what it stops short by is less than twice its
last step. The bit below the top tells which of the last two places it is.
-/

namespace MachineInt.Pattern

/-- A search for the lowest one of a pattern: it has moved the pattern up by as many places as zeros have been denied,
the lowest one is still there, and it is among the highest `room` places. -/
structure Search.Raises (x : Pattern) (lowest room : Nat) (search : Search Pattern) : Prop where
  moved : search.rest = x <<< (31 - search.zeros)
  denied : search.zeros ≤ 31
  kept : lowest ≤ search.zeros
  near : search.zeros < lowest + room

/-- What is left of a pattern at the distance of the top is its sign. -/
theorem toNat_shiftRight_top (x : Pattern) : (x >>> 31).toNat = (x.getLsbD 31).toNat := by
  have bound := x.isLt
  have sign : x.getLsbD 31 = decide (2 ^ 31 ≤ x.toNat) := by
    rw [← BitVec.msb_eq_getLsbD_last x, BitVec.msb_eq_decide]
  rw [BitVec.toNat_ushiftRight, Nat.shiftRight_eq_div_pow, sign]
  by_cases high : 2 ^ 31 ≤ x.toNat
  · rw [decide_eq_true high, Bool.toNat_true]
    omega
  · rw [decide_eq_false high, Bool.toNat_false]
    omega

section

variable {x : Pattern} {lowest : Nat} (least : IsLeast (x.onePlaces : Set Nat) lowest)
include least

/-- A one is left as long as there is room for the lowest one. -/
theorem shiftLeft_ne_zero_iff (size : Nat) : x <<< size ≠ 0 ↔ lowest + size < 32 := by
  have here : x.getLsbD lowest = true := mem_onePlaces.mp least.1
  constructor
  · intro nonzero
    obtain ⟨place, one⟩ := onePlaces_nonempty nonzero
    simp only [mem_onePlaces, BitVec.getLsbD_shiftLeft, Bool.and_eq_true, Bool.not_eq_true', decide_eq_true_eq,
      decide_eq_false_iff_not] at one
    have := least.2 (mem_onePlaces.mpr one.2)
    omega
  · intro room zero
    have one : (x <<< size).getLsbD (lowest + size) = true := by
      rw [BitVec.getLsbD_shiftLeft, Nat.add_sub_cancel, here]
      simp [room]
    simp [zero] at one

theorem Search.Raises.moved_ne_zero_iff {room : Nat} {search : Search Pattern} (raises : search.Raises x lowest room)
    (size : Nat) : search.rest <<< size ≠ 0 ↔ lowest + size ≤ search.zeros := by
  have denied := raises.denied
  rw [raises.moved, ← BitVec.shiftLeft_add, shiftLeft_ne_zero_iff least]
  omega

/-- A step that leaves a one has not lost the lowest one; a step that leaves none would have. -/
theorem Search.Raises.fromBottom {search : Search Pattern} (size : Nat)
    (raises : search.Raises x lowest (size + size)) : (search.fromBottom size).Raises x lowest size := by
  have left := raises.moved_ne_zero_iff least size
  obtain ⟨moved, denied, kept, near⟩ := raises
  rw [Search.fromBottom]
  split
  next one =>
    have room := left.mp one
    have places : 31 - search.zeros + size = 31 - (search.zeros - size) := by omega
    constructor
    · dsimp only
      rw [moved, ← BitVec.shiftLeft_add, places]
    all_goals dsimp only; omega
  next none =>
    have room := mt left.mpr none
    exact ⟨moved, denied, kept, by omega⟩

/-- The bit below the top is the lowest one if that is not at the top. -/
theorem Search.Raises.found {search : Search Pattern} (raises : search.Raises x lowest 2) :
    search.zeros = lowest + ((search.rest <<< 1) >>> 31).toNat := by
  obtain ⟨moved, denied, kept, near⟩ := raises
  rw [toNat_shiftRight_top, BitVec.getLsbD_shiftLeft, moved, BitVec.getLsbD_shiftLeft]
  rcases Nat.eq_or_lt_of_le kept with top | above
  · -- Below the top there is nothing, or no place of the pattern at all.
    have none : x.getLsbD (31 - 1 - (31 - search.zeros)) = false ∨ 31 - 1 < 31 - search.zeros := by
      rcases Nat.eq_zero_or_pos lowest with zero | positive
      · exact .inr (by omega)
      · exact .inl (getLsbD_of_lt least (by omega))
    rcases none with none | none <;> simp [none, top]
  · have place : 31 - 1 - (31 - search.zeros) = lowest := by omega
    have inside : ¬ 31 - 1 < 31 - search.zeros := by omega
    rw [place, mem_onePlaces.mp least.1, decide_eq_false inside]
    change search.zeros = lowest + 1
    omega

theorem ne_zero_of_isLeast : x ≠ 0 := by
  rintro rfl
  simpa using least.1

theorem raises_start : Search.Raises x lowest 32 ⟨31, x⟩ where
  moved := (BitVec.shiftLeft_zero x).symm
  denied := le_refl 31
  kept := Nat.le_of_lt_succ (lt_of_mem_onePlaces least.1)
  near := Nat.lt_add_left lowest (Nat.lt_succ_self 31)

theorem trailingZeros_eq : x.trailingZeros = lowest := by
  have last := halving (fun size _ raises => raises.fromBottom least size) (raises_start least)
  rw [trailingZeros, if_neg (ne_zero_of_isLeast least)]
  dsimp only
  rw [last.found least, Nat.add_sub_cancel]

end

theorem trailingZeros_zero : trailingZeros 0 = 32 := by simp [trailingZeros]

end MachineInt.Pattern
