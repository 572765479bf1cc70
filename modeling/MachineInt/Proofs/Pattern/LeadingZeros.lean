import MachineInt.Pattern.Count
import Mathlib.Algebra.Group.Nat.Defs
import Mathlib.Data.Nat.Log

/-!
# The zeros above the highest one

The search drops positions from the low end as long as a one is left, and grants a zero less for each of them. So the
zeros that it has still to grant and the place of the highest one in what it looks at keep their distance. A step leaves
half of the positions to look at; the last of two is looked at directly.
-/

namespace MachineInt.Pattern

/-! ## Halving -/

section

variable {α β : Type} {step : α → Nat → α} {other : β → Nat → β}

/-- What a step keeps for half of the positions holds of the last two if it holds of all. -/
theorem halving {Holds : Nat → α → Prop} (keeps : ∀ size a, Holds (size + size) a → Holds size (step a size)) {a : α}
    (start : Holds 32 a) : Holds 2 ([16, 8, 4, 2].foldl step a) :=
  keeps 2 _ (keeps 4 _ (keeps 8 _ (keeps 16 _ start)))

/-- The same for two searches side by side. -/
theorem halving_both {Holds : Nat → α → β → Prop}
    (keeps : ∀ size a b, Holds (size + size) a b → Holds size (step a size) (other b size)) {a : α} {b : β}
    (start : Holds 32 a b) : Holds 2 ([16, 8, 4, 2].foldl step a) ([16, 8, 4, 2].foldl other b) :=
  keeps 2 _ _ (keeps 4 _ _ (keeps 8 _ _ (keeps 16 _ _ start)))

end

/-! ## The search -/

/-- A search for the highest one of a number: there is a one in the lowest `room` positions, as many above the highest
one of the number as zeros have been denied. -/
structure Search.Seeks (number room : Nat) (search : Search Nat) : Prop where
  one : search.rest ≠ 0
  small : search.rest < 2 ^ room
  place : Nat.log 2 number + search.zeros = 31 + Nat.log 2 search.rest

/-- Of two positions the upper one counts by itself. -/
theorem log_eq_shiftRight {rest : Nat} (one : rest ≠ 0) (small : rest < 2 ^ 2) : Nat.log 2 rest = rest >>> 1 := by
  have two : ∀ rest ∈ List.range 4, rest ≠ 0 → Nat.log 2 rest = rest >>> 1 := by decide
  exact two rest (List.mem_range.mpr small) one

section

variable {number room : Nat} {search : Search Nat}

/-- A step that finds a one in the upper half drops the lower half. -/
theorem Search.Seeks.fromTop (size : Nat) (seeks : search.Seeks number (size + size))
    (signless : Nat.log 2 number ≤ 31) : (search.fromTop size).Seeks number size := by
  have place := seeks.place
  rw [Search.fromTop, Nat.one_shiftLeft, Nat.shiftRight_eq_div_pow]
  split
  next high =>
    have reach : size ≤ Nat.log 2 search.rest := Nat.le_log_of_pow_le (by decide) high
    constructor
    · exact Nat.div_ne_zero_iff.mpr ⟨(Nat.two_pow_pos size).ne', high⟩
    · apply Nat.div_lt_of_lt_mul
      rw [← Nat.pow_add]
      exact seeks.small
    · simp only [Nat.log_div_base_pow]
      omega
  next low => exact ⟨seeks.one, Nat.lt_of_not_le low, place⟩

/-- What the search has granted is all but the last position. -/
theorem Search.Seeks.found (seeks : search.Seeks number 2) :
    Nat.log 2 number + search.zeros = 31 + search.rest >>> 1 := by
  rw [← log_eq_shiftRight seeks.one seeks.small, seeks.place]

end

theorem leadingZeros_zero : leadingZeros 0 = 32 := by simp [leadingZeros]

theorem log_toNat_le {x : Pattern} (nonzero : x ≠ 0) : Nat.log 2 x.toNat ≤ 31 := by
  have some : x.toNat ≠ 0 := fun zero => nonzero (BitVec.eq_of_toNat_eq zero)
  exact Nat.le_of_lt_succ (Nat.log_lt_of_lt_pow some x.isLt)

theorem seeks_start {x : Pattern} (nonzero : x ≠ 0) : Search.Seeks x.toNat 32 ⟨31, x.toNat⟩ where
  one := fun zero => nonzero (BitVec.eq_of_toNat_eq zero)
  small := x.isLt
  place := Nat.add_comm ..

/-- The place of the highest one and the zeros above it make up the pattern. -/
theorem log_add_leadingZeros {x : Pattern} (nonzero : x ≠ 0) : Nat.log 2 x.toNat + x.leadingZeros = 31 := by
  have signless := log_toNat_le nonzero
  rw [leadingZeros, if_neg nonzero]
  cases sign : x.msb with
  | true =>
    have high : 2 ^ 31 ≤ x.toNat := BitVec.toNat_ge_of_msb_true sign
    have top : 31 ≤ Nat.log 2 x.toNat := Nat.le_log_of_pow_le (by decide) high
    simp only [if_true]
    omega
  | false =>
    have found := (halving (fun size _ seeks => seeks.fromTop size signless) (seeks_start nonzero)).found
    simp only [Bool.false_eq_true, if_false]
    omega

theorem leadingZeros_le (x : Pattern) : x.leadingZeros ≤ 32 := by
  by_cases zero : x = 0
  · rw [zero, leadingZeros_zero]
  · have place := log_add_leadingZeros zero
    omega

end MachineInt.Pattern
