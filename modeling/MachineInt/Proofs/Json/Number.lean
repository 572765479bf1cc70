import MachineInt.Json
import Mathlib.Algebra.Order.Ring.Int

/-!
# Numbers by value

A number that compares equal to an integer is that integer, however it is written, and takes its place in every
comparison with integers.
-/

namespace MachineInt

namespace Ratio

/-- A quotient that is an integer is that integer times its denominator. -/
theorem toInt?_eq_some_iff (a : Ratio) (value : Int) : a.toInt? = some value ↔ a.num = value * a.den := by
  have positive : (a.den : Int) ≠ 0 := by have := a.den_pos; omega
  unfold toInt?
  constructor
  · intro integral
    split at integral
    next divides =>
      rw [← Option.some.inj integral]
      exact (Int.ediv_mul_cancel (Int.dvd_of_emod_eq_zero divides)).symm
    · cases integral
  · intro product
    rw [product, if_pos (Int.mul_emod_left ..), Int.mul_ediv_cancel _ positive]

theorem order_ofInt (a : Ratio) (bound : Int) : order a (.ofInt bound) = compare a.num (bound * a.den) := by
  rw [order, ofInt, Nat.cast_one, Int.mul_one]

theorem order_eq_comm (a b : Ratio) : order a b = .eq ↔ order b a = .eq := by
  rw [order, order, compare_eq_iff_eq, compare_eq_iff_eq, eq_comm]

end Ratio

namespace Number

/-- The number is this integer, by value. -/
def IsInt (number : Number) (value : Int) : Prop := number.order (.int value) = some .eq

theorem order_int_of_ratio {number : Number} {ratio : Ratio} (finite : number.ratio? = some ratio) (bound : Int) :
    number.order (.int bound) = some (compare ratio.num (bound * ratio.den)) := by
  cases number with
  | int other =>
    cases finite
    exact congrArg some (Ratio.order_ofInt _ bound)
  | float x =>
    cases x with
    | finite negative mantissa exponent =>
      cases finite
      exact congrArg some (Ratio.order_ofInt _ bound)
    | infinite negative => cases finite
    | notANumber => cases finite

theorem toInt?_eq_some_iff (number : Number) (value : Int) :
    number.toInt? = some value ↔ ∃ ratio, number.ratio? = some ratio ∧ ratio.num = value * ratio.den := by
  cases number with
  | int other => simp [toInt?, ratio?, Ratio.ofInt]
  | float x => simp only [toInt?, ratio?, Binary64.toInt?, Option.bind_eq_some_iff, Ratio.toInt?_eq_some_iff]

/-- The integer that is found in a number is the one it compares equal to. -/
theorem isInt_iff (number : Number) (value : Int) : number.IsInt value ↔ number.toInt? = some value := by
  rw [IsInt, toInt?_eq_some_iff]
  cases finite : number.ratio? with
  | some ratio => simp [order_int_of_ratio finite]
  | none =>
    -- Without a ratio a number is infinite or none at all.
    cases number with
    | int other => cases finite
    | float x =>
      cases x with
      | finite negative mantissa exponent => cases finite
      | infinite negative => cases negative <;> simp [order]
      | notANumber => simp [order]

theorem isInt_int_iff (value other : Int) : (int value).IsInt other ↔ value = other := by
  rw [isInt_iff, toInt?, Option.some.injEq]

theorem IsInt.unique {number : Number} {value other : Int} (left : number.IsInt value) (right : number.IsInt other) :
    value = other := by
  rw [isInt_iff] at left right
  exact Option.some.inj (left.symm.trans right)

/-- Where a number is an integer, bounds are bounds of the integer. -/
theorem IsInt.order_int {number : Number} {value : Int} (integral : number.IsInt value) (bound : Int) :
    number.order (.int bound) = some (compare value bound) := by
  rw [isInt_iff, toInt?_eq_some_iff] at integral
  obtain ⟨ratio, finite, product⟩ := integral
  have positive : (0 : Int) < ratio.den := Int.natCast_pos.mpr ratio.den_pos
  rw [order_int_of_ratio finite, product, ← cmp_eq_compare, ← cmp_eq_compare, cmp_mul_pos_right positive]

/-- Equality by value is symmetric. -/
theorem int_order_eq_iff (value : Int) (number : Number) :
    (int value).order number = some .eq ↔ number.IsInt value := by
  unfold IsInt
  cases number with
  | int other => simpa [order, ratio?] using Ratio.order_eq_comm (.ofInt value) (.ofInt other)
  | float x =>
    cases x with
    | finite negative mantissa exponent => simpa [order, ratio?, Binary64.ratio?] using Ratio.order_eq_comm ..
    | infinite negative => cases negative <;> simp [order]
    | notANumber => simp [order]

end Number

end MachineInt
