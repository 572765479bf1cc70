import MachineInt.Proofs.Pattern.OnIntegers
import MachineInt.Proofs.Pattern.TrailingZeros

/-!
# The ends of a pattern

Four operations tell where the ones of a word end: the zeros above the highest one and below the lowest, and either one
by itself. They are done on integers without a bound as they are on patterns. The search from the top takes no more zeros
off than are left, and the search from the bottom cuts each move to a word, which is zero just when the pattern is.
-/

namespace MachineInt

/-! ## On integers without a bound -/

namespace OnIntegers

theorem up_natCast (value places : Nat) : up value places = (value <<< places : Nat) := by
  rw [up, Int.shiftLeft_eq, Nat.shiftLeft_eq, Nat.cast_mul, Nat.cast_pow, Nat.cast_ofNat]

theorem down_natCast (value places : Nat) : down value places = (value >>> places : Nat) :=
  (Int.natCast_shiftRight value places).symm

/-! ### From the top -/

/-- A search through a number, and the same search with integers. -/
structure Search.SeeksAlong (number room : Nat) (search : Pattern.Search Nat) (again : Search) : Prop where
  seeks : search.Seeks number room
  zeros : again.zeros = search.zeros
  rest : again.rest = search.rest

theorem Search.SeeksAlong.fromTop {number : Nat} (signless : Nat.log 2 number ≤ 31) (size : Nat)
    (search : Pattern.Search Nat) (again : Search) (along : SeeksAlong number (size + size) search again) :
    SeeksAlong number size (search.fromTop size) (again.fromTop size) := by
  obtain ⟨seeks, zeros, rest⟩ := along
  have place := seeks.place
  have reach : up 1 size = ((1 <<< size : Nat) : Int) := up_natCast 1 size
  refine ⟨seeks.fromTop size signless, ?_, ?_⟩
  all_goals
    rw [Search.fromTop, Pattern.Search.fromTop, rest, reach]
    simp only [Nat.cast_le]
    split
  next high =>
    -- The highest one is so far up that as many zeros have not been denied yet.
    rw [Nat.one_shiftLeft] at high
    have left : size ≤ Nat.log 2 search.rest := Nat.le_log_of_pow_le (by decide) high
    dsimp only
    omega
  · exact zeros
  · exact down_natCast search.rest size
  · exact rest

theorem leadingZeros_eq (value : Int) : leadingZeros value = MachineInt.leadingZeros value := by
  have signed : wrap 32 value = (pattern value).toInt := wrap_of_pattern rfl
  rw [leadingZeros, MachineInt.leadingZeros, Pattern.leadingZeros, signed]
  generalize pattern value = x
  by_cases zero : x = 0
  · simp [zero]
  cases sign : x.msb with
  | true =>
    have negative : x.toInt < 0 := BitVec.toInt_neg_of_msb_true sign
    simp only [zero, negative.le, negative.ne, if_true, if_false]
    rfl
  | false =>
    have positive : x.toInt = x.toNat := BitVec.toInt_eq_toNat_of_msb sign
    have signless := Pattern.log_toNat_le zero
    have start : Search.SeeksAlong x.toNat 32 ⟨31, x.toNat⟩ ⟨31, x.toInt⟩ := ⟨Pattern.seeks_start zero, rfl, positive⟩
    have last := Pattern.halving_both (Search.SeeksAlong.fromTop signless) start
    have found := last.seeks.found
    have above : ¬ x.toInt ≤ 0 := by
      have some : x.toNat ≠ 0 := (Pattern.seeks_start zero).one
      omega
    simp only [zero, above, if_false, Bool.false_eq_true]
    rw [last.zeros, last.rest, down_natCast]
    omega

theorem highestOne_eq (value : Int) : highestOne value = MachineInt.highestOne value := by
  have word : wrap 32 value = (pattern value).toInt := wrap_of_pattern rfl
  rw [highestOne, leadingZeros_eq, shiftRight_eq, word]
  apply eq_of_pattern
  · exact fits_land (fits_toInt _) (fits_toInt _)
  · rw [pattern_land, MachineInt.leadingZeros, MachineInt.shiftRight, pattern_toInt, pattern_toInt,
      Pattern.highestOne]

/-! ### From the bottom -/

theorem shiftLeft_toInt (x : Pattern) {size : Nat} (small : size < 32) : shiftLeft x.toInt size = (x <<< size).toInt := by
  rw [shiftLeft_eq, MachineInt.shiftLeft, pattern_toInt, Pattern.shiftLeft, distance_natCast small]

theorem toInt_ne_zero_iff (x : Pattern) : x.toInt ≠ 0 ↔ x ≠ 0 := by
  rw [ne_eq, ← BitVec.toInt_zero, BitVec.toInt_inj]
  rfl

/-- A search through a pattern, and the same search with integers. -/
structure Search.RaisesAlong (x : Pattern) (lowest room : Nat) (search : Pattern.Search Pattern) (again : Search) :
    Prop where
  raises : search.Raises x lowest room
  small : room ≤ 32
  zeros : again.zeros = search.zeros
  rest : again.rest = search.rest.toInt

theorem Search.RaisesAlong.fromBottom {x : Pattern} {lowest : Nat} (least : IsLeast (x.onePlaces : Set Nat) lowest)
    (size : Nat) (search : Pattern.Search Pattern) (again : Search)
    (along : RaisesAlong x lowest (size + size) search again) :
    RaisesAlong x lowest size (search.fromBottom size) (again.fromBottom size) := by
  obtain ⟨raises, small, zeros, rest⟩ := along
  have moved : shiftLeft again.rest size = (search.rest <<< size).toInt := by
    rw [rest]
    exact shiftLeft_toInt search.rest (by omega)
  have left := raises.moved_ne_zero_iff least size
  have same : (search.rest <<< size).toInt ≠ 0 ↔ search.rest <<< size ≠ 0 := toInt_ne_zero_iff _
  refine ⟨raises.fromBottom least size, by omega, ?_, ?_⟩
  all_goals
    simp only [Search.fromBottom, Pattern.Search.fromBottom, moved, same]
    split
  next one =>
    have room := left.mp one
    dsimp only
    omega
  · exact zeros
  · rfl
  · exact rest

/-- The bit below the top, moved to the bottom. -/
theorem bit_below_top (x : Pattern) : shiftRight (shiftLeft x.toInt 1) 31 = ((x <<< 1) >>> 31).toNat := by
  have moved : shiftLeft x.toInt 1 = (x <<< 1).toInt := shiftLeft_toInt x (by decide : 1 < 32)
  have down : Pattern.shiftRight (x <<< 1) 31 = (x <<< 1) >>> 31 := rfl
  have bit := Pattern.toNat_shiftRight_top (x <<< 1)
  have small := Bool.toNat_le ((x <<< 1).getLsbD 31)
  rw [moved, shiftRight_eq, MachineInt.shiftRight, pattern_toInt, down]
  exact BitVec.toInt_eq_toNat_of_lt (by omega)

theorem trailingZeros_eq (value : Int) : trailingZeros value = MachineInt.trailingZeros value := by
  have signed : wrap 32 value = (pattern value).toInt := wrap_of_pattern rfl
  rw [trailingZeros, MachineInt.trailingZeros, Pattern.trailingZeros, signed]
  generalize pattern value = x
  by_cases zero : x = 0
  · simp [zero]
  obtain ⟨lowest, least⟩ := Pattern.exists_isLeast zero
  have some : x.toInt ≠ 0 := (toInt_ne_zero_iff x).mpr zero
  have start : Search.RaisesAlong x lowest 32 ⟨31, x⟩ ⟨31, x.toInt⟩ :=
    ⟨Pattern.raises_start least, le_refl 32, rfl, rfl⟩
  have last := Pattern.halving_both (Search.RaisesAlong.fromBottom least) start
  have found := last.raises.found least
  simp only [zero, some, if_false]
  rw [last.zeros, last.rest, bit_below_top]
  omega

end OnIntegers

/-! ## The highest one by itself -/

namespace Pattern

theorem leadingZeros_eq {x : Pattern} {highest : Nat} (greatest : IsGreatest (x.onePlaces : Set Nat) highest) :
    highest + x.leadingZeros = 31 := by
  have nonzero : x ≠ 0 := by
    rintro rfl
    simpa using greatest.1
  rw [← log_toNat greatest, log_add_leadingZeros nonzero]

/-- The sign bit, moved down by the zeros above the highest one, meets that one. -/
theorem highestOne_eq {x : Pattern} {highest : Nat} (greatest : IsGreatest (x.onePlaces : Set Nat) highest) :
    x.highestOne = BitVec.twoPow 32 highest := by
  have one : x.getLsbD highest = true := mem_onePlaces.mp greatest.1
  have zeros := leadingZeros_eq greatest
  have top : pattern (minValue 32) = BitVec.twoPow 32 31 := by decide
  have whole : distance x.leadingZeros = x.leadingZeros := distance_natCast (by omega)
  have moved : (BitVec.twoPow 32 31 : Pattern) >>> x.leadingZeros = BitVec.twoPow 32 highest := by
    apply BitVec.eq_of_getLsbD_eq
    intro place inside
    have met : 31 = x.leadingZeros + place ↔ highest = place := by omega
    have below : highest < 32 := by omega
    simp [BitVec.getLsbD_ushiftRight, BitVec.getLsbD_twoPow, met, below]
  rw [highestOne, top, shiftRight, whole, moved, BitVec.and_twoPow, if_pos one]

end Pattern

/-! ## What the four operations tell -/

/-- The places from 0 to 31 at which an integer modulo `2 ^ 32` has a one. -/
def onePlaces (value : Int) : Finset Nat := {place ∈ Finset.range 32 | (value % 2 ^ 32).toNat.testBit place}

theorem onePlaces_pattern (value : Int) : onePlaces value = (pattern value).onePlaces := by
  have number : (value % 2 ^ 32).toNat = (pattern value).toNat := by
    rw [pattern, toNat_ofInt, unsigned, weight_word]
  rw [onePlaces, number]
  rfl

theorem pattern_eq_zero_iff (value : Int) : pattern value = 0 ↔ value % 2 ^ 32 = 0 := by
  have nothing : (0 : Pattern) = pattern 0 := by decide
  have zero : unsigned 32 0 = 0 := by decide
  rw [nothing, pattern, pattern, ofInt_eq_iff, zero, unsigned, weight_word]

theorem toInt_twoPow (place : Nat) : (BitVec.twoPow 32 place).toInt = wrap 32 (2 ^ place) := by
  rw [← toInt_pattern, pattern, ofInt_two_pow]

/-- The four numbers are those that the ones of the word demand. -/
structure Ends (value leading trailing highest lowest : Int) : Prop where
  empty : value % 2 ^ 32 = 0 → leading = 32 ∧ trailing = 32 ∧ highest = 0 ∧ lowest = 0
  ends : value % 2 ^ 32 ≠ 0 → ∃ high low,
    IsGreatest (onePlaces value : Set Nat) high ∧ IsLeast (onePlaces value : Set Nat) low ∧
    leading = 31 - high ∧ trailing = low ∧ highest = wrap 32 (2 ^ high) ∧ lowest = wrap 32 (2 ^ low)

/-- An integer of any size is searched for its highest and its lowest one as the pattern of its low bits is, and so it is
on integers without a bound. -/
theorem ends_found (value : Int) :
    Ends value (leadingZeros value) (trailingZeros value) (highestOne value) (lowestOne value) ∧
    Ends value (OnIntegers.leadingZeros value) (OnIntegers.trailingZeros value) (OnIntegers.highestOne value)
      (OnIntegers.lowestOne value) := by
  rw [OnIntegers.leadingZeros_eq, OnIntegers.trailingZeros_eq, OnIntegers.highestOne_eq, OnIntegers.lowestOne_eq,
    and_self]
  constructor
  · intro zero
    rw [leadingZeros, trailingZeros, highestOne, lowestOne, (pattern_eq_zero_iff value).mpr zero,
      Pattern.leadingZeros_zero, Pattern.trailingZeros_zero]
    exact ⟨rfl, rfl, by decide, by decide⟩
  · intro nonzero
    have some : pattern value ≠ 0 := fun zero => nonzero ((pattern_eq_zero_iff value).mp zero)
    obtain ⟨high, greatest⟩ := Pattern.exists_isGreatest some
    obtain ⟨low, least⟩ := Pattern.exists_isLeast some
    have zeros := Pattern.leadingZeros_eq greatest
    rw [onePlaces_pattern]
    refine ⟨high, low, greatest, least, ?_, ?_, ?_, ?_⟩
    · rw [leadingZeros]
      omega
    · rw [trailingZeros, Pattern.trailingZeros_eq least]
    · rw [highestOne, Pattern.highestOne_eq greatest, toInt_twoPow]
    · rw [lowestOne, Pattern.lowestOne_eq least, toInt_twoPow]

end MachineInt
