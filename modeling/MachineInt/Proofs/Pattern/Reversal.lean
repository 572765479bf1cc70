import MachineInt.Proofs.Pattern.OnIntegers
import MachineInt.Subword

/-!
# Reversals as permutations of places

A trade of neighbours fills every place from its partner. When the groups that are traded have their bits in reverse
order already, the pairs of them have so afterwards; this is the invariant that carries single bits to bytes in three
trades. Reversing the bytes does the rest. As places are only exchanged in pairs, a reversal undoes itself; what it does
not give back are the bits above the word, which it has cut off.
-/

namespace MachineInt

namespace Pattern

/-! ## Trades -/

/-- The mask selects the lower one of each two groups of `size` bits. -/
def SelectsLower (size mask : Nat) : Prop :=
  ∀ place < 32, mask.testBit place = decide (place % (2 * size) < size)

instance (size mask : Nat) : Decidable (SelectsLower size mask) := Nat.decidableBallLT ..

theorem pairMask_selectsLower : SelectsLower 1 pairMask := by decide

theorem nibbleMask_selectsLower : SelectsLower 2 nibbleMask := by decide

theorem byteMask_selectsLower : SelectsLower 4 byteMask := by decide

/-- The place that a trade of groups of `size` bits fills `place` from. -/
def partner (size place : Nat) : Nat := if place % (2 * size) < size then place + size else place - size

section

variable {size mask place : Nat}

/-- One group further down, lower and upper groups change their parts. -/
theorem lower_sub_iff (positive : 0 < size) (above : size ≤ place) :
    (place - size) % (2 * size) < size ↔ ¬ place % (2 * size) < size := by
  obtain ⟨below, rfl⟩ := Nat.exists_eq_add_of_le above
  have small : below % (2 * size) < 2 * size := Nat.mod_lt below (by omega)
  rw [Nat.add_sub_cancel_left, ← Nat.add_mod_mod]
  generalize below % (2 * size) = rest at small ⊢
  by_cases low : rest < size
  · rw [Nat.mod_eq_of_lt (show size + rest < 2 * size by omega)]
    omega
  · -- From an upper group it is the lower group of the next pair that follows.
    have wrapped : (size + rest) % (2 * size) = rest - size := by
      rw [Nat.mod_eq_sub_mod (by omega), Nat.mod_eq_of_lt (by omega)]
      omega
    omega

theorem getLsbD_trade (x : Pattern) (positive : 0 < size) (lower : SelectsLower size mask) (inside : place < 32) :
    (x.trade size mask).getLsbD place = x.getLsbD (partner size place) := by
  have least := Nat.mod_le place (2 * size)
  simp only [trade, BitVec.getLsbD_or, BitVec.getLsbD_shiftLeft, BitVec.getLsbD_and, BitVec.getLsbD_ushiftRight,
    BitVec.getLsbD_ofNat, lower place inside, inside, decide_true, Bool.true_and, partner]
  split
  next low =>
    -- Nothing is moved up here: below a lower group stands an upper one, or nothing at all.
    have none : place < size ∨ mask.testBit (place - size) = false := by
      by_cases bottom : place < size
      · exact .inl bottom
      · have upper := mt (lower_sub_iff positive (Nat.le_of_not_lt bottom)).mp (not_not_intro low)
        rw [lower _ (by omega)]
        exact .inr (decide_eq_false upper)
    rcases none with none | none <;> simp [none, low, Nat.add_comm]
  next high =>
    have room : size ≤ place := by omega
    have group := (lower_sub_iff positive room).mpr high
    have earlier : place - size < 32 := by omega
    have raised : ¬ place < size := by omega
    simp [lower _ earlier, group, earlier, high, raised]

/-- Both groups of a trade are in the pattern. -/
theorem partner_lt (whole : 2 * size ∣ 32) (inside : place < 32) : partner size place < 32 := by
  obtain ⟨count, blocks⟩ := whole
  -- The pair of groups that `place` lies in ends at the end of the pattern or before.
  have block : place / (2 * size) + 1 ≤ count := Nat.div_lt_of_lt_mul (by omega)
  have room : 2 * size * (place / (2 * size) + 1) ≤ 2 * size * count := Nat.mul_le_mul_left _ block
  have parts := Nat.div_add_mod place (2 * size)
  rw [Nat.mul_add_one] at room
  unfold partner
  split <;> omega

end

/-! ## Reversed groups -/

/-- Every group of `size` bits in `y` is the one in `x` with its bits in reverse order. -/
def Mirrors (size : Nat) (x y : Pattern) : Prop :=
  ∀ place < 32, y.getLsbD place = x.getLsbD (place + (size - 1) - 2 * (place % size))

theorem mirrors_one (x : Pattern) : Mirrors 1 x x := by
  intro place _
  rw [Nat.mod_one]
  rfl

/-- To go to the partner and then across its group is to go across both groups. -/
theorem mirror_partner {size : Nat} (positive : 0 < size) (place : Nat) :
    partner size place + (size - 1) - 2 * (partner size place % size) =
      place + (2 * size - 1) - 2 * (place % (2 * size)) := by
  have halves : place % (2 * size) % size = place % size := Nat.mod_mul_left_mod place 2 size
  have small : place % (2 * size) < 2 * size := Nat.mod_lt place (by omega)
  have least : place % (2 * size) ≤ place := Nat.mod_le place (2 * size)
  unfold partner
  split
  next low =>
    rw [Nat.mod_eq_of_lt low] at halves
    rw [Nat.add_mod_right, ← halves]
    omega
  next high =>
    -- In its own group an upper place lies as far up as in the pair above the middle.
    have lower : place % (2 * size) % size = place % (2 * size) - size := by
      rw [Nat.mod_eq_sub_mod (by omega), Nat.mod_eq_of_lt (by omega)]
    rw [← Nat.mod_eq_sub_mod (by omega), ← halves, lower]
    omega

theorem Mirrors.trade {size mask : Nat} {x y : Pattern} (mirrors : Mirrors size x y) (whole : 2 * size ∣ 32)
    (lower : SelectsLower size mask) : Mirrors (2 * size) x (y.trade size mask) := by
  have positive : 0 < size := by
    by_contra none
    simp [Nat.eq_zero_of_not_pos none] at whole
  intro place inside
  rw [getLsbD_trade y positive lower inside, mirrors _ (partner_lt whole inside), mirror_partner positive]

/-! ## Bytes and bits -/

/-- The same place in the byte on the other side of the middle. -/
def facing (place : Nat) : Nat := 8 * (3 - place / 8) + place % 8

theorem facing_lt {place : Nat} (inside : place < 32) : facing place < 32 := by
  unfold facing
  omega

theorem facing_facing {place : Nat} (inside : place < 32) : facing (facing place) = place := by
  unfold facing
  omega

theorem getLsbD_reverseBytes (x : Pattern) {place : Nat} (inside : place < 32) :
    x.reverseBytes.getLsbD place = x.getLsbD (facing place) := by
  have mask : ∀ place < 32, (0xFF00#32).getLsbD place = decide (8 ≤ place ∧ place < 16) := by decide
  have source : 24 ≤ place ∧ facing place = place - 24 ∨ (16 ≤ place ∧ place < 24) ∧ facing place = place - 8 ∨
      (8 ≤ place ∧ place < 16) ∧ facing place = 8 + place ∨ place < 8 ∧ facing place = 24 + place := by
    unfold facing
    omega
  simp only [reverseBytes, BitVec.getLsbD_or, BitVec.getLsbD_shiftLeft, BitVec.getLsbD_and,
    BitVec.getLsbD_ushiftRight, mask place inside, mask (place - 8) (by omega)]
  -- Each byte is filled by one of the four parts, and the other three are empty there.
  obtain ⟨byte, source⟩ | ⟨byte, source⟩ | ⟨byte, source⟩ | ⟨byte, source⟩ := source
  all_goals
    rw [source]
    simp (disch := omega) [decide_eq_true, decide_eq_false, BitVec.getLsbD_of_ge]

theorem getLsbD_reverseBits (x : Pattern) {place : Nat} (inside : place < 32) :
    x.reverseBits.getLsbD place = x.getLsbD (31 - place) := by
  have bytes : Mirrors 8 x (((x.trade 1 pairMask).trade 2 nibbleMask).trade 4 byteMask) :=
    (((mirrors_one x).trade (by decide) pairMask_selectsLower).trade (by decide) nibbleMask_selectsLower).trade
      (by decide) byteMask_selectsLower
  -- The last step exchanges the bytes, each of which has been reversed by then.
  have across : facing place + (8 - 1) - 2 * (facing place % 8) = 31 - place := by
    unfold facing
    omega
  rw [reverseBits, getLsbD_reverseBytes _ inside, bytes _ (facing_lt inside), across]

theorem reverseBytes_reverseBytes (x : Pattern) : x.reverseBytes.reverseBytes = x := by
  apply BitVec.eq_of_getLsbD_eq
  intro place inside
  rw [getLsbD_reverseBytes _ inside, getLsbD_reverseBytes _ (facing_lt inside), facing_facing inside]

theorem reverseBits_reverseBits (x : Pattern) : x.reverseBits.reverseBits = x := by
  apply BitVec.eq_of_getLsbD_eq
  intro place inside
  rw [getLsbD_reverseBits _ inside, getLsbD_reverseBits _ (by omega)]
  congr 1
  omega

end Pattern

/-! ## Words -/

section

variable (value : Int) {place : Nat}

theorem testBit_reverseBits (inside : place < 32) :
    (reverseBits value).testBit place = value.testBit (31 - place) := by
  rw [reverseBits, testBit_toInt _ inside, Pattern.getLsbD_reverseBits _ inside, pattern, getLsbD_ofInt _ (by omega)]

theorem testBit_reverseBytes (inside : place < 32) :
    (reverseBytes value).testBit place = value.testBit (Pattern.facing place) := by
  rw [reverseBytes, testBit_toInt _ inside, Pattern.getLsbD_reverseBytes _ inside, pattern,
    getLsbD_ofInt _ (Pattern.facing_lt inside)]

example : reverseBytes 0x01020304 = 0x04030201 := by decide

theorem testBit_shiftRight_word (inside : place + 16 < 32) :
    (shiftRight value 16).testBit place = value.testBit (16 + place) := by
  have whole : distance 16 = 16 := by decide
  rw [shiftRight, testBit_toInt _ (by omega), Pattern.shiftRight, whole, BitVec.getLsbD_ushiftRight, pattern,
    getLsbD_ofInt _ (by omega)]

theorem testBit_swapBytes (inside : place < 16) :
    (swapBytes value).testBit place = value.testBit (8 * (1 - place / 8) + place % 8) := by
  have mask : ∀ place < 24, (0xFF00#16).getLsbD place = decide (8 ≤ place ∧ place < 16) := by decide
  have source : 8 ≤ place ∧ 8 * (1 - place / 8) + place % 8 = place - 8 ∨
      place < 8 ∧ 8 * (1 - place / 8) + place % 8 = 8 + place := by omega
  rw [swapBytes, testBit_toInt _ inside, ← getLsbD_ofInt value (by omega : _ < 16)]
  simp only [BitVec.getLsbD_or, BitVec.getLsbD_shiftLeft, BitVec.getLsbD_and, BitVec.getLsbD_ushiftRight,
    mask (8 + place) (by omega)]
  obtain ⟨byte, source⟩ | ⟨byte, source⟩ := source
  all_goals
    rw [source]
    simp (disch := omega) [decide_eq_true, decide_eq_false, BitVec.getLsbD_of_ge]

end

theorem reverseBits_reverseBits (value : Int) : reverseBits (reverseBits value) = wrap 32 value := by
  rw [reverseBits, reverseBits, pattern_toInt, Pattern.reverseBits_reverseBits, toInt_pattern]

theorem reverseBytes_reverseBytes (value : Int) : reverseBytes (reverseBytes value) = wrap 32 value := by
  rw [reverseBytes, reverseBytes, pattern_toInt, Pattern.reverseBytes_reverseBytes, toInt_pattern]

/-- The upper half of the reversed word has the two lower bytes. -/
theorem swapBytes_eq_wrap (value : Int) : swapBytes value = wrap 16 (shiftRight (reverseBytes value) 16) := by
  refine toInt_eq_wrap (by decide) fun place inside => ?_
  rw [testBit_shiftRight_word _ (by omega), testBit_reverseBytes _ (by omega)]
  refine (testBit_swapBytes value inside).trans (congrArg value.testBit ?_)
  unfold Pattern.facing
  omega

theorem swapBytes_swapBytes (value : Int) : swapBytes (swapBytes value) = wrap 16 value := by
  refine toInt_eq_wrap (by decide) fun place inside => ?_
  refine (testBit_swapBytes _ inside).trans ?_
  rw [testBit_swapBytes _ (by omega)]
  congr 1
  omega

theorem Subword.reverseBytes_reverseBytes (size : Subword) (value : Int) :
    size.reverseBytes (size.reverseBytes value) = wrap size.bits value := by
  cases size with
  | byte => exact wrap_of_fits (by decide) (fits_wrap (by decide) value)
  | short => exact swapBytes_swapBytes value

/-- The reversals move every bit to its stated place, also where they are carried out on integers without a bound, and
each of them is undone by doing it again. -/
theorem reversals_permute (value : Int) :
    (∀ place : Fin 32, (reverseBits value).testBit place = value.testBit (31 - place.val)) ∧
    (∀ (byte : Fin 4) (place : Fin 8),
      (reverseBytes value).testBit (8 * byte.val + place.val) = value.testBit (8 * (3 - byte.val) + place.val)) ∧
    swapBytes value = wrap 16 (shiftRight (reverseBytes value) 16) ∧
    reverseBits (reverseBits value) = wrap 32 value ∧
    reverseBytes (reverseBytes value) = wrap 32 value ∧
    swapBytes (swapBytes value) = wrap 16 value ∧
    (∀ size : Subword, size.reverseBytes (size.reverseBytes value) = wrap size.bits value) ∧
    OnIntegers.reverseBits value = reverseBits value ∧
    OnIntegers.reverseBytes value = reverseBytes value ∧
    OnIntegers.swapBytes value = swapBytes value := by
  refine ⟨fun place => testBit_reverseBits value place.isLt, ?_, swapBytes_eq_wrap value, reverseBits_reverseBits value,
    reverseBytes_reverseBytes value, swapBytes_swapBytes value, fun size => size.reverseBytes_reverseBytes value,
    OnIntegers.reverseBits_eq value, OnIntegers.reverseBytes_eq value, OnIntegers.swapBytes_eq value⟩
  intro byte place
  rw [testBit_reverseBytes value (by omega)]
  congr 1
  unfold Pattern.facing
  omega

end MachineInt
