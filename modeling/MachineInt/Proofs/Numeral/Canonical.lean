import MachineInt.Numeral.Spelling
import MachineInt.Proofs.Division
import MachineInt.Proofs.Numeral.Language

/-!
# The numeral of a number

Every number has one numeral in a radix: a minus if it is negative, then the digits of its magnitude without zeros
in front, and a single zero for zero. Both ways of writing, digit by digit in any radix and in pairs in radix ten,
arrive at it.
-/

namespace MachineInt.Numeral

/-- The digits of a magnitude, the highest first; zero has one digit. -/
def canonicalDigits (radix : Radix) (magnitude : Nat) : List Nat :=
  if magnitude = 0 then [0] else (Nat.digits radix.value magnitude).reverse

/-- The numeral of a number. -/
def canonical (radix : Radix) (value : Int) : List Char :=
  (if value < 0 then ['-'] else []) ++ (canonicalDigits radix value.natAbs).map digitChar

theorem canonicalDigits_of_lt (radix : Radix) {magnitude : Nat} (small : magnitude < radix.value) :
    canonicalDigits radix magnitude = [magnitude] := by
  unfold canonicalDigits
  split
  next zero => rw [zero]
  next nonzero => rw [Nat.digits_of_lt radix.value magnitude nonzero small, List.reverse_singleton]

/-- The last digit is what division by the radix leaves over. -/
theorem canonicalDigits_of_le (radix : Radix) {magnitude : Nat} (large : radix.value ≤ magnitude) :
    canonicalDigits radix magnitude =
      canonicalDigits radix (magnitude / radix.value) ++ [magnitude % radix.value] := by
  have two := radix.two_le
  have rest : magnitude / radix.value ≠ 0 := Nat.div_ne_zero_iff.mpr ⟨by omega, large⟩
  rw [canonicalDigits, canonicalDigits, if_neg (by omega), if_neg rest,
    Nat.digits_def' (by omega) (by omega), List.reverse_cons]

/-! ## Quotients of what is not positive -/

theorem quotient_neg (magnitude divisor : Nat) (positive : 0 < divisor) :
    quotient (-(magnitude : Int)) divisor = -((magnitude / divisor : Nat) : Int) := by
  rw [quotient_of_nonpos (by omega) (by omega), Int.neg_neg, Int.natCast_ediv]

theorem remainder_neg (magnitude divisor : Nat) (positive : 0 < divisor) :
    remainder (-(magnitude : Int)) divisor = -((magnitude % divisor : Nat) : Int) := by
  have parts := Nat.div_add_mod magnitude divisor
  rw [remainder, quotient_neg magnitude divisor positive, Int.mul_neg, ← Int.natCast_mul]
  omega

theorem lowDigit_neg (radix : Radix) (magnitude : Nat) :
    lowDigit radix (-(magnitude : Int)) = magnitude % radix.value := by
  rw [lowDigit, remainder_neg magnitude radix.value radix.value_pos, Int.neg_neg, Int.toNat_natCast]

/-- What the quotient leaves, without taking a remainder. -/
theorem quotient_mul_sub_neg (magnitude divisor : Nat) (positive : 0 < divisor) :
    quotient (-(magnitude : Int)) divisor * divisor - -(magnitude : Int) = (magnitude % divisor : Nat) := by
  have parts := Nat.div_add_mod magnitude divisor
  rw [quotient_neg magnitude divisor positive, Int.neg_mul, ← Int.natCast_mul, Nat.mul_comm]
  omega

theorem leftOver_neg (magnitude divisor : Nat) (positive : 0 < divisor) :
    leftOver (-(magnitude : Int)) divisor = magnitude % divisor := by
  rw [leftOver, quotient_mul_sub_neg magnitude divisor positive, Int.toNat_natCast]

/-! ## Digit by digit -/

/-- The lowest digit is written, and then those of the quotient. -/
theorem writeDigits_eq (radix : Radix) (value : Int) (line : Line) :
    writeDigits radix value line =
      if value ≤ -radix.value then
        writeDigits radix (quotient value radix.value) (line.write (digitChar (lowDigit radix value)))
      else line.write (digitChar (lowDigit radix value)) := by
  rw [writeDigits, quotients]
  split <;> rfl

theorem writeDigits_written (radix : Radix) (magnitude : Nat) (line : Line) :
    (writeDigits radix (-(magnitude : Int)) line).written =
      (canonicalDigits radix magnitude).map digitChar ++ line.written := by
  -- The induction follows the quotients; what is written later goes in front of the line so far.
  induction magnitude using Nat.strongRecOn generalizing line with
  | ind magnitude ih =>
    rw [writeDigits_eq, lowDigit_neg, quotient_neg magnitude radix.value radix.value_pos]
    split
    next large =>
      have reach : radix.value ≤ magnitude := by omega
      have shrinks : magnitude / radix.value < magnitude :=
        Nat.div_lt_self (Nat.lt_of_lt_of_le radix.value_pos reach) radix.two_le
      rw [ih (magnitude / radix.value) shrinks, canonicalDigits_of_le radix reach]
      simp [Line.write]
    next small =>
      have below : magnitude < radix.value := by omega
      rw [Nat.mod_eq_of_lt below, canonicalDigits_of_lt radix below]
      simp [Line.write]

/-! ## In pairs -/

theorem getD_tensTable {pair : Nat} (small : pair < 100) : tensTable.getD pair '0' = digitChar (pair / 10) := by
  simp [tensTable, List.getD, small]

theorem getD_onesTable {pair : Nat} (small : pair < 100) : onesTable.getD pair '0' = digitChar (pair % 10) := by
  simp [onesTable, List.getD, small]

theorem canonicalDigits_ten_pair {magnitude : Nat} (large : 100 ≤ magnitude) :
    canonicalDigits Radix.ten magnitude =
      canonicalDigits Radix.ten (magnitude / 100) ++ [magnitude % 100 / 10, magnitude % 100 % 10] := by
  have first : Radix.ten.value ≤ magnitude := by simp only [Radix.ten]; omega
  have second : Radix.ten.value ≤ magnitude / Radix.ten.value := by simp only [Radix.ten]; omega
  rw [canonicalDigits_of_le Radix.ten first, canonicalDigits_of_le Radix.ten second, Nat.div_div_eq_div_mul,
    List.append_assoc]
  simp only [Radix.ten]
  have tens : magnitude / 10 % 10 = magnitude % 100 / 10 := by omega
  have ones : magnitude % 10 = magnitude % 100 % 10 := by omega
  rw [tens, ones]
  rfl

theorem writePairs_written (magnitude : Nat) (line : Line) :
    (writePairs (-(magnitude : Int)) line).written =
      (canonicalDigits Radix.ten magnitude).map digitChar ++ line.written := by
  induction magnitude using Nat.strongRecOn generalizing line with
  | ind magnitude ih =>
    rw [writePairs]
    split
    next large =>
      -- A quotient by a hundred leaves two digits at once.
      have hundred : 100 ≤ magnitude := by omega
      have left := leftOver_neg magnitude 100 (by decide)
      have rest := quotient_neg magnitude 100 (by decide)
      have small : magnitude % 100 < 100 := Nat.mod_lt _ (by decide)
      simp only [Nat.cast_ofNat] at left rest
      rw [left, rest]
      dsimp only
      rw [getD_onesTable small, getD_tensTable small, ih (magnitude / 100) (by omega),
        canonicalDigits_ten_pair hundred]
      simp [Line.write]
    next small =>
      have left := leftOver_neg magnitude 10 (by decide)
      have rest := quotient_neg magnitude 10 (by decide)
      simp only [Nat.cast_ofNat] at left rest
      rw [left, rest]
      dsimp only
      -- What is below a hundred has one digit or two.
      split
      next two =>
        have first : Radix.ten.value ≤ magnitude := by simp only [Radix.ten]; omega
        have last : magnitude / Radix.ten.value < Radix.ten.value := by simp only [Radix.ten]; omega
        have tens : (- -((magnitude / 10 : Nat) : Int)).toNat = magnitude / 10 := by omega
        rw [canonicalDigits_of_le Radix.ten first, canonicalDigits_of_lt Radix.ten last, tens]
        simp [Line.write, Radix.ten]
      next one =>
        have only : magnitude < 10 := by omega
        rw [canonicalDigits_of_lt Radix.ten only, Nat.mod_eq_of_lt only]
        simp [Line.write]

/-! ## The two ways agree -/

theorem descend_eq (value : Int) : descend value = -(value.natAbs : Int) := by
  unfold descend
  split <;> omega

/-- A minus goes in front of the digits, and only of a negative number. -/
theorem writeMinus_written {radix : Radix} {line : Line} {value : Int}
    (digits : line.written = (canonicalDigits radix value.natAbs).map digitChar) :
    (line.writeMinus value).written = canonical radix value := by
  rw [Line.writeMinus, canonical, ← digits]
  split <;> rfl

theorem positional_written (bits : Nat) (radix : Radix) (value : Int) :
    (positional bits radix value).written = canonical radix value := by
  apply writeMinus_written
  rw [descend_eq, writeDigits_written, Line.blank, List.append_nil]

theorem decimal_written (value : Int) : (decimal value).written = canonical Radix.ten value := by
  apply writeMinus_written
  rw [descend_eq, writePairs_written, Line.blank, List.append_nil]

theorem spell_written (bits : Nat) (radix : Radix) (value : Int) :
    (spell bits radix value).written = canonical radix value := by
  unfold spell
  split
  next ten => rw [decimal_written, ten]
  · exact positional_written bits radix value

/-! ## What it denotes -/

theorem digitString_map_digitChar {radix : Radix} {digits : List Nat}
    (small : ∀ digit ∈ digits, digit < radix.value) : DigitString radix (digits.map digitChar) digits := by
  induction digits with
  | nil => exact .nil
  | cons digit digits ih =>
    obtain ⟨first, rest⟩ := List.forall_mem_cons.mp small
    exact .cons ⟨⟨Nat.lt_of_lt_of_le first radix.le_max, .inl rfl⟩, first⟩ (ih rest)

theorem canonicalDigits_lt (radix : Radix) (magnitude : Nat) :
    ∀ digit ∈ canonicalDigits radix magnitude, digit < radix.value := by
  have two := radix.two_le
  intro digit member
  unfold canonicalDigits at member
  split at member
  · rw [List.mem_singleton.mp member]
    omega
  · exact Nat.digits_lt_base two (List.mem_reverse.mp member)

theorem canonicalDigits_ne_nil (radix : Radix) (magnitude : Nat) : canonicalDigits radix magnitude ≠ [] := by
  unfold canonicalDigits
  split
  · simp
  next nonzero =>
    rw [ne_eq, List.reverse_eq_nil_iff]
    exact Nat.digits_ne_nil_iff_ne_zero.mpr nonzero

theorem valueOf_canonicalDigits (radix : Radix) (magnitude : Nat) :
    radix.valueOf (canonicalDigits radix magnitude) = magnitude := by
  unfold canonicalDigits Radix.valueOf
  split
  next zero => simp [zero]
  · rw [List.reverse_reverse, Nat.ofDigits_digits]

/-- The sign that a number is written with. -/
def writtenSign (value : Int) : Sign := if value < 0 then .minus else .absent

theorem apply_writtenSign (value : Int) : (writtenSign value).apply value.natAbs = value := by
  unfold writtenSign
  split <;> simp only [Sign.apply] <;> omega

theorem denotes_canonical (radix : Radix) (value : Int) :
    Denotes radix (canonical radix value) (writtenSign value) value.natAbs := by
  refine ⟨(canonicalDigits radix value.natAbs).map digitChar, canonicalDigits radix value.natAbs, ?_, ?_, ?_,
    (valueOf_canonicalDigits ..).symm⟩
  · unfold canonical writtenSign
    split <;> rfl
  · simpa using canonicalDigits_ne_nil radix value.natAbs
  · exact digitString_map_digitChar (canonicalDigits_lt radix value.natAbs)

theorem denotesSigned_canonical (radix : Radix) (value : Int) : DenotesSigned radix (canonical radix value) value :=
  ⟨_, _, denotes_canonical radix value, (apply_writtenSign value).symm⟩

/-- What is not negative is written without a sign. -/
theorem denotesUnsigned_canonical (radix : Radix) {value : Int} (nonneg : 0 ≤ value) :
    DenotesUnsigned radix (canonical radix value) value.natAbs := by
  have bare : writtenSign value = .absent := if_neg (by omega)
  refine ⟨_, ?_, denotes_canonical radix value⟩
  rw [bare]
  decide

end MachineInt.Numeral
