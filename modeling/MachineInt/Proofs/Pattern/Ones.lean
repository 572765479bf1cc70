import MachineInt.Proofs.Pattern.Ends
import Mathlib.Data.Nat.Digits.Lemmas

/-!
# The number of ones

The ones of a word are added up in fields that lie side by side in one number: 32 fields of one bit, then half as many of
twice the width, each with the sum of two neighbours. What the fields hold is followed as a list, the lowest field first.
No count is larger than the width of its field, so no field reaches into the next one, and the sum of the list stays the
number of ones. From bytes on nothing is masked out on the way: the lowest byte has the sum in the end, whatever is
above it.
-/

namespace MachineInt

/-- Every other entry, from the first one on. -/
def alternate : List Nat → List Nat
  | [] => []
  | [last] => [last]
  | low :: _ :: rest => low :: alternate rest

/-- Each two entries added up. -/
def neighbourSums : List Nat → List Nat
  | [] => []
  | [last] => [last]
  | low :: high :: rest => (low + high) :: neighbourSums rest

theorem alternate_cons (low : Nat) (rest : List Nat) : alternate (low :: rest) = low :: alternate rest.tail := by
  cases rest <;> rfl

theorem length_neighbourSums (counts : List Nat) :
    (neighbourSums counts).length = (counts.length + 1) / 2 := by
  fun_induction neighbourSums counts <;> grind

theorem sum_neighbourSums (counts : List Nat) : (neighbourSums counts).sum = counts.sum := by
  fun_induction neighbourSums counts <;> grind

theorem neighbourSums_le {counts : List Nat} {bound : Nat} (small : ∀ count ∈ counts, count ≤ bound) :
    ∀ count ∈ neighbourSums counts, count ≤ 2 * bound := by
  fun_induction neighbourSums counts with
  | case1 => simp
  | case2 last => grind
  | case3 low high rest ih =>
    simp only [List.mem_cons, forall_eq_or_imp] at small ⊢
    obtain ⟨lowSmall, highSmall, restSmall⟩ := small
    exact ⟨by omega, ih restSmall⟩

/-! ## Fields of a number -/

/-- Ones in the lower one of each two fields. -/
def fieldMask (size count : Nat) : Nat := Nat.ofDigits (2 ^ (2 * size)) (List.replicate count (2 ^ size - 1))

/-- A mask takes the lowest field, drops the one above it and goes on with the number above both. -/
theorem land_fieldMask_succ (number size count : Nat) :
    number &&& fieldMask size (count + 1) =
      number % 2 ^ size + 2 ^ (2 * size) * (number / 2 ^ (2 * size) &&& fieldMask size count) := by
  have narrow : 2 ^ size - 1 < 2 ^ (2 * size) := by
    have wider : 2 ^ size ≤ 2 ^ (2 * size) := Nat.pow_le_pow_right (by decide) (by omega)
    have some : 0 < 2 ^ size := by positivity
    omega
  -- The mask is cut above its two lowest fields, and so is the number; nothing is carried over the cut.
  have mask : fieldMask size (count + 1) = 2 ^ size - 1 + 2 ^ (2 * size) * fieldMask size count := by
    simp [fieldMask, List.replicate_succ, Nat.ofDigits_cons]
  have low : (number &&& fieldMask size (count + 1)) % 2 ^ (2 * size) = number % 2 ^ size := by
    rw [Nat.and_mod_two_pow, mask, Nat.add_mul_mod_self_left, Nat.mod_eq_of_lt narrow,
      Nat.and_two_pow_sub_one_eq_mod, Nat.mod_mod_of_dvd _ (Nat.pow_dvd_pow 2 (by omega))]
  have high : (number &&& fieldMask size (count + 1)) / 2 ^ (2 * size) =
      number / 2 ^ (2 * size) &&& fieldMask size count := by
    rw [Nat.and_div_two_pow, mask, Nat.add_mul_div_left _ _ (by positivity), Nat.div_eq_of_lt narrow, Nat.zero_add]
  rw [← low, ← high, Nat.mod_add_div]

theorem ofDigits_cons_div {size low : Nat} (small : low < 2 ^ size) (rest : List Nat) :
    Nat.ofDigits (2 ^ size) (low :: rest) / 2 ^ size = Nat.ofDigits (2 ^ size) rest := by
  rw [Nat.ofDigits_cons, Nat.add_mul_div_left _ _ (by positivity), Nat.div_eq_of_lt small, Nat.zero_add]

theorem ofDigits_land_fieldMask {size count : Nat} {counts : List Nat} (small : ∀ field ∈ counts, field < 2 ^ size)
    (all : counts.length ≤ 2 * count) :
    Nat.ofDigits (2 ^ size) counts &&& fieldMask size count = Nat.ofDigits (2 ^ (2 * size)) (alternate counts) := by
  have double : 2 ^ (2 * size) = 2 ^ size * 2 ^ size := by rw [two_mul, pow_add]
  -- The mask has to be as long as the list, so its length goes down with two entries of the list at a time.
  fun_induction alternate counts generalizing count with
  | case1 => simp
  | case2 last =>
    obtain ⟨count, rfl⟩ : ∃ more, count = more + 1 := Nat.exists_eq_add_one.mpr (by grind)
    have lastSmall : last < 2 ^ size := by simpa using small
    rw [land_fieldMask_succ, double, ← Nat.div_div_eq_div_mul, ofDigits_cons_div lastSmall, Nat.ofDigits_cons,
      Nat.ofDigits_nil]
    simp [Nat.mod_eq_of_lt lastSmall]
  | case3 low high rest ih =>
    obtain ⟨count, rfl⟩ : ∃ more, count = more + 1 := Nat.exists_eq_add_one.mpr (by grind)
    simp only [List.mem_cons, forall_eq_or_imp] at small
    obtain ⟨lowSmall, highSmall, restSmall⟩ := small
    have above : Nat.ofDigits (2 ^ size) (low :: high :: rest) / 2 ^ (2 * size) = Nat.ofDigits (2 ^ size) rest := by
      rw [double, ← Nat.div_div_eq_div_mul, ofDigits_cons_div lowSmall, ofDigits_cons_div highSmall]
    rw [land_fieldMask_succ, above, ih restSmall (by grind), Nat.ofDigits_cons, Nat.add_mul_mod_self_left,
      Nat.mod_eq_of_lt lowSmall, Nat.ofDigits_cons]

theorem ofDigits_shiftRight {size : Nat} {counts : List Nat} (small : ∀ field ∈ counts, field < 2 ^ size) :
    Nat.ofDigits (2 ^ size) counts >>> size = Nat.ofDigits (2 ^ size) counts.tail := by
  rw [Nat.shiftRight_eq_div_pow, Nat.ofDigits_div_eq_ofDigits_tail (by positivity) _ small]

theorem ofDigits_alternate (size : Nat) (counts : List Nat) :
    Nat.ofDigits (2 ^ size) counts = Nat.ofDigits (2 ^ (2 * size)) (alternate counts) +
      2 ^ size * Nat.ofDigits (2 ^ (2 * size)) (alternate counts.tail) := by
  fun_induction alternate counts with
  | case1 => simp [alternate]
  | case2 last => simp [alternate]
  | case3 low high rest ih =>
    rw [List.tail_cons, alternate_cons]
    simp only [Nat.ofDigits_cons, ih]
    ring

theorem ofDigits_neighbourSums (base : Nat) (counts : List Nat) :
    Nat.ofDigits base (neighbourSums counts) =
      Nat.ofDigits base (alternate counts) + Nat.ofDigits base (alternate counts.tail) := by
  fun_induction neighbourSums counts with
  | case1 => simp [alternate]
  | case2 last => simp [alternate]
  | case3 low high rest ih =>
    rw [alternate_cons, List.tail_cons, List.tail_cons, alternate_cons]
    simp only [Nat.ofDigits_cons, ih]
    ring

/-! ## Adding up the fields -/

/-- Each entry added to the one before it. -/
def overlapSums : List Nat → List Nat
  | [] => []
  | [last] => [last]
  | low :: high :: rest => (low + high) :: overlapSums (high :: rest)

theorem length_overlapSums (counts : List Nat) : (overlapSums counts).length = counts.length := by
  fun_induction overlapSums counts <;> grind

theorem overlapSums_le {counts : List Nat} {bound : Nat} (small : ∀ count ∈ counts, count ≤ bound) :
    ∀ count ∈ overlapSums counts, count ≤ 2 * bound := by
  fun_induction overlapSums counts with
  | case1 => simp
  | case2 last => grind
  | case3 low high rest ih =>
    simp only [List.mem_cons, forall_eq_or_imp] at small ih ⊢
    obtain ⟨lowSmall, above⟩ := small
    exact ⟨by omega, ih above⟩

theorem ofDigits_overlapSums (base : Nat) (counts : List Nat) :
    Nat.ofDigits base (overlapSums counts) = Nat.ofDigits base counts + Nat.ofDigits base counts.tail := by
  fun_induction overlapSums counts with
  | case1 => simp
  | case2 last => simp
  | case3 low high rest ih =>
    simp only [List.tail_cons, Nat.ofDigits_cons] at ih ⊢
    rw [ih]
    ring

theorem alternate_overlapSums (counts : List Nat) : alternate (overlapSums counts) = neighbourSums counts := by
  fun_induction neighbourSums counts with
  | case1 => rfl
  | case2 last => rfl
  | case3 low high rest ih =>
    rw [overlapSums, alternate_cons, ← ih]
    cases rest <;> rfl

/-- The fields of a word, `size` bits each, hold counts that fit. -/
structure Tally (size number : Nat) (counts : List Nat) : Prop where
  number : number = Nat.ofDigits (2 ^ size) counts
  whole : size * counts.length = 32
  small : ∀ count ∈ counts, count ≤ size

theorem ofDigits_lt_of_whole {size : Nat} {counts : List Nat} (whole : size * counts.length = 32)
    (small : ∀ count ∈ counts, count < 2 ^ size) : Nat.ofDigits (2 ^ size) counts < 2 ^ 32 := by
  have some : size ≠ 0 := by
    rintro rfl
    simp at whole
  rw [← whole, pow_mul]
  exact Nat.ofDigits_lt_base_pow_length (Nat.one_lt_two_pow some) small

namespace Tally

def pairs (number : Nat) : Nat := number - (number >>> 1 &&& pairMask)

def nibbles (number : Nat) : Nat := (number &&& nibbleMask) + (number >>> 2 &&& nibbleMask)

def bytes (number : Nat) : Nat := (number + number >>> 4) &&& byteMask

def total (number : Nat) : Nat :=
  let halves := number + number >>> 8
  (halves + halves >>> 16) &&& countMask

/-- The number of ones in fields of one bit. -/
def ones (number : Nat) : Nat := total (bytes (nibbles (pairs number)))

/-- What is taken off in the first step was there. -/
theorem pairs_le (number : Nat) : number >>> 1 &&& pairMask ≤ number :=
  Nat.and_le_left.trans (Nat.shiftRight_le _ _)

variable {size number : Nat} {counts : List Nat}

theorem fits (tally : Tally size number counts) : ∀ count ∈ counts, count < 2 ^ size :=
  fun count within => (tally.small count within).trans_lt Nat.lt_two_pow_self

theorem lt (tally : Tally size number counts) : number < 2 ^ 32 := by
  rw [tally.number]
  exact ofDigits_lt_of_whole tally.whole tally.fits

theorem lower (tally : Tally size number counts) {count : Nat} (all : counts.length ≤ 2 * count) :
    number &&& fieldMask size count = Nat.ofDigits (2 ^ (2 * size)) (alternate counts) := by
  rw [tally.number, ofDigits_land_fieldMask tally.fits all]

theorem upper (tally : Tally size number counts) {count : Nat} (all : counts.length ≤ 2 * count) :
    number >>> size &&& fieldMask size count = Nat.ofDigits (2 ^ (2 * size)) (alternate counts.tail) := by
  rw [tally.number, ofDigits_shiftRight tally.fits,
    ofDigits_land_fieldMask (fun count within => tally.fits count (List.mem_of_mem_tail within)) (by grind)]

/-- Half as many fields of twice the width are the same word. -/
theorem of_neighbourSums (tally : Tally size number counts) {next : Nat} (even : counts.length % 2 = 0)
    (sums : next = Nat.ofDigits (2 ^ (2 * size)) (neighbourSums counts)) :
    Tally (2 * size) next (neighbourSums counts) := by
  refine ⟨sums, ?_, neighbourSums_le tally.small⟩
  have half : 2 * ((counts.length + 1) / 2) = counts.length := by omega
  rw [length_neighbourSums, mul_comm 2, mul_assoc, half, tally.whole]

/-- What the fields above have counted once too often is taken off. -/
theorem of_pairs (tally : Tally 1 number counts) : Tally 2 (pairs number) (neighbourSums counts) := by
  have mask : pairMask = fieldMask 1 16 := by decide
  have whole := tally.whole
  apply tally.of_neighbourSums (by omega)
  -- An upper field stands for twice its count in the wider one, and once it is taken off.
  rw [pairs, mask, tally.upper (by omega), tally.number, ofDigits_alternate, ofDigits_neighbourSums, pow_one]
  omega

theorem of_nibbles (tally : Tally 2 number counts) : Tally 4 (nibbles number) (neighbourSums counts) := by
  have mask : nibbleMask = fieldMask 2 8 := by decide
  have whole := tally.whole
  apply tally.of_neighbourSums (by omega)
  rw [nibbles, mask, tally.lower (by omega), tally.upper (by omega), ofDigits_neighbourSums]

/-- A number and the same number one field further down. -/
theorem add_shiftRight (tally : Tally size number counts) :
    number + number >>> size = Nat.ofDigits (2 ^ size) (overlapSums counts) := by
  rw [ofDigits_overlapSums, tally.number, ofDigits_shiftRight tally.fits]

/-- Four bits have room for the sum of two counts up to four. -/
theorem overlap_lt (tally : Tally 4 number counts) : ∀ count ∈ overlapSums counts, count < 2 ^ 4 :=
  fun count within => (overlapSums_le tally.small count within).trans_lt (by decide)

/-- It is enough to drop every other sum afterwards. -/
theorem of_bytes (tally : Tally 4 number counts) : Tally 8 (bytes number) (neighbourSums counts) := by
  have mask : byteMask = fieldMask 4 4 := by decide
  have whole := tally.whole
  apply tally.of_neighbourSums (by omega)
  -- Here the mask comes after the sum, and what it drops are sums across the borders of bytes.
  rw [bytes, mask, tally.add_shiftRight,
    ofDigits_land_fieldMask tally.overlap_lt (by rw [length_overlapSums]; omega), alternate_overlapSums]

theorem four_bytes (tally : Tally 8 number counts) :
    ∃ a b c d, counts = [a, b, c, d] ∧ number = a + 256 * (b + 256 * (c + 256 * d)) ∧
      a ≤ 8 ∧ b ≤ 8 ∧ c ≤ 8 ∧ d ≤ 8 := by
  obtain ⟨rfl, whole, small⟩ := tally
  obtain ⟨a, b, c, d, rfl⟩ := List.length_eq_four.mp (by omega : counts.length = 4)
  refine ⟨a, b, c, d, rfl, ?_, by simpa using small⟩
  simp [Nat.ofDigits_cons]

/-- No count above the lowest byte comes back into it. -/
theorem total_eq (tally : Tally 8 number counts) : total number = counts.sum := by
  obtain ⟨a, b, c, d, rfl, rfl, small⟩ := tally.four_bytes
  have mask : ∀ number, number &&& countMask = number % 64 := fun number => Nat.and_two_pow_sub_one_eq_mod number 6
  -- Moved down by a byte or two, the number has the counts above at the bottom.
  have once : (a + 256 * (b + 256 * (c + 256 * d))) / 256 = b + 256 * (c + 256 * d) := by omega
  have twice : (a + 256 * (b + 256 * (c + 256 * d)) + (b + 256 * (c + 256 * d))) / 65536 = c + d + 256 * d := by omega
  simp only [total, mask, Nat.shiftRight_eq_div_pow, Nat.reducePow, once, twice, List.sum_cons, List.sum_nil]
  omega

/-- The sum of the counts stays what it was in each step. -/
theorem ones_eq (tally : Tally 1 number counts) : ones number = counts.sum := by
  rw [ones, tally.of_pairs.of_nibbles.of_bytes.total_eq]
  simp only [sum_neighbourSums]

end Tally

/-! ## The same steps on patterns and on integers without a bound -/

namespace Pattern

/-- The bits from the lowest one on, as numbers. -/
def bits (x : Pattern) : List Nat := (List.range 32).map fun place => (x.getLsbD place).toNat

theorem ofDigits_testBit (number count : Nat) :
    Nat.ofDigits 2 ((List.range count).map fun place => (number.testBit place).toNat) = number % 2 ^ count := by
  induction count with
  | zero => simp [Nat.mod_one]
  | succ count ih =>
    rw [List.range_succ, List.map_append, List.map_singleton, Nat.ofDigits_append, ih, Nat.ofDigits_singleton,
      List.length_map, List.length_range, Nat.mod_pow_succ, Nat.toNat_testBit]

theorem tally_bits (x : Pattern) : Tally 1 x.toNat x.bits where
  number := by
    rw [bits, pow_one]
    exact ((ofDigits_testBit x.toNat 32).trans (Nat.mod_eq_of_lt x.isLt)).symm
  whole := rfl
  small := by
    intro bit within
    obtain ⟨place, -, rfl⟩ := List.mem_map.mp within
    exact Bool.toNat_le _

theorem sum_bits (x : Pattern) : x.bits.sum = x.onePlaces.card := by
  have bit : ∀ one : Bool, one.toNat = if one = true then 1 else 0 := by decide
  rw [onePlaces, Finset.card_filter, bits]
  simp only [bit]
  rfl

theorem toNat_pairs (x : Pattern) : (x - ((x >>> 1) &&& BitVec.ofNat 32 pairMask)).toNat = Tally.pairs x.toNat := by
  have below : (x >>> 1) &&& BitVec.ofNat 32 pairMask ≤ x := Tally.pairs_le x.toNat
  rw [BitVec.toNat_sub_of_le below]
  rfl

variable {x : Pattern} {counts : List Nat}

theorem toNat_nibbles (tally : Tally 2 x.toNat counts) :
    ((x &&& BitVec.ofNat 32 nibbleMask) + ((x >>> 2) &&& BitVec.ofNat 32 nibbleMask)).toNat =
      Tally.nibbles x.toNat :=
  BitVec.toNat_add_of_lt tally.of_nibbles.lt

theorem toNat_bytes (tally : Tally 4 x.toNat counts) :
    ((x + (x >>> 4)) &&& BitVec.ofNat 32 byteMask).toNat = Tally.bytes x.toNat := by
  have room : x.toNat + x.toNat >>> 4 < 2 ^ 32 := by
    rw [tally.add_shiftRight]
    exact ofDigits_lt_of_whole (by rw [length_overlapSums, tally.whole]) tally.overlap_lt
  rw [BitVec.toNat_and, BitVec.toNat_add_of_lt room]
  rfl

/-- From bytes on the sums stay far below the top, so that nothing is cut off though nothing is masked out. -/
theorem toNat_total (tally : Tally 8 x.toNat counts) :
    (((x + (x >>> 8)) + ((x + (x >>> 8)) >>> 16)) &&& BitVec.ofNat 32 countMask).toNat = Tally.total x.toNat := by
  obtain ⟨a, b, c, d, -, number, small⟩ := tally.four_bytes
  have halves : (x + (x >>> 8)).toNat = x.toNat + x.toNat >>> 8 := by
    apply BitVec.toNat_add_of_lt
    rw [BitVec.toNat_ushiftRight, Nat.shiftRight_eq_div_pow]
    omega
  have whole : ((x + (x >>> 8)) + ((x + (x >>> 8)) >>> 16)).toNat =
      x.toNat + x.toNat >>> 8 + (x.toNat + x.toNat >>> 8) >>> 16 := by
    rw [← halves]
    apply BitVec.toNat_add_of_lt
    rw [BitVec.toNat_ushiftRight, halves]
    simp only [Nat.shiftRight_eq_div_pow]
    omega
  rw [BitVec.toNat_and, whole]
  rfl

theorem toNat_ones (x : Pattern) : x.ones = Tally.ones x.toNat := by
  -- Each step is that of numbers because the tally before it leaves room.
  have paired := x.tally_bits.of_pairs
  rw [← toNat_pairs] at paired
  have added := paired.of_nibbles
  rw [← toNat_nibbles paired] at added
  have bytewise := added.of_bytes
  rw [← toNat_bytes added] at bytewise
  rw [Tally.ones, ← toNat_pairs, ← toNat_nibbles paired, ← toNat_bytes added, ← toNat_total bytewise]
  rfl

theorem ones_eq (x : Pattern) : x.ones = x.onePlaces.card := by
  rw [toNat_ones, x.tally_bits.ones_eq, sum_bits]

end Pattern

namespace OnIntegers

theorem land_natCast (number mask : Nat) : (number : Int).land mask = (number &&& mask : Nat) := rfl

/-- Nothing is cut off on the way, so it does not matter that there is no end to cut at. -/
theorem ones_natCast (value : Int) : ones value = Tally.ones (pattern value).toNat := by
  have word : low value = (pattern value).toNat := by rw [low_eq, pattern, natCast_toNat_ofInt]
  rw [ones, word]
  generalize (pattern value).toNat = number
  have paired : (number : Int) - (number >>> 1 &&& pairMask : Nat) = Tally.pairs number :=
    (Int.natCast_sub (Tally.pairs_le number)).symm
  simp only [down_natCast, land_natCast, paired, ← Nat.cast_add]
  rfl

theorem ones_eq (value : Int) : ones value = MachineInt.ones value := by
  rw [ones_natCast, MachineInt.ones, Pattern.toNat_ones]

end OnIntegers

/-- The parallel sum is the number of places from 0 to 31 at which the integer modulo `2 ^ 32` has a one. -/
theorem ones_eq_card (value : Int) :
    ones value = (onePlaces value).card ∧ OnIntegers.ones value = (onePlaces value).card := by
  rw [OnIntegers.ones_eq, onePlaces_pattern, ones, Pattern.ones_eq]
  exact ⟨rfl, rfl⟩

end MachineInt
