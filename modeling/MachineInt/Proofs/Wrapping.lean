import MachineInt.Proofs.Pattern.OnIntegers

/-!
# Words of any width

A width is any integer, and a word needs a sign bit, so a width must be one at least. Then wrapping is settled by what
it gives: the only word of that width in the class of the integer. All laws follow from the classes: words are left as
they are, a narrower word can be cut from a wider one, the unsigned view and the word determine each other, and sums may
be wrapped before they are taken.

Integers without a bound are wrapped by a mask, whose width comes from a shift that must not be negative. The mask does
to a negative integer what it does to any other, so this is the same wrapping at each width, and the same error where
there is no such width.
-/

namespace MachineInt

/-! ## Classes -/

section

variable {bits : Nat}

theorem wrap_modEq (bits : Nat) (value : Int) : wrap bits value ≡ value [ZMOD 2 ^ bits] :=
  unsigned_eq_iff_modEq.mp (unsigned_wrap bits value)

/-- There is one word of the width in the class of an integer. -/
theorem eq_wrap_iff (positive : 0 < bits) (value word : Int) :
    word = wrap bits value ↔ word ≡ value [ZMOD 2 ^ bits] ∧ Fits bits word := by
  constructor
  · rintro rfl
    exact ⟨wrap_modEq bits value, fits_wrap positive value⟩
  · rintro ⟨same, fits⟩
    rw [← wrap_eq_iff_modEq.mpr same, wrap_of_fits positive fits]

theorem wrap_eq_self_iff (positive : 0 < bits) (value : Int) : wrap bits value = value ↔ Fits bits value := by
  rw [eq_comm, eq_wrap_iff positive]
  exact and_iff_right (Int.ModEq.refl value)

/-- The class of an integer settles its class for any divisor of the modulus. -/
theorem wrap_wrap {narrow : Nat} (wider : narrow ≤ bits) (value : Int) :
    wrap narrow (wrap bits value) = wrap narrow value :=
  wrap_eq_iff_modEq.mpr ((wrap_modEq bits value).of_dvd (pow_dvd_pow 2 wider))

theorem wrap_add_wrap (bits : Nat) (value other : Int) :
    wrap bits (wrap bits value + wrap bits other) = wrap bits (value + other) :=
  wrap_eq_iff_modEq.mpr ((wrap_modEq bits value).add (wrap_modEq bits other))

end

/-! ## Masks -/

/-- A width either is too small for a sign bit or counts the bits of a word. -/
theorem width_cases (bits : Int) : bits ≤ 0 ∨ ∃ width : Nat, 0 < width ∧ bits = width := by
  rcases le_or_gt bits 0 with small | positive
  · exact .inl small
  · exact .inr ⟨bits.toNat, by omega, by omega⟩

namespace OnIntegers

/-- One bit at a place. -/
def bitAt (place : Int) : Except ArithmeticError Int :=
  if place < 0 then .error .negativeShift else .ok (up 1 place.toNat)

def wrapAt (value bits : Int) : Except ArithmeticError Int := do
  let sign ← bitAt (bits - 1)
  let whole ← bitAt bits
  pure ((value + sign).land (whole - 1) - sign)

def fitsAt (value bits : Int) : Except ArithmeticError Bool := do
  let sign ← bitAt (bits - 1)
  pure (-sign ≤ value && value < sign)

def unsignedAt (value bits : Int) : Except ArithmeticError Int := do
  let whole ← bitAt bits
  pure (value.land (whole - 1))

theorem bitAt_natCast (place : Nat) : bitAt place = .ok (weight place) := by
  rw [bitAt, if_neg (by omega), Int.toNat_natCast, up, Int.shiftLeft_eq, one_mul, weight_eq_pow]

theorem bitAt_negative {place : Int} (negative : place < 0) : bitAt place = .error .negativeShift := if_pos negative

/-- The bit below the width is the sign bit. -/
theorem bitAt_sign {bits : Nat} (positive : 0 < bits) : bitAt (bits - 1) = .ok (signWeight bits) := by
  have lower : (bits : Int) - 1 = (bits - 1 : Nat) := by omega
  rw [lower, bitAt_natCast, signWeight]

theorem wrapAt_eq (value bits : Int) : wrapAt value bits = MachineInt.wrapAt value bits := by
  rcases width_cases bits with small | ⟨width, positive, rfl⟩
  · rw [wrapAt, bitAt_negative (by omega), MachineInt.wrapAt, signedWidth, if_pos small]
    rfl
  · rw [wrapAt, bitAt_sign positive, bitAt_natCast, wrapAt_of_pos positive, ← wrap_eq]
    rfl

theorem fitsAt_eq (value bits : Int) : fitsAt value bits = MachineInt.fitsAt value bits := by
  rcases width_cases bits with small | ⟨width, positive, rfl⟩
  · rw [fitsAt, bitAt_negative (by omega), MachineInt.fitsAt, signedWidth, if_pos small]
    rfl
  · rw [fitsAt, bitAt_sign positive, fitsAt_of_pos positive]
    exact congrArg Except.ok (Bool.decide_and ..).symm

theorem unsignedAt_eq (value bits : Int) : unsignedAt value bits = MachineInt.unsignedAt value bits := by
  rcases lt_or_ge bits 0 with negative | nonneg
  · rw [unsignedAt, bitAt_negative negative, MachineInt.unsignedAt, unsignedWidth, if_pos negative]
    rfl
  · obtain ⟨bits, rfl⟩ := Int.eq_ofNat_of_zero_le nonneg
    rw [unsignedAt, bitAt_natCast, unsignedAt_natCast, ← land_unsignedMax]
    rfl

end OnIntegers

/-! ## All widths -/

/-- Wrapping to a width that leaves room for a sign bit gives the only word of that width that is congruent to the
integer. Words are the integers that stay as they are; a narrower word is cut from a wider one as from the integer; the
unsigned view is the remainder, of the word as of the integer, and it wraps to the word; and a sum may be wrapped before
it is taken. At every width, masks on integers without a bound do the same. -/
theorem words_wrap {narrow bits : Int} (sized : 1 ≤ narrow) (wider : narrow ≤ bits) (value : Int) :
    (∃ word, wrapAt value bits = .ok word ∧
      (∀ other, other = word ↔ other ≡ value [ZMOD 2 ^ bits.toNat] ∧ fitsAt other bits = .ok true) ∧
      fitsAt value bits = .ok (decide (word = value)) ∧
      wrapAt word narrow = wrapAt value narrow ∧
      unsignedAt word bits = .ok (value % 2 ^ bits.toNat) ∧
      unsignedAt value bits = .ok (value % 2 ^ bits.toNat) ∧
      wrapAt (value % 2 ^ bits.toNat) bits = .ok word ∧
      ∀ other, ∃ addend, wrapAt other bits = .ok addend ∧ wrapAt (word + addend) bits = wrapAt (value + other) bits) ∧
    ∀ other size, OnIntegers.wrapAt other size = wrapAt other size ∧ OnIntegers.fitsAt other size = fitsAt other size ∧
      OnIntegers.unsignedAt other size = unsignedAt other size := by
  obtain ⟨narrow, rfl⟩ := Int.eq_ofNat_of_zero_le (by omega : 0 ≤ narrow)
  obtain ⟨bits, rfl⟩ := Int.eq_ofNat_of_zero_le (by omega : 0 ≤ bits)
  have positive : 0 < bits := by omega
  simp only [wrapAt_of_pos positive, wrapAt_of_pos (by omega : 0 < narrow), fitsAt_of_pos positive, unsignedAt_natCast,
    Int.toNat_natCast, Except.ok.injEq, decide_eq_true_eq, true_and, ← unsigned_eq_emod]
  refine ⟨⟨wrap bits value, rfl, eq_wrap_iff positive value, ?_, wrap_wrap (by omega) value, unsigned_wrap bits value,
    wrap_unsigned bits value, ?_⟩, ?_⟩
  · simp only [wrap_eq_self_iff positive]
  · exact fun other => ⟨_, rfl, wrap_add_wrap bits value other⟩
  · exact fun other size => ⟨OnIntegers.wrapAt_eq other size, OnIntegers.fitsAt_eq other size,
      OnIntegers.unsignedAt_eq other size⟩

/-- A negative integer in a word of 33 bits, and what a word of a single bit keeps of it. -/
theorem words_wrap_odd :
    ((1 : Int) ≤ 1 ∧ (1 : Int) ≤ 33 ∧ wrapAt (-4294967297) 33 = .ok 4294967295) ∧
    wrapAt 4294967295 1 = wrapAt (-4294967297) 1 ∧ fitsAt (-4294967297) 33 = .ok false := by
  obtain ⟨⟨word, wrapped, _, fits, cut, _⟩, _⟩ := words_wrap (by decide : (1 : Int) ≤ 1) (by decide : (1 : Int) ≤ 33)
    (-4294967297)
  cases wrapped
  exact ⟨⟨by decide, by decide, rfl⟩, cut, fits⟩

end MachineInt
