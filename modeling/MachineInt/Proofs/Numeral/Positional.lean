import MachineInt.Proofs.Numeral.InCells
import MachineInt.Proofs.Numeral.Signed
import MachineInt.Proofs.TwosComplement

/-!
# Positional numerals in a word

The general way of writing has a cell for each bit of the word and one for the sign, and it computes in that word. Both
are enough. The least word has as many digits in radix two as there are bits, and a sign in front of them; everything
else is shorter. Every number on the way lies between the value, made negative, and zero, or else is a digit. So the
least word is the furthest that any of them goes, and its magnitude, for which the word has no room, never comes up.
-/

namespace MachineInt

open Numeral

namespace Numeral

/-! ## What is written down -/

/-- A step has been written down: the number that it starts from, what division leaves of it if there is one, and the
digit that comes off. -/
structure Noted (radix : Radix) (acts : List Act) (rest : Int) : Prop where
  start : .number rest ∈ acts
  left : rest ≤ -radix.value → .number (remainder rest radix.value) ∈ acts
  digit : .digit (-remainder rest radix.value) ∈ acts

theorem Noted.mono {radix : Radix} {acts more : List Act} {rest : Int} (noted : Noted radix acts rest)
    (kept : acts ⊆ more) : Noted radix more rest where
  start := kept noted.start
  left large := kept (noted.left large)
  digit := kept noted.digit

theorem acts_write {cells next : Cells} {place : Int} {c : Char} (wrote : cells.write place c = .ok next) :
    next.acts = .write place :: cells.acts := by
  obtain ⟨entry, _, done⟩ := (bind_eq_ok_iff ..).mp wrote
  cases done
  rfl

theorem acts_writeDigit {cells next : Cells} {place value : Int} (wrote : cells.writeDigit place value = .ok next) :
    next.acts = .write place :: .digit value :: cells.acts := by
  obtain ⟨c, _, done⟩ := (bind_eq_ok_iff ..).mp wrote
  exact acts_write done

/-- All quotients are written down, with what is done to them, and nothing that has been written down is lost. -/
theorem noted_digits (radix : Radix) (magnitude : Nat) {cells next : Cells} {place last : Int}
    (started : .number (-(magnitude : Int)) ∈ cells.acts)
    (ran : InCells.digits radix (-(magnitude : Int)) place cells = .ok (last, next)) :
    cells.acts ⊆ next.acts ∧ ∀ rest ∈ quotients radix (-(magnitude : Int)), Noted radix next.acts rest := by
  -- The induction follows the quotients, each of which is written down before the digits of the next come off.
  induction magnitude using Nat.strongRecOn generalizing place cells with
  | ind magnitude ih =>
    have positive := radix.value_pos
    rw [InCells.digits] at ran
    rw [quotients]
    split at ran
    next large =>
      have shrinks : magnitude / radix.value < magnitude := Nat.div_lt_self (by omega) radix.two_le
      obtain ⟨middle, wrote, later⟩ := (bind_eq_ok_iff ..).mp ran
      have acts := acts_writeDigit wrote
      rw [quotient_neg magnitude radix.value positive] at later ⊢
      obtain ⟨kept, noted⟩ := ih _ shrinks (List.mem_cons_self ..) later
      simp only [Cells.note, acts, List.cons_subset] at kept
      rw [if_pos large, List.forall_mem_cons]
      exact ⟨kept.2.2.2.2, ⟨kept.2.2.2.2 started, fun _ => kept.2.2.2.1, kept.2.2.1⟩, noted⟩
    next small =>
      obtain ⟨middle, wrote, done⟩ := (bind_eq_ok_iff ..).mp ran
      cases done
      have acts := acts_writeDigit wrote
      have below : magnitude < radix.value := by omega
      have whole : remainder (-(magnitude : Int)) radix.value = -(magnitude : Int) := by
        rw [remainder_neg magnitude radix.value positive, Nat.mod_eq_of_lt below]
      rw [if_neg small, List.forall_mem_singleton, acts]
      refine ⟨List.subset_cons_of_subset _ (List.subset_cons_self ..), ?_, fun large => absurd large small, ?_⟩
      · exact List.mem_cons_of_mem _ (List.mem_cons_of_mem _ started)
      · rw [whole]
        exact List.mem_cons_of_mem _ (List.mem_cons_self ..)

theorem acts_minus {value place last : Int} {cells next : Cells}
    (ran : InCells.minus value place cells = .ok (last, next)) : cells.acts ⊆ next.acts := by
  rw [InCells.minus] at ran
  split at ran
  · obtain ⟨middle, wrote, done⟩ := (bind_eq_ok_iff ..).mp ran
    cases done
    rw [acts_write wrote]
    exact List.subset_cons_self ..
  · cases ran
    exact List.Subset.refl _

theorem noted_positional {bits : Nat} {radix : Radix} {value place : Int} {cells : Cells}
    (ran : InCells.positional bits radix value = .ok (place, cells)) :
    ∀ rest ∈ quotients radix (descend value), Noted radix cells.acts rest := by
  rw [InCells.positional, descend_eq] at ran
  obtain ⟨⟨last, middle⟩, wrote, ended⟩ := (bind_eq_ok_iff ..).mp ran
  obtain ⟨_, noted⟩ := noted_digits radix value.natAbs (List.mem_cons_self ..) wrote
  rw [descend_eq]
  exact fun rest member => (noted rest member).mono (acts_minus ended)

/-! ## What is computed -/

/-- What may be done on the way to a positional numeral: digits are digits of the radix, and all numbers are words. -/
def InWord (bits : Nat) (radix : Radix) : Act → Prop
  | .number value => Fits bits value
  | .digit value => (0 ≤ value ∧ value ≤ radix.value - 1) ∧ Fits bits value
  | .pair _ | .write _ => True

/-- The value is no further from zero than the least word, and the word has room for all digits. -/
structure Roomy (bits : Nat) (value : Int) : Prop where
  positive : 0 < bits
  digits : (maxRadix : Int) ≤ signWeight bits
  magnitude : value.natAbs ≤ signWeight bits

section

variable {bits : Nat} {value : Int}

theorem roomy_word (low : -2 ^ 31 ≤ value) (high : value ≤ 2 ^ 31 - 1) : Roomy 32 value where
  positive := by decide
  digits := by decide
  magnitude := by
    rw [signWeight_word]
    omega

theorem roomy_pattern (nonneg : 0 ≤ value) (small : value ≤ 2 ^ 32 - 1) : Roomy 64 value where
  positive := by decide
  digits := by decide
  magnitude := by
    rw [signWeight_wide]
    omega

/-- Each bit may be needed for a digit, and no further one. -/
theorem Roomy.natAbs_lt (roomy : Roomy bits value) : value.natAbs < 2 ^ bits := by
  have whole : weight bits = (2 ^ bits : Nat) := by rw [weight, Nat.one_shiftLeft]
  have halves := weight_eq roomy.positive
  have half := signWeight_pos bits
  have short := roomy.magnitude
  omega

theorem Roomy.shows_positional (roomy : Roomy bits value) (radix : Radix) :
    ∃ cells, InCells.positional bits radix value = .ok ((positional bits radix value).cell + 1, cells) ∧
      Shows (InWord bits radix) cells (positional bits radix value) := by
  have half := signWeight_pos bits
  have enough := roomy.digits
  have short := roomy.magnitude
  have most := radix.le_max
  apply Numeral.shows_positional roomy.positive radix roomy.natAbs_lt
  · intro digit below
    refine ⟨⟨by omega, by omega⟩, ?_⟩
    change -signWeight bits ≤ (digit : Int) ∧ (digit : Int) < signWeight bits
    omega
  · -- From the value, made negative, up to zero the word has room for everything.
    intro number low high
    change -signWeight bits ≤ number ∧ number < signWeight bits
    omega

theorem not_fits_signWeight (bits : Nat) : ¬ Fits bits (signWeight bits) := fun fits => lt_irrefl _ fits.2

/-- Numbers and digits alike are words. -/
theorem Shows.fits {cells : Cells} {line : Line} {radix : Radix} (shows : Shows (InWord bits radix) cells line)
    {number : Int} (done : .number number ∈ cells.acts ∨ .digit number ∈ cells.acts) : Fits bits number := by
  rcases done with computed | asked
  · exact shows.acts _ computed rfl
  · exact (shows.acts _ asked rfl).2

end

/-! ## Where it is written -/

/-- So many places, from the last one down. -/
def placesDown (last count : Nat) : List Int := (List.range count).map fun step : Nat => (last : Int) - step

theorem mem_placesDown {last count : Nat} {place : Int} :
    place ∈ placesDown last count ↔ (last : Int) - count < place ∧ place ≤ last := by
  simp only [placesDown, List.mem_map, List.mem_range]
  constructor
  · rintro ⟨step, below, rfl⟩
    omega
  · rintro ⟨low, high⟩
    exact ⟨(last - place).toNat, by omega, by omega⟩

theorem nodup_placesDown (last count : Nat) : (placesDown last count).Nodup := by
  refine List.Nodup.map ?_ List.nodup_range
  intro step other same
  dsimp only at same
  omega

/-- A line is filled from its last cell on. -/
theorem Line.reverse_places {line : Line} {last : Nat} (whole : line.room = last + 1)
    (room : line.written.length ≤ line.room) : line.places.reverse = placesDown last line.written.length := by
  rw [places, ← List.map_reverse, List.reverse_range', List.map_map, placesDown]
  apply List.map_congr_left
  intro step member
  rw [List.mem_range] at member
  simp only [blanks, Function.comp_apply, Int.ofNat_eq_natCast]
  omega

theorem length_positional_pos (bits : Nat) (radix : Radix) (value : Int) :
    0 < (positional bits radix value).written.length := by
  have some := length_canonicalDigits_pos radix value.natAbs
  rw [positional_written, length_canonical]
  omega

theorem cell_positional (bits : Nat) (radix : Radix) (value : Int) :
    (positional bits radix value).cell + 1 = (bits : Int) + 1 - (positional bits radix value).written.length := by
  rw [Line.cell, room_positional]
  omega

end Numeral

/-- A word is written within its cells and within its width, and so is a pattern on the line of the wide word. The
writing comes to an end, with the numeral in the cells from some place on; it has gone from the last cell down to this
one and written each of them once. Every quotient has been written down with its remainder and its digit. All digits
that were asked for are digits of the radix, and all numbers that came up are words, so that the magnitude of the least
word is not one of them. -/
theorem positional_inside_word {bits : Nat} {value : Int}
    (sized : bits = 32 ∧ -2 ^ 31 ≤ value ∧ value ≤ 2 ^ 31 - 1 ∨ bits = 64 ∧ 0 ≤ value ∧ value ≤ 2 ^ 32 - 1)
    (radix : Radix) :
    ∃ cells, ∃ count : Nat, 0 < count ∧ count ≤ bits + 1 ∧
      InCells.positional bits radix value = .ok ((bits : Int) + 1 - count, cells) ∧
      cells.textFrom ((bits : Int) + 1 - count) = (positional bits radix value).text ∧
      cells.places.reverse = placesDown bits count ∧
      cells.places.Nodup ∧ (∀ place ∈ cells.places, 0 ≤ place ∧ place ≤ bits) ∧
      (∀ rest ∈ quotients radix (descend value), Noted radix cells.acts rest) ∧
      (∀ digit : Int, .digit digit ∈ cells.acts → 0 ≤ digit ∧ digit ≤ radix.value - 1) ∧
      (∀ number : Int, .number number ∈ cells.acts ∨ .digit number ∈ cells.acts →
        -2 ^ (bits - 1) ≤ number ∧ number ≤ 2 ^ (bits - 1) - 1) ∧
      .number (2 ^ (bits - 1)) ∉ cells.acts ∧ .digit (2 ^ (bits - 1)) ∉ cells.acts := by
  have roomy : Roomy bits value := by
    rcases sized with ⟨rfl, low, high⟩ | ⟨rfl, nonneg, small⟩
    · exact roomy_word low high
    · exact roomy_pattern nonneg small
  have room := length_positional_le roomy.positive radix roomy.natAbs_lt
  have whole := room_positional bits radix value
  obtain ⟨cells, ran, shown⟩ := roomy.shows_positional radix
  rw [cell_positional] at ran
  -- The order of the writing is read off the line that the cells show; all else about places follows from it.
  have down := Line.reverse_places whole (by omega)
  rw [← shown.places] at down
  rw [← signWeight_eq_pow]
  refine ⟨cells, _, length_positional_pos bits radix value, room, ran, ?_, down, ?_, ?_, noted_positional ran, ?_, ?_, ?_,
    ?_⟩
  · rw [← cell_positional, shown.textFrom (by omega)]
  · rw [← List.nodup_reverse, down]
    exact nodup_placesDown _ _
  · intro place member
    rw [← List.mem_reverse, down, mem_placesDown] at member
    omega
  · intro digit asked
    exact (shown.acts _ asked rfl).1
  · intro number done
    have fits := shown.fits done
    exact ⟨fits.1, Int.le_sub_one_of_lt fits.2⟩
  · intro computed
    exact not_fits_signWeight bits (shown.fits (.inl computed))
  · intro asked
    exact not_fits_signWeight bits (shown.fits (.inr asked))

/-- The least word in radix two takes all cells, down to the first one. -/
theorem positional_inside_word_least :
    (32 = 32 ∧ -2 ^ 31 ≤ (-2147483648 : Int) ∧ (-2147483648 : Int) ≤ 2 ^ 31 - 1 ∨
      32 = 64 ∧ 0 ≤ (-2147483648 : Int) ∧ (-2147483648 : Int) ≤ 2 ^ 32 - 1) ∧
    ∃ cells, InCells.positional 32 ⟨2, by decide, by decide⟩ (-2147483648) = .ok (0, cells) ∧
      cells.places.reverse = placesDown 32 33 ∧ .number 2147483648 ∉ cells.acts := by
  have sized : 32 = 32 ∧ -2 ^ 31 ≤ (-2147483648 : Int) ∧ (-2147483648 : Int) ≤ 2 ^ 31 - 1 ∨
      32 = 64 ∧ 0 ≤ (-2147483648 : Int) ∧ (-2147483648 : Int) ≤ 2 ^ 32 - 1 := .inl (by decide)
  obtain ⟨cells, count, _, _, ran, _, down, _, _, _, _, _, never, _⟩ :=
    positional_inside_word sized ⟨2, by decide, by decide⟩
  have front : (InCells.positional 32 ⟨2, by decide, by decide⟩ (-2147483648)).map Prod.fst = .ok 0 := by
    decide +kernel
  rw [ran] at front
  have filled : ((32 : Nat) : Int) + 1 - count = 0 := Except.ok.inj front
  obtain rfl : count = 33 := by omega
  exact ⟨sized, cells, ran, down, never⟩

end MachineInt
