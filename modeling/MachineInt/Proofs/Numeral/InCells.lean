import MachineInt.Proofs.Numeral.Length

/-!
# Numerals in cells

The ways of writing once more, with nothing taken for granted. Cells are found by their places, and a place below zero
counts from the end, so a line that is too short would not stop the writing but be overwritten from behind. Tables are
looked into in the same way. Digits are asked for by integers of any size. What is done is written down: the cells that
are written, the digits and the entries that are asked for, and what the general way of writing computes.

None of this goes wrong: the cells are filled from the last one on, each of them once, and what they show at the end is
the line.
-/

namespace MachineInt.Numeral

/-- What would stop a numeral from being written. -/
inductive Slip
  | outside (place : Int)
  | noDigit (cause : DigitError)
  deriving DecidableEq, Repr

/-- What is done while a numeral is written. -/
inductive Act
  /-- A number is computed on the way to the digits. -/
  | number (value : Int)
  /-- The character of a digit is asked for. -/
  | digit (value : Int)
  /-- A table of pairs is looked into. -/
  | pair (index : Int)
  /-- A cell is written. -/
  | write (place : Int)
  deriving DecidableEq, Repr

def Act.place? : Act → Option Int
  | .write place => some place
  | _ => none

/-- Cells, and what has been done so far, the latest first. -/
structure Cells where
  content : List (Option Char)
  acts : List Act
  deriving DecidableEq, Repr

/-- The entry at a place; below zero, places count from behind the last entry. -/
def entryAt (length : Nat) (place : Int) : Except Slip Nat :=
  if 0 ≤ place ∧ place < length then .ok place.toNat
  else if -length ≤ place ∧ place < 0 then .ok (place + length).toNat
  else .error (.outside place)

namespace Cells

def blank (room : Nat) : Cells := ⟨List.replicate room none, []⟩

def note (cells : Cells) (act : Act) : Cells := { cells with acts := act :: cells.acts }

def write (cells : Cells) (place : Int) (c : Char) : Except Slip Cells := do
  let entry ← entryAt cells.content.length place
  pure ⟨cells.content.set entry (some c), .write place :: cells.acts⟩

def writeDigit (cells : Cells) (place value : Int) : Except Slip Cells := do
  let c ← (digitCharOf value).mapError .noDigit
  (cells.note (.digit value)).write place c

def writeEntry (cells : Cells) (place : Int) (table : List Char) (index : Int) : Except Slip Cells := do
  let entry ← entryAt table.length index
  (cells.note (.pair index)).write place (table.getD entry '0')

/-- Two digits in front of `place`, the ones first. -/
def writePair (cells : Cells) (place index : Int) : Except Slip Cells := do
  let cells ← cells.writeEntry (place - 1) onesTable index
  cells.writeEntry (place - 2) tensTable index

/-- The places that have been written, the latest first. -/
def places (cells : Cells) : List Int := cells.acts.filterMap Act.place?

/-- What the cells show; blank ones show nothing. -/
def text (cells : Cells) : String := String.ofList (cells.content.filterMap id)

/-- What the cells show from a place on. -/
def textFrom (cells : Cells) (place : Int) : String :=
  let first := if place < 0 then place + cells.content.length else place
  String.ofList ((cells.content.drop first.toNat).filterMap id)

end Cells

/-! ## The programs -/

namespace InCells

/-- Put a minus in front of what begins at `place`, if the value is negative. -/
def minus (value place : Int) (cells : Cells) : Except Slip (Int × Cells) :=
  if value < 0 then do
    let cells ← cells.write (place - 1) '-'
    pure (place - 1, cells)
  else pure (place, cells)

/-- Digits of a value that is not positive, from `place` down. -/
def digits (radix : Radix) (value place : Int) (cells : Cells) : Except Slip (Int × Cells) :=
  if value ≤ -radix.value then do
    let low := remainder value radix.value
    let rest := quotient value radix.value
    let cells ← (cells.note (.number low)).writeDigit place (-low)
    digits radix rest (place - 1) (cells.note (.number rest))
  else do
    let cells ← cells.writeDigit place (-value)
    pure (place, cells)
termination_by value.natAbs
decreasing_by
  have := radix.two_le
  exact natAbs_quotient_lt (by omega) (by omega)

def positional (bits : Nat) (radix : Radix) (value : Int) : Except Slip (Int × Cells) := do
  let start := descend value
  let (place, cells) ← digits radix start bits ((Cells.blank (bits + 1)).note (.number start))
  minus value place cells

/-- The digits of a value above minus a hundred that is not positive, in front of `place`. -/
def oneOrTwo (value place : Int) (cells : Cells) : Except Slip (Int × Cells) := do
  let tens := quotient value 10
  let cells ← cells.writeDigit (place - 1) (tens * 10 - value)
  if tens < 0 then do
    let cells ← cells.writeDigit (place - 2) (-tens)
    pure (place - 2, cells)
  else pure (place - 1, cells)

/-- Digits of a value that is not positive in pairs, in front of `place`. -/
def pairs (value place : Int) (cells : Cells) : Except Slip (Int × Cells) :=
  if value ≤ -100 then do
    let rest := quotient value 100
    let cells ← cells.writePair place (rest * 100 - value)
    pairs rest (place - 2) cells
  else oneOrTwo value place cells
termination_by value.natAbs
decreasing_by exact natAbs_quotient_lt (by omega) (by decide)

def decimal (value : Int) : Except Slip (Int × Cells) := do
  let size := decimalLength value
  let (place, cells) ← pairs (descend value) size (Cells.blank size)
  minus value place cells

/-- All that is on the cells for words of `bits` bits, from the first character on. -/
def positionalText (bits : Nat) (radix : Radix) (value : Int) : Except Slip String := do
  let (place, cells) ← positional bits radix value
  pure (cells.textFrom place)

/-- All that is on the cells of a decimal numeral. -/
def decimalText (value : Int) : Except Slip String := do
  let (_, cells) ← decimal value
  pure cells.text

end InCells

/-! ## Lines in cells -/

theorem room_writeMinus (line : Line) (value : Int) : (line.writeMinus value).room = line.room := by
  rw [Line.writeMinus]
  split <;> rfl

theorem room_writeDigits (radix : Radix) (value : Int) (line : Line) :
    (writeDigits radix value line).room = line.room := by
  rw [writeDigits]
  induction quotients radix value generalizing line with
  | nil => rfl
  | cons rest later ih => rw [List.foldl_cons, ih, Line.write]

theorem room_writePairs (value : Int) (line : Line) : (writePairs value line).room = line.room := by
  fun_induction writePairs value line with
  | case1 value line large pair ih => exact ih
  | case2 value line small tens line' two => rfl
  | case3 value line small tens line' one => rfl

namespace Line

/-- How many cells are still blank; they are the first ones. -/
def blanks (line : Line) : Nat := line.room - line.written.length

def cells (line : Line) : List (Option Char) := List.replicate line.blanks none ++ line.written.map some

/-- The places of the characters on the line, from left to right. -/
def places (line : Line) : List Int := (List.range' line.blanks line.written.length).map Int.ofNat

theorem room_write (line : Line) (c : Char) : (line.write c).room = line.room := rfl

theorem length_write (line : Line) (c : Char) : (line.write c).written.length = line.written.length + 1 := rfl

section

variable {line : Line} (c : Char) (room : line.written.length < line.room)
include room

/-- The next character goes to the last of the blank cells. -/
theorem blanks_write : line.blanks = (line.write c).blanks + 1 := by
  rw [blanks, blanks, room_write, length_write]
  omega

theorem cell_eq_blanks : line.cell = (line.write c).blanks := by
  rw [cell, blanks, room_write, length_write]
  omega

theorem cells_write : (line.write c).cells = line.cells.set (line.write c).blanks (some c) := by
  rw [cells, cells, blanks_write c room, List.replicate_succ', List.append_assoc,
    List.set_append_right _ _ (by simp)]
  simp [write]

theorem places_write : (line.write c).places = line.cell :: line.places := by
  rw [places, places, length_write, List.range'_succ, List.map_cons, ← blanks_write c room, cell_eq_blanks c room]
  rfl

end

theorem length_cells {line : Line} (room : line.written.length ≤ line.room) : line.cells.length = line.room := by
  rw [cells, List.length_append, List.length_replicate, List.length_map, blanks]
  omega

theorem filterMap_cells (line : Line) : line.cells.filterMap id = line.written := by
  simp [cells, List.filterMap_map]

end Line

/-! ## Writing -/

/-- The cells show the line, they were written in the order of its characters, and nothing else was done but what is
allowed. -/
structure Shows (allowed : Act → Prop) (cells : Cells) (line : Line) : Prop where
  content : cells.content = line.cells
  places : cells.places = line.places
  acts : ∀ act ∈ cells.acts, act.place? = none → allowed act

section

variable {allowed : Act → Prop} {cells : Cells} {line : Line}

theorem shows_blank (allowed : Act → Prop) (room : Nat) : Shows allowed (.blank room) (.blank room) where
  content := by simp [Cells.blank, Line.cells, Line.blanks, Line.blank]
  places := by simp [Cells.places, Cells.blank, Line.places, Line.blank]
  acts := by simp [Cells.blank]

theorem Shows.note (shows : Shows allowed cells line) (act : Act) (silent : act.place? = none)
    (fine : allowed act) : Shows allowed (cells.note act) line where
  content := shows.content
  places := by
    rw [Cells.places, Cells.note, List.filterMap_cons_none silent]
    exact shows.places
  acts := List.forall_mem_cons.mpr ⟨fun _ => fine, shows.acts⟩

/-- As long as the line has a blank cell, the cells have a place for the next character. -/
theorem Shows.write (shows : Shows allowed cells line) (place : Int) (c : Char) (here : place = line.cell)
    (room : line.written.length < line.room) :
    ∃ next, cells.write place c = .ok next ∧ Shows allowed next (line.write c) := by
  have length := Line.length_cells (Nat.le_of_lt room)
  have blanks := Line.cell_eq_blanks c room
  have fewer := Line.blanks_write c room
  rw [← here] at blanks
  -- The place is not negative, so it is not counted from the end.
  have inside : 0 ≤ place ∧ place < (line.cells.length : Nat) := by
    rw [length, blanks]
    simp only [Line.blanks] at fewer ⊢
    omega
  have entry : place.toNat = (line.write c).blanks := by omega
  refine ⟨⟨cells.content.set place.toNat (some c), .write place :: cells.acts⟩, ?_, ?_⟩
  · rw [Cells.write, entryAt, shows.content, if_pos inside]
    rfl
  · constructor
    · rw [shows.content, entry, Line.cells_write c room]
    · rw [Line.places_write c room, ← here, ← shows.places]
      rfl
    · refine List.forall_mem_cons.mpr ⟨?_, shows.acts⟩
      intro silent
      cases silent

theorem Shows.writeDigit {value : Int} {digit : Nat} (shows : Shows allowed cells line) (place : Int)
    (here : place = line.cell) (room : line.written.length < line.room) (same : value = digit)
    (small : digit < maxRadix) (fine : allowed (.digit value)) :
    ∃ next, cells.writeDigit place value = .ok next ∧ Shows allowed next (line.write (digitChar digit)) := by
  have found : digitCharOf value = .ok (digitChar digit) := by
    rw [digitCharOf, same, if_pos (by omega), Int.toNat_natCast]
  obtain ⟨next, wrote, shown⟩ := (shows.note _ rfl fine).write place (digitChar digit) here room
  refine ⟨next, ?_, shown⟩
  rw [Cells.writeDigit, found]
  exact wrote

theorem Shows.writeEntry {index : Int} {entry : Nat} (shows : Shows allowed cells line) (place : Int)
    (table : List Char) (here : place = line.cell) (room : line.written.length < line.room) (same : index = entry)
    (small : entry < table.length) (fine : allowed (.pair index)) :
    ∃ next, cells.writeEntry place table index = .ok next ∧
      Shows allowed next (line.write (table.getD entry '0')) := by
  have found : entryAt table.length index = .ok entry := by
    rw [entryAt, same, if_pos (by omega), Int.toNat_natCast]
  obtain ⟨next, wrote, shown⟩ := (shows.note _ rfl fine).write place (table.getD entry '0') here room
  refine ⟨next, ?_, shown⟩
  rw [Cells.writeEntry, found]
  exact wrote

/-- The minus takes the cell in front of the digits. -/
theorem Shows.minus {place : Int} (shows : Shows allowed cells line) (value : Int) (here : place = line.cell + 1)
    (room : line.written.length + (if value < 0 then 1 else 0) ≤ line.room) :
    ∃ next, InCells.minus value place cells = .ok ((line.writeMinus value).cell + 1, next) ∧
      Shows allowed next (line.writeMinus value) := by
  rw [InCells.minus, Line.writeMinus]
  split
  next negative =>
    rw [if_pos negative] at room
    obtain ⟨next, wrote, shown⟩ := shows.write (place - 1) '-' (by omega) (by omega)
    refine ⟨next, ?_, shown⟩
    rw [wrote, Line.cell_write, here, Int.add_sub_cancel, Int.sub_add_cancel]
    rfl
  next => exact ⟨cells, by rw [here]; rfl, shows⟩

theorem Shows.text (shows : Shows allowed cells line) : cells.text = line.text := by
  rw [Cells.text, shows.content, Line.filterMap_cells, Line.text]

/-- Nothing is lost when the blank cells are left out. -/
theorem Shows.textFrom (shows : Shows allowed cells line) (room : line.written.length ≤ line.room) :
    cells.textFrom (line.cell + 1) = line.text := by
  have first : line.cell + 1 = (line.blanks : Nat) := by
    simp only [Line.cell, Line.blanks]
    omega
  have after : line.cells.drop line.blanks = line.written.map some := by simp [Line.cells]
  rw [Cells.textFrom, first, if_neg (by omega), Int.toNat_natCast, shows.content, after, Line.text]
  simp [List.filterMap_map]

/-! ## Digit by digit -/

theorem Shows.digits (radix : Radix) (magnitude : Nat) (shows : Shows allowed cells line) (place : Int)
    (here : place = line.cell)
    (room : (canonicalDigits radix magnitude).length + line.written.length ≤ line.room)
    (asking : ∀ digit : Nat, digit < radix.value → allowed (.digit digit))
    (computing : ∀ value : Int, -magnitude ≤ value → value ≤ 0 → allowed (.number value)) :
    ∃ next, InCells.digits radix (-(magnitude : Int)) place cells =
        .ok ((writeDigits radix (-(magnitude : Int)) line).cell + 1, next) ∧
      Shows allowed next (writeDigits radix (-(magnitude : Int)) line) := by
  -- The induction follows the quotients; the room left is always that of the digits left.
  induction magnitude using Nat.strongRecOn generalizing place cells line with
  | ind magnitude ih =>
    have positive := radix.value_pos
    rw [InCells.digits, writeDigits_eq, lowDigit_neg, quotient_neg magnitude radix.value positive,
      remainder_neg magnitude radix.value positive]
    split
    next large =>
      have reach : radix.value ≤ magnitude := by omega
      have shrinks : magnitude / radix.value < magnitude := Nat.div_lt_self (by omega) radix.two_le
      have few := Nat.mod_lt magnitude positive
      have smaller := Nat.mod_le magnitude radix.value
      rw [length_canonicalDigits_of_le radix reach] at room
      generalize magnitude / radix.value = rest at *
      generalize magnitude % radix.value = digit at *
      have noted := shows.note (.number (-digit)) rfl (computing _ (by omega) (by omega))
      obtain ⟨middle, wrote, shown⟩ := noted.writeDigit place here (by omega) (Int.neg_neg digit)
        (Nat.lt_of_lt_of_le few radix.le_max) (by rw [Int.neg_neg]; exact asking digit few)
      have noted := shown.note (.number (-rest)) rfl (computing _ (by omega) (by omega))
      obtain ⟨next, ran, shown⟩ := ih rest shrinks noted (place - 1) (by rw [Line.cell_write, here])
        (by rw [Line.length_write, Line.room_write]; omega) (fun value above => computing value (by omega))
      refine ⟨next, ?_, shown⟩
      dsimp only
      rw [wrote]
      exact ran
    next small =>
      have below : magnitude < radix.value := by omega
      have some := length_canonicalDigits_pos radix magnitude
      rw [Nat.mod_eq_of_lt below]
      obtain ⟨next, wrote, shown⟩ := shows.writeDigit place here (by omega) (Int.neg_neg magnitude)
        (Nat.lt_of_lt_of_le below radix.le_max) (by rw [Int.neg_neg]; exact asking magnitude below)
      refine ⟨next, ?_, shown⟩
      rw [wrote, Line.cell_write, here, Int.sub_add_cancel]
      rfl

theorem room_positional (bits : Nat) (radix : Radix) (value : Int) :
    (positional bits radix value).room = bits + 1 := by
  rw [positional, room_writeMinus, room_writeDigits, Line.blank]

section Room

variable {bits : Nat} (positive : 0 < bits) (radix : Radix) {value : Int} (small : value.natAbs < 2 ^ bits)
include positive small

theorem length_positional_le : (positional bits radix value).written.length ≤ bits + 1 := by
  have short := length_canonicalDigits_le radix positive small
  rw [positional_written, length_canonical]
  split <;> omega

/-- A cell for each bit and one for the sign are enough for what the bits can hold. -/
theorem shows_positional (allowed : Act → Prop)
    (asking : ∀ digit : Nat, digit < radix.value → allowed (.digit digit))
    (computing : ∀ number : Int, -value.natAbs ≤ number → number ≤ 0 → allowed (.number number)) :
    ∃ cells, InCells.positional bits radix value = .ok ((positional bits radix value).cell + 1, cells) ∧
      Shows allowed cells (positional bits radix value) := by
  have short := length_canonicalDigits_le radix positive small
  have start := (shows_blank allowed (bits + 1)).note (.number (-value.natAbs)) rfl
    (computing _ (Int.le_refl _) (by omega))
  -- The first digit that comes out is the last one of the line.
  have last : (bits : Int) = (Line.blank (bits + 1)).cell := by
    rw [Line.cell_blank]
    omega
  obtain ⟨middle, ran, shown⟩ := start.digits radix value.natAbs bits last
    (by simp only [Line.blank, List.length_nil]; omega) asking computing
  have enough : (writeDigits radix (-(value.natAbs : Int)) (Line.blank (bits + 1))).written.length +
      (if value < 0 then 1 else 0) ≤ (writeDigits radix (-(value.natAbs : Int)) (Line.blank (bits + 1))).room := by
    rw [writeDigits_written, room_writeDigits, List.length_append, List.length_map]
    simp only [Line.blank, List.length_nil]
    split <;> omega
  obtain ⟨cells, ended, shown⟩ := shown.minus value rfl enough
  refine ⟨cells, ?_, ?_⟩
  · rw [InCells.positional, positional, descend_eq]
    dsimp only
    rw [ran]
    exact ended
  · rw [positional, descend_eq]
    exact shown

theorem positionalText_eq : InCells.positionalText bits radix value = .ok (positional bits radix value).text := by
  obtain ⟨cells, ran, shown⟩ := shows_positional positive radix small (fun _ => True) (fun _ _ => trivial)
    (fun _ _ _ => trivial)
  have room := length_positional_le positive radix small
  rw [← room_positional bits radix value] at room
  rw [InCells.positionalText, ran, ← shown.textFrom room]
  rfl

end Room

/-! ## In pairs -/

theorem Shows.writePair {index : Nat} (shows : Shows allowed cells line) (place : Int) (here : place = line.cell + 1)
    (room : line.written.length + 2 ≤ line.room) (small : index < 100) (fine : allowed (.pair index)) :
    ∃ next, cells.writePair place index = .ok next ∧
      Shows allowed next ((line.write (onesTable.getD index '0')).write (tensTable.getD index '0')) := by
  -- The two tables have an entry for each pair of digits.
  have listed : onesTable.length = 100 ∧ tensTable.length = 100 := by simp [onesTable, tensTable]
  obtain ⟨ones, wroteOnes, shown⟩ := shows.writeEntry (place - 1) onesTable (by omega) (by omega) rfl
    (by omega) fine
  obtain ⟨tens, wroteTens, shown⟩ := shown.writeEntry (place - 2) tensTable (by rw [Line.cell_write]; omega)
    (by rw [Line.length_write, Line.room_write]; omega) rfl (by omega) fine
  refine ⟨tens, ?_, shown⟩
  rw [Cells.writePair, wroteOnes]
  exact wroteTens

/-- What is below a hundred has one digit or two. -/
theorem Shows.oneOrTwo {magnitude : Nat} (small : magnitude < 100) (shows : Shows allowed cells line) (place : Int)
    (here : place = line.cell + 1)
    (room : (canonicalDigits .ten magnitude).length + line.written.length ≤ line.room)
    (asking : ∀ digit : Nat, digit < 10 → allowed (.digit digit)) :
    ∃ next, InCells.oneOrTwo (-(magnitude : Int)) place cells =
        .ok ((writePairs (-(magnitude : Int)) line).cell + 1, next) ∧
      Shows allowed next (writePairs (-(magnitude : Int)) line) := by
  have rest := quotient_neg magnitude 10 (by decide)
  have left := leftOver_neg magnitude 10 (by decide)
  have low := quotient_mul_sub_neg magnitude 10 (by decide)
  simp only [Nat.cast_ofNat] at rest left low
  have few : magnitude % 10 < 10 := Nat.mod_lt _ (by decide)
  have some := length_canonicalDigits_pos .ten magnitude
  rw [InCells.oneOrTwo, writePairs, if_neg (by omega)]
  dsimp only
  rw [low, rest, left]
  obtain ⟨ones, wroteOnes, shown⟩ := shows.writeDigit (place - 1) (by omega) (by omega) rfl
    (Nat.lt_of_lt_of_le few (by decide)) (asking _ few)
  rw [wroteOnes]
  change ∃ next, (if -((magnitude / 10 : Nat) : Int) < 0 then _ else _) = _ ∧ _
  split
  next two =>
    -- A numeral of two digits was given room for both.
    have reach : Radix.ten.value ≤ magnitude := by simp only [Radix.ten]; omega
    have more := length_canonicalDigits_pos .ten (magnitude / Radix.ten.value)
    rw [length_canonicalDigits_of_le .ten reach] at room
    have high : magnitude / 10 < 10 := by omega
    have tens : (- -((magnitude / 10 : Nat) : Int)).toNat = magnitude / 10 := by omega
    obtain ⟨next, wroteTens, shown⟩ := shown.writeDigit (place - 2) (by rw [Line.cell_write]; omega)
      (by rw [Line.length_write, Line.room_write]; omega) (Int.neg_neg (magnitude / 10 : Nat))
      (Nat.lt_of_lt_of_le high (by decide)) (by rw [Int.neg_neg]; exact asking _ high)
    have before : place - 2 = line.cell - 1 - 1 + 1 := by omega
    refine ⟨next, ?_, by rw [tens]; exact shown⟩
    rw [wroteTens, Line.cell_write, Line.cell_write, ← before]
    rfl
  next one =>
    have before : place - 1 = line.cell - 1 + 1 := by omega
    refine ⟨ones, ?_, shown⟩
    rw [Line.cell_write, ← before]
    rfl

theorem Shows.pairs (magnitude : Nat) (shows : Shows allowed cells line) (place : Int)
    (here : place = line.cell + 1)
    (room : (canonicalDigits .ten magnitude).length + line.written.length ≤ line.room)
    (asking : ∀ digit : Nat, digit < 10 → allowed (.digit digit))
    (looking : ∀ index : Nat, index < 100 → allowed (.pair index)) :
    ∃ next, InCells.pairs (-(magnitude : Int)) place cells =
        .ok ((writePairs (-(magnitude : Int)) line).cell + 1, next) ∧
      Shows allowed next (writePairs (-(magnitude : Int)) line) := by
  -- The induction goes a pair at a time, and each pair takes two cells of the room.
  induction magnitude using Nat.strongRecOn generalizing place cells line with
  | ind magnitude ih =>
    rw [InCells.pairs]
    split
    next large =>
      have rest := quotient_neg magnitude 100 (by decide)
      have left := leftOver_neg magnitude 100 (by decide)
      have pair := quotient_mul_sub_neg magnitude 100 (by decide)
      simp only [Nat.cast_ofNat] at rest left pair
      have few : magnitude % 100 < 100 := Nat.mod_lt _ (by decide)
      have shrinks : magnitude / 100 < magnitude := Nat.div_lt_self (by omega) (by decide)
      rw [canonicalDigits_ten_pair (by omega), List.length_append] at room
      simp only [List.length_cons, List.length_nil] at room
      rw [writePairs, if_pos large]
      dsimp only
      rw [pair, rest, left]
      obtain ⟨middle, wrote, shown⟩ := shows.writePair place here (by omega) few (looking _ few)
      obtain ⟨next, ran, shown⟩ := ih (magnitude / 100) shrinks shown (place - 2)
        (by rw [Line.cell_write, Line.cell_write]; omega)
        (by rw [Line.length_write, Line.length_write, Line.room_write, Line.room_write]; omega)
      refine ⟨next, ?_, shown⟩
      rw [wrote]
      exact ran
    next small => exact shows.oneOrTwo (by omega) place here room asking

end

/-- The line that was cut for a number has room for it. -/
theorem shows_decimal (allowed : Act → Prop) (asking : ∀ digit : Nat, digit < 10 → allowed (.digit digit))
    (looking : ∀ index : Nat, index < 100 → allowed (.pair index)) (value : Int) :
    ∃ cells, InCells.decimal value = .ok ((decimal value).cell + 1, cells) ∧
      Shows allowed cells (decimal value) := by
  have size := decimalLength_eq value
  rw [length_canonical] at size
  have behind : (decimalLength value : Int) = (Line.blank (decimalLength value)).cell + 1 := by
    rw [Line.cell_blank]
    omega
  obtain ⟨middle, ran, shown⟩ := (shows_blank allowed (decimalLength value)).pairs value.natAbs _ behind
    (by simp only [Line.blank, List.length_nil]; omega) asking looking
  have enough : (writePairs (-(value.natAbs : Int)) (Line.blank (decimalLength value))).written.length +
      (if value < 0 then 1 else 0) ≤
        (writePairs (-(value.natAbs : Int)) (Line.blank (decimalLength value))).room := by
    rw [writePairs_written, room_writePairs, List.length_append, List.length_map]
    simp only [Line.blank, List.length_nil]
    omega
  obtain ⟨cells, ended, shown⟩ := shown.minus value rfl enough
  refine ⟨cells, ?_, ?_⟩
  · rw [InCells.decimal, decimal, descend_eq]
    dsimp only
    rw [ran]
    exact ended
  · rw [decimal, descend_eq]
    exact shown

end MachineInt.Numeral
