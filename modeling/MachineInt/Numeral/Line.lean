import MachineInt.Digit

/-!
# Lines

Numerals are written from their low end, so the line they stand on is filled from the right. How many cells it has is
settled before the first character is written. The next character goes to the last blank cell; a line that is asked
for more than it has cells would have to write left of its first cell, at a negative place.
-/

namespace MachineInt.Numeral

/-- A line of `room` cells with characters in the last ones. -/
structure Line where
  room : Nat
  written : List Char
  deriving DecidableEq, Repr

namespace Line

def blank (room : Nat) : Line := ⟨room, []⟩

/-- The cell that the next character goes to. -/
def cell (line : Line) : Int := line.room - line.written.length - 1

def write (line : Line) (c : Char) : Line := { line with written := c :: line.written }

/-- The line with a minus in front of the numeral of a negative value. -/
def writeMinus (line : Line) (value : Int) : Line := if value < 0 then line.write '-' else line

def text (line : Line) : String := String.ofList line.written

theorem cell_blank (room : Nat) : (blank room).cell = room - 1 := by
  simp [cell, blank]

/-- Cells are filled one by one, without a gap. -/
theorem cell_write (line : Line) (c : Char) : (line.write c).cell = line.cell - 1 := by
  simp only [cell, write, List.length_cons]
  omega

end Line

end MachineInt.Numeral
