import MachineInt.Numeral.Report
import MachineInt.Proofs.Numeral.Answer

/-!
# Reading a part of a text

A part is read where it stands, with symbols looked up by their places in the whole text. All that the places before it
do to the answer is that errors are counted from further ahead; what surrounds the part does nothing. So a part that
consists of characters is read as the text they spell, and one with anything else in it is not read at all.
-/

namespace MachineInt

open Numeral

/-! ## Errors further ahead -/

namespace ReadError

/-- The same error at a place that is `offset` further ahead. -/
def moved (offset : Nat) : ReadError → ReadError
  | .notDigit reading index => .notDigit reading (index + offset)
  | .tooLarge reading index => .tooLarge reading (index + offset)
  | cause => cause

/-- The place that an error names. -/
def place? : ReadError → Option Nat
  | .notDigit _ index | .tooLarge _ index => some index
  | _ => none

end ReadError

namespace Numeral

def Offence.moved (offset : Nat) : Offence → Offence
  | .notDigit index => .notDigit (index + offset)
  | .tooLarge index => .tooLarge (index + offset)

section

variable (offset : Nat) (radix : Radix)

end

end Numeral

/-! ## Lines with other symbols than characters -/

namespace Numeral

end Numeral

/-! ## Parts -/

/-- What a part is taken from: a string, or a sequence of strings that stand in the places of characters. -/
inductive Characters
  | string (text : String)
  | sequence (pieces : List String)

namespace Characters

/-- What stands in each place. -/
def pieces : Characters → List String
  | .string text => text.toList.map String.singleton
  | .sequence pieces => pieces

def symbols : Characters → List Symbol
  | .string text => MachineInt.symbols text
  | .sequence pieces => pieces.map Symbol.ofString

def Inside (characters : Characters) (first past : Int) : Prop :=
  0 ≤ first ∧ first ≤ past ∧ past ≤ characters.pieces.length

instance (characters : Characters) (first past : Int) : Decidable (characters.Inside first past) :=
  inferInstanceAs (Decidable (_ ∧ _))

def slice (characters : Characters) (first past : Int) : List String :=
  (characters.pieces.take past.toNat).drop first.toNat

/-- There are only characters in the part, as there are everywhere in a string. -/
def Plain (characters : Characters) (first past : Int) : Prop :=
  match characters with
  | .string _ => True
  | .sequence _ => ∀ piece ∈ characters.slice first past, piece.length = 1

instance (characters : Characters) (first past : Int) : Decidable (characters.Plain first past) :=
  match characters with
  | .string _ => inferInstanceAs (Decidable True)
  | .sequence _ => inferInstanceAs (Decidable (∀ piece ∈ _, _))

end Characters

theorem checkBounds_inside_eq {first past : Int} {length : Nat} (inside : 0 ≤ first ∧ first ≤ past ∧ past ≤ length) :
    checkBounds first past length = .ok (first.toNat, past.toNat) := by
  rw [checkBounds, if_neg (by omega)]

theorem checkBounds_outside_eq {first past : Int} {length : Nat}
    (outside : ¬ (0 ≤ first ∧ first ≤ past ∧ past ≤ length)) :
    checkBounds first past length = .error (.badBounds first past length) := by
  rw [checkBounds, if_pos (by omega)]

/-- The readings that come in two forms, of a whole text and of a part of one. -/
inductive Signedness
  | signed
  | unsigned

namespace Signedness

def line : Signedness → Nat → List Symbol → Int → Except ReadError Int
  | .signed => signedLine
  | .unsigned => unsignedLine

/-- The reading of a whole text. -/
def whole : Signedness → String → Int → Call
  | .signed, text, radix => .signed (some text) radix
  | .unsigned, text, radix => .unsigned (some text) radix

/-- The reading of a part. -/
def part : Signedness → Characters → Int → Int → Int → Call
  | .signed, characters, first, past, radix => .signedPart (some characters.symbols) first past radix
  | .unsigned, characters, first, past, radix => .unsignedPart (some characters.symbols) first past radix

variable (form : Signedness)

section

variable {characters : Characters} {first past : Int} (inside : characters.Inside first past) (radix : Int)
include inside

end

end Signedness

end MachineInt
