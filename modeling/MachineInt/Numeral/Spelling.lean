import MachineInt.Numeral.Decimal
import MachineInt.Numeral.PowerOfTwo

/-!
# Numerals of words

A word is written with its sign, or as the bit pattern it is. Writing has no errors: integers stand for the words
they wrap to, and a number that is no radix stands for ten. The unsigned value of a word is written on the line of a
wider word, in which it has no sign.
-/

namespace MachineInt

open Numeral

/-- The numeral of a word of `bits` bits in the radix asked for. -/
def Numeral.spell (bits : Nat) (radix : Radix) (value : Int) : Line :=
  if radix = Radix.ten then decimal value else positional bits radix value

/-- The numeral of a 32-bit word. -/
def signedText (value radix : Int) : String := (spell 32 (Radix.orTen radix) (wrap 32 value)).text

/-- The numeral of the bits of a 32-bit word, read without a sign. -/
def unsignedText (value radix : Int) : String := (spell 64 (Radix.orTen radix) (unsigned 32 value)).text

/-- The decimal numeral of an integer of any size. -/
def decimalText (value : Int) : String := (decimal value).text

def unsignedDecimalText (value : Int) : String := decimalText (unsigned 32 value)

def hexText (value : Int) : String := (grouped hexBits (pattern value)).text

def octalText (value : Int) : String := (grouped octalBits (pattern value)).text

def binaryText (value : Int) : String := (grouped binaryBits (pattern value)).text

end MachineInt
