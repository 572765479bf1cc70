import MachineInt.Numeral.Line
import MachineInt.Pattern.Count

/-!
# Hexadecimal, octal and binary numerals

Where the radix is a power of two, a digit is a group of bits: it is masked out and the pattern shifted on, with
no division. The highest one of the pattern tells how many digits there are.
-/

namespace MachineInt.Numeral

def hexBits : Nat := 4
def octalBits : Nat := 3
def binaryBits : Nat := 1

/-- The digits that the ones of a pattern reach into, one at least. -/
def groupCount (bits : Nat) (x : Pattern) : Nat :=
  max ((32 - x.leadingZeros + (bits - 1)) / bits) 1

/-- The digit of the lowest group of bits. -/
def lowGroup (bits : Nat) (x : Pattern) : Nat := (x &&& BitVec.ofNat 32 (1 <<< bits - 1)).toNat

/-- The digits of the lowest `count` groups of `bits` bits. -/
def writeGroups (bits : Nat) : Nat → Pattern → Line → Line
  | 0, _, line => line
  | count + 1, x, line => writeGroups bits count (x.shiftRight bits) (line.write (digitChar (lowGroup bits x)))

/-- The unsigned numeral of a pattern with digits of `bits` bits. -/
def grouped (bits : Nat) (x : Pattern) : Line :=
  writeGroups bits (groupCount bits x) x (Line.blank (groupCount bits x))

end MachineInt.Numeral
