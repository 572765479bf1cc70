import MachineInt.Pattern.Count

/-!
# Reversals

Bits are reversed by trading neighbours: single bits, then pairs, then nibbles, and last whole bytes. Reversing
the bytes alone is the last of these trades.
-/

namespace MachineInt

namespace Pattern

/-- Trade the groups that `mask` selects with the groups `size` positions above them. -/
def trade (x : Pattern) (size mask : Nat) : Pattern :=
  ((x &&& BitVec.ofNat 32 mask) <<< size) ||| ((x >>> size) &&& BitVec.ofNat 32 mask)

def reverseBytes (x : Pattern) : Pattern :=
  (x <<< 24) ||| ((x &&& 0xFF00#32) <<< 8) ||| ((x >>> 8) &&& 0xFF00#32) ||| (x >>> 24)

def reverseBits (x : Pattern) : Pattern :=
  (((x.trade 1 pairMask).trade 2 nibbleMask).trade 4 byteMask).reverseBytes

end Pattern

def reverseBits (value : Int) : Int := (pattern value).reverseBits.toInt

def reverseBytes (value : Int) : Int := (pattern value).reverseBytes.toInt

/-- The two bytes of a 16-bit word, traded. -/
def swapBytes (value : Int) : Int :=
  let x := BitVec.ofInt 16 value
  (((x &&& 0xFF00#16) >>> 8) ||| (x <<< 8)).toInt

end MachineInt
