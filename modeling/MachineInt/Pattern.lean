import MachineInt.TwosComplement

/-!
# Bit patterns

The bits of a 32-bit word, and its moves by a distance. Every operation on words reads its operand as the
pattern of the operand modulo `2 ^ 32`, so integers that agree modulo `2 ^ 32` cannot be told apart, and no
result leaves the signed range. A distance counts modulo 32, whatever its sign.
-/

namespace MachineInt

abbrev Pattern := BitVec 32

/-- The low 32 bits of an integer. -/
def pattern (value : Int) : Pattern := BitVec.ofInt 32 value

/-- A distance modulo 32. -/
def distance (amount : Int) : Nat := (amount % 32).toNat

namespace Pattern

def shiftLeft (x : Pattern) (amount : Int) : Pattern := x <<< distance amount

/-- Zeros come in at the top. -/
def shiftRight (x : Pattern) (amount : Int) : Pattern := x >>> distance amount

/-- Copies of the sign bit come in at the top. -/
def shiftRightSigned (x : Pattern) (amount : Int) : Pattern := x.sshiftRight (distance amount)

/-- The bits that leave at the top come back at the bottom. At distance zero both halves are the whole pattern. -/
def turnLeft (x : Pattern) (amount : Int) : Pattern := x.shiftLeft amount ||| x.shiftRight (-amount)

def turnRight (x : Pattern) (amount : Int) : Pattern := x.shiftRight amount ||| x.shiftLeft (-amount)

end Pattern

/-! ## The same moves on words -/

def shiftLeft (value amount : Int) : Int := ((pattern value).shiftLeft amount).toInt

def shiftRight (value amount : Int) : Int := ((pattern value).shiftRight amount).toInt

def shiftRightSigned (value amount : Int) : Int := ((pattern value).shiftRightSigned amount).toInt

def turnLeft (value amount : Int) : Int := ((pattern value).turnLeft amount).toInt

def turnRight (value amount : Int) : Int := ((pattern value).turnRight amount).toInt

theorem distance_lt (amount : Int) : distance amount < 32 := by
  unfold distance
  omega

/-- A distance below the width is not reduced. -/
theorem distance_natCast {count : Nat} (small : count < 32) : distance count = count := by
  unfold distance
  omega

/-- Reading a pattern with its sign is wrapping. -/
theorem toInt_pattern (value : Int) : (pattern value).toInt = wrap 32 value := by
  have whole : weight 32 = 4294967296 := by decide
  have half : signWeight 32 = 2147483648 := by decide
  rw [pattern, BitVec.toInt_ofInt, wrap, whole, half, Int.bmod_def]
  omega

end MachineInt
