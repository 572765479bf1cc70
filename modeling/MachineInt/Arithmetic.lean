import MachineInt.TwosComplement

/-!
# Sums and extremes of 32-bit words

The operands may be any integers; each stands for the word it wraps to.
-/

namespace MachineInt

/-- The sum modulo `2 ^ 32`, as a signed word. -/
def wordSum (a b : Int) : Int := wrap 32 (a + b)

def wordMax (a b : Int) : Int := max (wrap 32 a) (wrap 32 b)

def wordMin (a b : Int) : Int := min (wrap 32 a) (wrap 32 b)

end MachineInt
