import MachineInt.Pattern

/-!
# Orders on words

Words have two orders, with and without the sign. The unsigned one is the signed one after both sides have been
moved by the weight of the sign bit, with wrap-around.
-/

namespace MachineInt

/-- The sign of a word from its sign bit and that of its negation. -/
def sign (value : Int) : Int :=
  let x := pattern value
  (x.shiftRightSigned 31 ||| (-x).shiftRight 31).toInt

def signedOrder (x y : Int) : Ordering := compare (wrap 32 x) (wrap 32 y)

def unsignedOrder (x y : Int) : Ordering :=
  signedOrder (wrap 32 (x + minValue 32)) (wrap 32 (y + minValue 32))

/-- An order written as a number: -1, 0 or 1. -/
def orderSign : Ordering → Int
  | .lt => -1
  | .eq => 0
  | .gt => 1

end MachineInt
