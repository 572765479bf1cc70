/-!
# Integers in texts

A text takes an integer in decimal digits, but only so many of them. An integer with more digits cannot be written in
any text, and whatever was to name it is not written either.
-/

namespace MachineInt

/-- The most digits of an integer that a text takes; a sign is not counted. -/
def maxDigits : Nat := 4300

/-- An integer that has too many digits for a text. -/
structure Unwritable where
  given : Int
  deriving DecidableEq, Repr

def isWritable (value : Int) : Bool := value.natAbs < Nat.pow 10 maxDigits

/-- An integer as it stands in a text. -/
def written (value : Int) : Except Unwritable String :=
  if isWritable value then .ok (toString value) else .error ⟨value⟩

end MachineInt
