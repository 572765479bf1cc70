/-!
# Radixes

A radix is a number from 2 to 36, so that digits and small letters are symbols enough. Reading refuses any other
number; writing falls back on ten.
-/

namespace MachineInt

def minRadix : Nat := 2
def maxRadix : Nat := 36

/-- Why a number is no radix. -/
inductive RadixError
  | tooSmall (given : Int)
  | tooLarge (given : Int)
  deriving DecidableEq, Repr

/-- What is said of a number that is no radix, with the number as `write` writes it. -/
def RadixError.wording {m : Type → Type} [Monad m] (write : Int → m String) : RadixError → m String
  | .tooSmall given => do return s!"radix {← write given} less than MIN_RADIX {minRadix}"
  | .tooLarge given => do return s!"radix {← write given} greater than MAX_RADIX {maxRadix}"

structure Radix where
  value : Nat
  two_le : 2 ≤ value
  le_max : value ≤ maxRadix
  deriving DecidableEq, Repr

namespace Radix

def ten : Radix := ⟨10, by decide, by decide⟩

def ofInt (given : Int) : Except RadixError Radix :=
  if small : given < minRadix then .error (.tooSmall given)
  else if large : given > maxRadix then .error (.tooLarge given)
  else .ok ⟨given.toNat, by simp only [minRadix] at small; omega, by omega⟩

/-- The radix asked for, or ten when there is none such. -/
def orTen (given : Int) : Radix :=
  match ofInt given with
  | .ok radix => radix
  | .error _ => ten

def isValid (given : Int) : Bool := minRadix ≤ given && given ≤ maxRadix

end Radix

end MachineInt
