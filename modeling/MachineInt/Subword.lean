import MachineInt.Numeral.Marked
import MachineInt.Numeral.Spelling
import MachineInt.Pattern.Reversal

/-!
# Words of 8 and 16 bits

A small word is read as a 32-bit word that must also fit the smaller width, and written as the 32-bit word it
extends to. Failures of the 32-bit reading are kept as they are.
-/

namespace MachineInt

inductive Subword
  | byte
  | short
  deriving DecidableEq, Repr

/-- No small word has this width. -/
structure SubwordError where
  given : Int
  deriving DecidableEq, Repr

def SubwordError.message (error : SubwordError) : String := s!"bits must be 8 or 16, got {error.given}"

namespace Subword

def bits : Subword → Nat
  | .byte => 8
  | .short => 16

def bytes (size : Subword) : Nat := size.bits / 8

/-- The small word of a width; 16 bits when none is given. -/
def ofBits : Option Int → Except SubwordError Subword
  | none => .ok .short
  | some given =>
    if given = 8 then .ok .byte else if given = 16 then .ok .short else .error ⟨given⟩

/-! ## Reading -/

/-- A 32-bit value that must fit the small width. -/
def keepFitting (size : Subword) (text : Option String) (radix : Option Int)
    (reading : Except ReadError Int) : Except ReadError Int := do
  let value ← reading
  if Fits size.bits value then .ok value else .error (.outOfRange value (text.getD "") radix)

def readSigned (size : Subword) (text : Option String) (radix : Int) : Except ReadError Int :=
  size.keepFitting text (some radix) (MachineInt.readSigned text radix)

def readMarked (size : Subword) (text : Option String) : Except ReadError Int :=
  size.keepFitting text none (MachineInt.readMarked text)

/-- A 32-bit pattern whose signed value must fit the small width. -/
def readUnsigned (size : Subword) (text : Option String) (radix : Int) : Except ReadError Int :=
  size.keepFitting text (some radix) (MachineInt.readUnsigned text radix)

/-- A pattern of the small width itself. -/
def readPattern (size : Subword) (text : Option String) (radix : Int) : Except ReadError Int := do
  let value := unsigned 32 (← MachineInt.readUnsigned text radix)
  if value > unsignedMax size.bits then .error (.outOfUnsignedRange value size.bits (text.getD ""))
  else .ok (wrap size.bits value)

/-! ## Writing, comparing and reversing -/

def signedText (size : Subword) (value radix : Int) : String :=
  MachineInt.signedText (wrap size.bits value) radix

def unsignedView (size : Subword) (value : Int) : Int := unsigned size.bits value

def unsignedText (size : Subword) (value radix : Int) : String :=
  MachineInt.signedText (size.unsignedView value) radix

/-- The difference of two words; its sign orders them. -/
def signedDifference (size : Subword) (x y : Int) : Int := wrap size.bits x - wrap size.bits y

def unsignedDifference (size : Subword) (x y : Int) : Int := size.unsignedView x - size.unsignedView y

/-- The bytes in reverse order; a single byte stays. -/
def reverseBytes (size : Subword) (value : Int) : Int :=
  match size with
  | .byte => wrap 8 value
  | .short => swapBytes value

end Subword

end MachineInt
