import MachineInt.Subword
import MachineInt.Word.Data

/-!
# Words from bits and numerals

The low bits of any integer make a word. A numeral makes one if its value fits: in the signed range, or as a pattern
without a sign.
-/

namespace MachineInt.Word

variable [Intake]

/-- The word that the low `width` bits of an integer make. -/
def ofBits (bits width : Int) : Except WordError Word := do
  let value ← (wrapAt bits width).mapError .arithmetic
  (make width value).mapError .invalid

/-- The reading that a width and a signedness call for. -/
def readValue (text : Option String) (radix : Int) (width : Width) (isUnsigned : Bool) :
    Except ReadError Int :=
  match width, isUnsigned with
  | .thirtyTwo, false => readSigned text radix
  | .thirtyTwo, true => readUnsigned text radix
  | .sixteen, false => Subword.short.readSigned text radix
  | .sixteen, true => Subword.short.readPattern text radix
  | .eight, false => Subword.byte.readSigned text radix
  | .eight, true => Subword.byte.readPattern text radix

/-- Read a word of a given width; the width is looked at first. -/
def read (text : Option String) (radix width : Int) (isUnsigned : Bool) : Except WordError Word :=
  match Width.ofInt? width with
  | none => .error (.unsupportedWidth width)
  | some size => do
    let value ← (readValue text radix size isUnsigned).mapError .reading
    (make width value).mapError .invalid

end MachineInt.Word
