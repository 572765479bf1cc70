import MachineInt.Radix
import MachineInt.Text.Written

/-!
# Why a text is no numeral

Each cause carries what its message names. Four kinds group the causes for callers who do not read messages. The
wording is open in how integers are written, since not every integer can be written in a text.
-/

namespace MachineInt

inductive FailureKind
  | radixOutOfRange
  | malformedInput
  | numericOverflow
  | indexOutOfRange
  deriving DecidableEq, Repr

namespace FailureKind

def all : List FailureKind := [.radixOutOfRange, .malformedInput, .numericOverflow, .indexOutOfRange]

def name : FailureKind → String
  | .radixOutOfRange => "RADIX_OUT_OF_RANGE"
  | .malformedInput => "MALFORMED_INPUT"
  | .numericOverflow => "NUMERIC_OVERFLOW"
  | .indexOutOfRange => "INDEX_OUT_OF_RANGE"

def ofName? (name : String) : Option FailureKind := all.find? (·.name == name)

end FailureKind

/-- The part of a text that was read, and the radix it was read in. -/
structure Reading where
  excerpt : String
  radix : Int
  deriving DecidableEq, Repr

inductive ReadError
  /-- There is no text at all. -/
  | absent
  | emptyText
  | badRadix (cause : RadixError)
  | badBounds (first past : Int) (length : Nat)
  /-- There are no digits. -/
  | noDigits (reading : Reading)
  | notDigit (reading : Reading) (index : Nat)
  | tooLarge (reading : Reading) (index : Nat)
  | minusUnsigned (excerpt : String)
  | beyondUnsigned (excerpt : String)
  | misplacedSign (text : String)
  | outOfRange (value : Int) (text : String) (radix : Option Int)
  | outOfUnsignedRange (value : Int) (bits : Nat) (text : String)
  deriving DecidableEq, Repr

def Reading.wording {m : Type → Type} [Monad m] (write : Int → m String) (reading : Reading) : m String :=
  let shown := s!"For input string: \"{reading.excerpt}\""
  if reading.radix = 10 then pure shown
  else do return shown ++ s!" under radix {← write reading.radix}"

/-- The wording with the integer written out, however long it is. -/
def Reading.describe (reading : Reading) : String := Id.run (reading.wording fun value => pure (toString value))

theorem Reading.describe_eq_ite (reading : Reading) :
    reading.describe =
      if reading.radix = 10 then s!"For input string: \"{reading.excerpt}\""
      else s!"For input string: \"{reading.excerpt}\"" ++ s!" under radix {reading.radix}" := by
  unfold describe wording
  split <;> rfl

namespace ReadError

def kind : ReadError → FailureKind
  | .absent | .emptyText | .noDigits _ | .notDigit .. | .minusUnsigned _ | .misplacedSign _ => .malformedInput
  | .badRadix _ => .radixOutOfRange
  | .badBounds .. => .indexOutOfRange
  | .tooLarge .. | .beyondUnsigned _ | .outOfRange .. | .outOfUnsignedRange .. => .numericOverflow

/-- What is said of the cause, with the integers in it as `write` writes them, from left to right. -/
def wording {m : Type → Type} [Monad m] (write : Int → m String) : ReadError → m String
  | .absent => pure "null"
  | .emptyText => pure "Zero length string"
  | .badRadix cause => cause.wording write
  | .badBounds first past length => do
    return s!"begin {← write first}, end {← write past}, length {← write length}"
  | .noDigits reading => reading.wording write
  | .notDigit reading index | .tooLarge reading index => do
    return s!"{← reading.wording write} (error at index {← write index})"
  | .minusUnsigned excerpt => pure s!"Illegal leading minus sign on unsigned string \"{excerpt}\""
  | .beyondUnsigned excerpt => pure s!"String value \"{excerpt}\" exceeds range of unsigned int"
  | .misplacedSign text => pure s!"Sign character in wrong position: \"{text}\""
  | .outOfRange value text none => do return s!"Value {← write value} out of range from input \"{text}\""
  | .outOfRange value text (some radix) => do
    return s!"Value {← write value} out of range from input \"{text}\" radix {← write radix}"
  | .outOfUnsignedRange value bits text => do
    return s!"Value {← write value} out of unsigned {← write bits}-bit range from input \"{text}\""

/-- The wording with all integers written out, however long they are. -/
def message (cause : ReadError) : String := Id.run (cause.wording fun value => pure (toString value))

/-- The wording as a text, if there is one that takes all its integers. -/
def details (cause : ReadError) : Except Unwritable String := cause.wording written

end ReadError

end MachineInt
