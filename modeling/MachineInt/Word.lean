import MachineInt.Json
import MachineInt.Numeral.Spelling
import MachineInt.Numeral.ReadError

/-!
# Words

A word is an integer in the signed range of a width of 8, 16 or 32 bits. The range is part of the type, so there is
no way to hold a word that breaks it. The unsigned value is another view of the same bits and is not stored.
-/

namespace MachineInt

inductive Width
  | eight
  | sixteen
  | thirtyTwo
  deriving DecidableEq, Repr

namespace Width

def bits : Width → Nat
  | .eight => 8
  | .sixteen => 16
  | .thirtyTwo => 32

def all : List Width := [.eight, .sixteen, .thirtyTwo]

def ofInt? (given : Int) : Option Width := all.find? fun width => given == width.bits

end Width

structure Word where
  width : Width
  value : Int
  fits : Fits width.bits value
  deriving DecidableEq

namespace Word

def unsignedValue (word : Word) : Int := unsigned word.width.bits word.value

/-- The numeral of the word with its sign. -/
def text (word : Word) (radix : Int) : String := signedText word.value radix

/-- The numeral of the word's bits without a sign. The unsigned views of small words are 32-bit words themselves. -/
def patternText (word : Word) (radix : Int) : String :=
  match word.width with
  | .thirtyTwo => unsignedText word.value radix
  | _ => signedText word.unsignedValue radix

/-- Words are ordered by value, whatever their widths. -/
def order (a b : Word) : Ordering := compare a.value b.value

def toJson (word : Word) : Json := .object [("width", .int word.width.bits), ("value", .int word.value)]

def describe (word : Word) : String := s!"width={word.width.bits} value={word.value}"

end Word

/-! ## Why there is no word -/

def unsupportedWidthText (given : Int) : String := s!"width must be one of (8, 16, 32), got {given}"

/-- What is wrong with one field of the data for a word. -/
inductive Fault
  | missing
  | notInteger
  | unreadable
  | fractional
  | notFinite
  | tooLarge
  | unsupportedWidth (given : Int)
  | outOfRange (value : Int) (width : Width)
  deriving DecidableEq, Repr

namespace Fault

def tag : Fault → String
  | .missing => "missing"
  | .notInteger => "int_type"
  | .unreadable => "int_parsing"
  | .fractional => "int_from_float"
  | .notFinite => "finite_number"
  | .tooLarge => "int_parsing_size"
  | .unsupportedWidth _ | .outOfRange .. => "value_error"

def message : Fault → String
  | .missing => "Field required"
  | .notInteger => "Input should be a valid integer"
  | .unreadable => "Input should be a valid integer, unable to parse string as an integer"
  | .fractional => "Input should be a valid integer, got a number with a fractional part"
  | .notFinite => "Input should be a finite number"
  | .tooLarge => "Unable to parse input string as an integer, exceeded maximum size"
  | .unsupportedWidth given => s!"Value error, {unsupportedWidthText given}"
  | .outOfRange value width => s!"Value error, value {value} does not fit in signed {width.bits}-bit range"

end Fault

structure FieldFault where
  field : String
  fault : Fault
  deriving DecidableEq, Repr

/-- Why data does not make a word, or a word is not changed. -/
inductive InvalidWord
  | notObject
  | notJsonObject
  | malformedJson
  | fields (faults : List FieldFault)
  | frozen (field : String)
  deriving DecidableEq, Repr

/-- One complaint: the field it is about, if any, a tag and a text. -/
structure Complaint where
  path : List String
  tag : String
  message : String
  deriving DecidableEq, Repr

/-- The complaints that are published. The text about malformed JSON is left out. -/
def InvalidWord.complaints : InvalidWord → List Complaint
  | .notObject =>
    [⟨[], "model_type", "Input should be a valid dictionary or instance of FixedWidthInteger"⟩]
  | .notJsonObject => [⟨[], "model_type", "Input should be an object"⟩]
  | .malformedJson => [⟨[], "json_invalid", ""⟩]
  | .fields faults => faults.map fun entry => ⟨[entry.field], entry.fault.tag, entry.fault.message⟩
  | .frozen field => [⟨[field], "frozen_instance", "Instance is frozen"⟩]

inductive WordError
  | arithmetic (cause : ArithmeticError)
  | unsupportedWidth (given : Int)
  | reading (cause : ReadError)
  | invalid (cause : InvalidWord)
  deriving DecidableEq, Repr

end MachineInt
