import MachineInt.Numeral.Accumulation

/-!
# Reading words

A signed numeral is summed up in a 32-bit word. An unsigned one denotes a 32-bit pattern and needs a wider word,
unless it is too short to leave the narrow one: five digits of any radix and nine decimal digits stay below
`2 ^ 31`. A part of a text is read as if it stood alone, but errors count from the beginning of the text.
-/

namespace MachineInt

open Numeral

/-- The symbols from `first` up to, but not including, `past`. -/
def cut (text : List Symbol) (first past : Nat) : List Symbol := (text.take past).drop first

/-- Bounds that lie in a text of the given length, in order. -/
def checkBounds (first past : Int) (length : Nat) : Except ReadError (Nat × Nat) :=
  if first < 0 ∨ first > past ∨ past > length then .error (.badBounds first past length)
  else .ok (first.toNat, past.toNat)

def readRadix (radix : Int) : Except ReadError Radix := (Radix.ofInt radix).mapError .badRadix

namespace Numeral

/-- The signed word that a line of symbols denotes. -/
def signedLine (first : Nat) (line : List Symbol) (radix : Int) : Except ReadError Int := do
  accumulate 32 (← readRadix radix) first line

/-- A numeral that cannot leave the signed word, by its length alone. -/
def isShort (radix : Radix) (line : List Symbol) : Bool :=
  line.length ≤ 5 || radix = Radix.ten && line.length ≤ 9

/-- The upper half of a 64-bit pattern. -/
def upperHalf (value : Int) : Int := unsigned 64 value / weight 32

/-- The 32-bit pattern that a line of symbols denotes, as a signed word. -/
def unsignedLine (first : Nat) (line : List Symbol) (radix : Int) : Except ReadError Int :=
  match line with
  | [] => .error (.noDigits ⟨"", radix⟩)
  | symbol :: _ =>
    if symbol = .char '-' then .error (.minusUnsigned (spelled line))
    else do
      let radix ← readRadix radix
      if isShort radix line then accumulate 32 radix first line
      else
        let value ← accumulate 64 radix first line
        if upperHalf value ≠ 0 then .error (.beyondUnsigned (spelled line)) else .ok (wrap 32 value)

end Numeral

def readSigned (text : Option String) (radix : Int) : Except ReadError Int :=
  match text with
  | none => .error .absent
  | some text => signedLine 0 (symbols text) radix

def readUnsigned (text : Option String) (radix : Int) : Except ReadError Int :=
  match text with
  | none => .error .absent
  | some text => unsignedLine 0 (symbols text) radix

/-- Read the part of a text between two bounds. Bad bounds come before all other errors. -/
def readPart (read : Nat → List Symbol → Int → Except ReadError Int) (text : Option (List Symbol))
    (first past radix : Int) : Except ReadError Int :=
  match text with
  | none => .error .absent
  | some text => do
    let (first, past) ← checkBounds first past text.length
    read first (cut text first past) radix

def readSignedPart (text : Option (List Symbol)) (first past radix : Int) : Except ReadError Int :=
  readPart signedLine text first past radix

def readUnsignedPart (text : Option (List Symbol)) (first past radix : Int) : Except ReadError Int :=
  readPart unsignedLine text first past radix

end MachineInt
