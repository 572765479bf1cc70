import MachineInt.Numeral.Reading

/-!
# Numerals that name their radix

A mark in front of the digits tells the radix: `0x`, `0X` or `#` stand for sixteen, a zero with anything after it
for eight, and no mark for ten. The sign stands before the mark. It is put back before the digits when they are
read, so the least word can be written in every form.
-/

namespace MachineInt

namespace Numeral

/-- Take a sign off the front; whether it was the negative one. -/
def takeSign : List Char → Bool × List Char
  | '-' :: rest => (true, rest)
  | '+' :: rest => (false, rest)
  | text => (false, text)

/-- Take a radix mark off the front. A zero that ends the text is a digit and no mark. -/
def takeMark : List Char → Int × List Char
  | '0' :: 'x' :: rest => (16, rest)
  | '0' :: 'X' :: rest => (16, rest)
  | '#' :: rest => (16, rest)
  | '0' :: c :: rest => (8, c :: rest)
  | text => (10, text)

def startsWithSign : List Char → Bool
  | '-' :: _ => true
  | '+' :: _ => true
  | _ => false

end Numeral

open Numeral in
/-- Read a signed word in the radix that the text itself names. -/
def readMarked (text : Option String) : Except ReadError Int :=
  match text with
  | none => .error .absent
  | some text =>
    if text.isEmpty then .error .emptyText
    else
      let (negative, unsigned) := takeSign text.toList
      let (radix, body) := takeMark unsigned
      if startsWithSign body then .error (.misplacedSign text)
      else readSigned (some (String.ofList (if negative then '-' :: body else body))) radix

end MachineInt
