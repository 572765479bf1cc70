import MachineInt.Binary64.Rounding
import MachineInt.Json

/-!
# Reading JSON

A text is cut into tokens, and the tokens drive a machine that keeps the arrays and objects not yet closed on a
stack. Cutting stops at the first place that is no token; whether that is an error of the token or of its place is
for the machine to say, which reports the first thing that cannot go on. Tokens become fewer with each step, so
the machine needs no other reason to stop.

Beside standard JSON the words `NaN`, `Infinity` and `-Infinity` are numbers.
-/

namespace MachineInt.Json

inductive SyntaxFault
  | byteOrderMark
  | expectingValue
  | expectingName
  | expectingColon
  | expectingComma
  | extraData
  | unterminated
  | controlCharacter
  | badEscape
  | badUnicodeEscape
  deriving DecidableEq, Repr

def SyntaxFault.message : SyntaxFault → String
  | .byteOrderMark => "Unexpected UTF-8 BOM (decode using utf-8-sig)"
  | .expectingValue => "Expecting value"
  | .expectingName => "Expecting property name enclosed in double quotes"
  | .expectingColon => "Expecting ':' delimiter"
  | .expectingComma => "Expecting ',' delimiter"
  | .extraData => "Extra data"
  | .unterminated => "Unterminated string starting at"
  | .controlCharacter => "Invalid control character at"
  | .badEscape => "Invalid \\escape"
  | .badUnicodeEscape => "Invalid \\uXXXX escape"

/-- A fault and the number of characters before it. -/
structure SyntaxError where
  fault : SyntaxFault
  offset : Nat
  deriving DecidableEq, Repr

/-- The fault with its place in the text: lines and columns count from one. -/
def SyntaxError.describe (error : SyntaxError) (text : String) : String :=
  let before := text.toList.take error.offset
  let line := before.count '\n' + 1
  let column := (before.reverse.takeWhile (· ≠ '\n')).length + 1
  s!"{error.fault.message}: line {line} column {column} (char {error.offset})"

/-! ## Strings -/

def hexDigit? (c : Char) : Option Nat :=
  if '0' ≤ c ∧ c ≤ '9' then some (c.toNat - '0'.toNat)
  else if 'a' ≤ c ∧ c ≤ 'f' then some (c.toNat - 'a'.toNat + 10)
  else if 'A' ≤ c ∧ c ≤ 'F' then some (c.toNat - 'A'.toNat + 10)
  else none

/-- The number that four hexadecimal digits write. -/
def hexUnit? (a b c d : Char) : Option Nat := do
  return (((← hexDigit? a) * 16 + (← hexDigit? b)) * 16 + (← hexDigit? c)) * 16 + (← hexDigit? d)

/-- The character that a letter after a backslash stands for. -/
def escaped? : Char → Option Char
  | '"' => some '"'
  | '\\' => some '\\'
  | '/' => some '/'
  | 'b' => some '\x08'
  | 'f' => some '\x0c'
  | 'n' => some '\n'
  | 'r' => some '\r'
  | 't' => some '\t'
  | _ => none

def isHighHalf (unit : Nat) : Bool := 0xD800 ≤ unit && unit < 0xDC00

def isLowHalf (unit : Nat) : Bool := 0xDC00 ≤ unit && unit < 0xE000

/-- The character of two halves of a pair. -/
def joinHalves (high low : Nat) : Char := Char.ofNat (0x10000 + (high - 0xD800) * 0x400 + (low - 0xDC00))

/-- Read a string from after its opening quote, which stood at `start`; the result comes with the offset after the
closing quote. An escape by number must not end the text, and half a pair is no character. -/
def quoted (start : Nat) : Nat → List Char → List Char → Except SyntaxError (String × Nat)
  | _, _, [] => .error ⟨.unterminated, start⟩
  | offset, done, '"' :: _ => .ok (String.ofList done.reverse, offset + 1)
  | _, _, ['\\'] => .error ⟨.unterminated, start⟩
  | offset, done, '\\' :: 'u' :: a :: b :: c :: d :: next :: rest =>
    match hexUnit? a b c d with
    | none => .error ⟨.badUnicodeEscape, offset + 1⟩
    | some unit =>
      if isHighHalf unit then
        match next, rest with
        | '\\', 'u' :: e :: f :: g :: h :: after :: rest =>
          match hexUnit? e f g h with
          | none => .error ⟨.badUnicodeEscape, offset + 7⟩
          | some low =>
            if isLowHalf low then quoted start (offset + 12) (joinHalves unit low :: done) (after :: rest)
            else .error ⟨.badUnicodeEscape, offset + 1⟩
        | _, _ => .error ⟨.badUnicodeEscape, offset + 1⟩
      else if isLowHalf unit then .error ⟨.badUnicodeEscape, offset + 1⟩
      else quoted start (offset + 6) (Char.ofNat unit :: done) (next :: rest)
  | offset, done, '\\' :: letter :: rest =>
    if letter = 'u' then .error ⟨.badUnicodeEscape, offset + 1⟩
    else
      match escaped? letter with
      | none => .error ⟨.badEscape, offset⟩
      | some c => quoted start (offset + 2) (c :: done) rest
  | offset, done, c :: rest =>
    if c.toNat < 0x20 then .error ⟨.controlCharacter, offset⟩ else quoted start (offset + 1) (c :: done) rest
termination_by _ _ text => text.length

/-! ## Numbers -/

/-- The value of decimal digits. -/
def decimalValue (digits : List Char) : Nat :=
  digits.foldl (fun value c => value * 10 + (c.toNat - '0'.toNat)) 0

/-- The digits after a point, if a digit follows it. -/
def fractionDigits : List Char → List Char
  | '.' :: rest => rest.takeWhile Char.isDigit
  | _ => []

/-- The exponent and the number of its characters, if a digit follows the mark. -/
def exponentPart? : List Char → Option (Int × Nat)
  | mark :: rest =>
    if mark = 'e' ∨ mark = 'E' then
      let (negative, signed, rest) := match rest with
        | '-' :: rest => (true, 1, rest)
        | '+' :: rest => (false, 1, rest)
        | rest => (false, 0, rest)
      let digits := rest.takeWhile Char.isDigit
      if digits.isEmpty then none
      else
        let value : Int := decimalValue digits
        some (if negative then -value else value, digits.length + signed + 1)
    else none
  | [] => none

/-- The integral digits; a zero stands alone. -/
def wholeDigits : List Char → List Char
  | '0' :: _ => ['0']
  | text => text.takeWhile Char.isDigit

/-- The characters at the front of a text that write the integral part of a number, its minus included. -/
def integralPart : List Char → List Char
  | '-' :: rest => '-' :: wholeDigits rest
  | text => wholeDigits text

/-- The floating-point number with the given digits, some of them after the point. -/
def floatOf (negative : Bool) (whole fraction : List Char) (exponent : Int) : Number :=
  let digits := whole ++ fraction
  let significant := digits.dropWhile (· = '0')
  .float (.ofDecimal negative (decimalValue digits) significant.length (exponent - fraction.length))

/-- The number at the front of a text, and how many characters write it. -/
def number? (text : List Char) : Option (Number × Nat) :=
  let (negative, body) := match text with
    | '-' :: rest => (true, rest)
    | _ => (false, text)
  let signed := if negative then 1 else 0
  let whole := wholeDigits body
  if whole.isEmpty then none
  else
    let rest := body.drop whole.length
    let fraction := fractionDigits rest
    let pointed := if fraction.isEmpty then 0 else fraction.length + 1
    let length := signed + whole.length + pointed
    match exponentPart? (rest.drop pointed) with
    | some (exponent, more) => some (floatOf negative whole fraction exponent, length + more)
    | none =>
      if fraction.isEmpty then
        let value : Int := decimalValue whole
        some (.int (if negative then -value else value), length)
      else some (floatOf negative whole fraction 0, length)

/-! ## Tokens -/

/-- Words that are values. -/
def literals : List (String × Json) :=
  [("null", .null), ("true", .bool true), ("false", .bool false), ("NaN", .number (.float .notANumber)),
    ("Infinity", .number (.float (.infinite false))), ("-Infinity", .number (.float (.infinite true)))]

/-- The value at the front of a text that is neither a string nor opens anything, and how many characters write it. -/
def scalar? (text : List Char) : Option (Json × Nat) :=
  match literals.find? (fun (word, _) => word.toList.isPrefixOf text) with
  | some (word, value) => some (value, word.length)
  | none => (number? text).map fun (value, length) => (.number value, length)

inductive Shape
  | openArray
  | closeArray
  | openObject
  | closeObject
  | comma
  | colon
  | scalar (value : Json)
  | string (text : String)
  | broken (error : SyntaxError)
  | junk
  | finish
  deriving Repr

structure Token where
  offset : Nat
  shape : Shape
  deriving Repr

def isBlank (c : Char) : Bool := c = ' ' || c = '\n' || c = '\r' || c = '\t'

def punctuation? : Char → Option Shape
  | '[' => some .openArray
  | ']' => some .closeArray
  | '\x7b' => some .openObject
  | '\x7d' => some .closeObject
  | ',' => some .comma
  | ':' => some .colon
  | _ => none

/-- The tokens of a text whose first character has the given offset. The last one is the end of the text or a place
where no token begins or one breaks off. -/
def tokens (offset : Nat) (text : List Char) : List Token :=
  match text with
  | [] => [⟨offset, .finish⟩]
  | c :: rest =>
    if isBlank c then tokens (offset + 1) rest
    else
      match punctuation? c with
      | some shape => ⟨offset, shape⟩ :: tokens (offset + 1) rest
      | none =>
        if c = '"' then
          match quoted offset (offset + 1) [] rest with
          | .error error => [⟨offset, .broken error⟩]
          | .ok (content, past) =>
            ⟨offset, .string content⟩ :: tokens past (rest.drop (past - (offset + 1)))
        else
          match scalar? (c :: rest) with
          | some (value, length) => ⟨offset, .scalar value⟩ :: tokens (offset + length) (rest.drop (length - 1))
          | none => [⟨offset, .junk⟩]
termination_by text.length

/-! ## Values -/

/-- An array or object that is not closed yet: the items so far, the last one first, or the fields so far and the
name that waits for its value. -/
inductive Frame
  | array (items : List Json)
  | object (fields : List (String × Json)) (name : String)

/-- What may come next. -/
inductive Expectation
  | value
  | valueOrClose
  | name
  | nameOrClose
  | colon (name : String)
  | after (value : Json)

/-- Run the machine on a list of tokens. -/
def build : List Frame → Expectation → List Token → Except SyntaxError Json
  | _, _, [] => .error ⟨.expectingValue, 0⟩
  | stack, expected, ⟨offset, shape⟩ :: rest =>
    let fail (fault : SyntaxFault) : Except SyntaxError Json := .error ⟨fault, offset⟩
    match expected, shape with
    | .value, .scalar value | .valueOrClose, .scalar value => build stack (.after value) rest
    | .value, .string text | .valueOrClose, .string text => build stack (.after (.string text)) rest
    | .value, .openArray | .valueOrClose, .openArray => build (.array [] :: stack) .valueOrClose rest
    | .value, .openObject | .valueOrClose, .openObject => build (.object [] "" :: stack) .nameOrClose rest
    | .value, .broken error | .valueOrClose, .broken error => .error error
    | .valueOrClose, .closeArray => build (stack.drop 1) (.after (.array [])) rest
    | .value, _ | .valueOrClose, _ => fail .expectingValue
    | .name, .string text | .nameOrClose, .string text => build stack (.colon text) rest
    | .name, .broken error | .nameOrClose, .broken error => .error error
    | .nameOrClose, .closeObject => build (stack.drop 1) (.after (.object [])) rest
    | .name, _ | .nameOrClose, _ => fail .expectingName
    | .colon name, .colon =>
      match stack with
      | .object fields _ :: stack => build (.object fields name :: stack) .value rest
      | _ => fail .expectingValue
    | .colon _, _ => fail .expectingColon
    | .after value, shape =>
      match stack, shape with
      | [], .finish => .ok value
      | [], _ => fail .extraData
      | .array items :: stack, .comma => build (.array (value :: items) :: stack) .value rest
      | .array items :: stack, .closeArray => build stack (.after (.array (value :: items).reverse)) rest
      | .object fields name :: stack, .comma =>
        build (.object (putField name value fields) "" :: stack) .name rest
      | .object fields name :: stack, .closeObject =>
        build stack (.after (.object (putField name value fields))) rest
      | _, _ => fail .expectingComma

def read (text : String) : Except SyntaxError Json :=
  if text.toList.head? = some '\ufeff' then .error ⟨.byteOrderMark, 0⟩
  else build [] .value (tokens 0 text.toList)

end MachineInt.Json
