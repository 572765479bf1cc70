import MachineInt.Proofs.Numeral.OnIntegers
import MachineInt.Proofs.Pattern.Ones

/-!
# Words are patterns

An operation on words takes integers of any size. It does not tell integers apart that are congruent modulo `2 ^ 32`, nor
distances that are congruent modulo 32, however late it cuts its operands or its result. And what it answers is a word,
unless it is the unsigned view that was asked for.
-/

namespace MachineInt

/-! ## Requests -/

/-- An operation on one word; one that writes a numeral in a radix has that radix with it. -/
inductive Unary
  | highestOne
  | lowestOne
  | leadingZeros
  | trailingZeros
  | ones
  | reverseBits
  | reverseBytes
  | sign
  | unsigned
  | signedText (radix : Int)
  | unsignedText (radix : Int)
  | unsignedDecimalText
  | hexText
  | octalText
  | binaryText
  deriving DecidableEq, Repr

/-- An operation on a word and a distance. -/
inductive Move
  | turnLeft
  | turnRight
  | shiftRight
  | shiftLeft
  | shiftRightSigned
  deriving DecidableEq, Repr

/-- An operation on two words. -/
inductive Binary
  | signedOrder
  | unsignedOrder
  | sum
  | max
  | min
  | unsignedQuotient
  | unsignedRemainder
  deriving DecidableEq, Repr

/-- An operation and what it is given. -/
inductive Request
  | unary (operation : Unary) (word : Int)
  | move (operation : Move) (word amount : Int)
  | binary (operation : Binary) (first second : Int)
  deriving DecidableEq, Repr

inductive Reply
  | number (value : Int)
  | text (value : String)
  deriving DecidableEq, Repr

/-- What an operation can be stopped by. -/
inductive Stop
  | arithmetic (cause : ArithmeticError)
  | slip (cause : Numeral.Slip)
  deriving DecidableEq, Repr

/-! ## Answers -/

def Unary.answer : Unary → Int → Reply
  | .highestOne, word => .number (MachineInt.highestOne word)
  | .lowestOne, word => .number (MachineInt.lowestOne word)
  | .leadingZeros, word => .number (MachineInt.leadingZeros word)
  | .trailingZeros, word => .number (MachineInt.trailingZeros word)
  | .ones, word => .number (MachineInt.ones word)
  | .reverseBits, word => .number (MachineInt.reverseBits word)
  | .reverseBytes, word => .number (MachineInt.reverseBytes word)
  | .sign, word => .number (MachineInt.sign word)
  | .unsigned, word => .number (MachineInt.unsigned 32 word)
  | .signedText radix, word => .text (MachineInt.signedText word radix)
  | .unsignedText radix, word => .text (MachineInt.unsignedText word radix)
  | .unsignedDecimalText, word => .text (MachineInt.unsignedDecimalText word)
  | .hexText, word => .text (MachineInt.hexText word)
  | .octalText, word => .text (MachineInt.octalText word)
  | .binaryText, word => .text (MachineInt.binaryText word)

def Move.answer : Move → Int → Int → Int
  | .turnLeft => MachineInt.turnLeft
  | .turnRight => MachineInt.turnRight
  | .shiftRight => MachineInt.shiftRight
  | .shiftLeft => MachineInt.shiftLeft
  | .shiftRightSigned => MachineInt.shiftRightSigned

def Binary.answer : Binary → Int → Int → Except ArithmeticError Int
  | .signedOrder, x, y => .ok (orderSign (MachineInt.signedOrder x y))
  | .unsignedOrder, x, y => .ok (orderSign (MachineInt.unsignedOrder x y))
  | .sum, x, y => .ok (wordSum x y)
  | .max, x, y => .ok (wordMax x y)
  | .min, x, y => .ok (wordMin x y)
  | .unsignedQuotient, x, y => MachineInt.unsignedQuotient x y
  | .unsignedRemainder, x, y => MachineInt.unsignedRemainder x y

/-- What the operation answers. -/
def Request.answer : Request → Except ArithmeticError Reply
  | .unary operation word => .ok (operation.answer word)
  | .move operation word amount => .ok (.number (operation.answer word amount))
  | .binary operation first second => (operation.answer first second).map .number

/-! ## Answers on integers without a bound -/

def Unary.onIntegers : Unary → Int → Except Numeral.Slip Reply
  | .highestOne, word => .ok (.number (OnIntegers.highestOne word))
  | .lowestOne, word => .ok (.number (OnIntegers.lowestOne word))
  | .leadingZeros, word => .ok (.number (OnIntegers.leadingZeros word))
  | .trailingZeros, word => .ok (.number (OnIntegers.trailingZeros word))
  | .ones, word => .ok (.number (OnIntegers.ones word))
  | .reverseBits, word => .ok (.number (OnIntegers.reverseBits word))
  | .reverseBytes, word => .ok (.number (OnIntegers.reverseBytes word))
  | .sign, word => .ok (.number (OnIntegers.sign word))
  | .unsigned, word => .ok (.number (OnIntegers.low word))
  | .signedText radix, word => (OnIntegers.signedText word radix).map .text
  | .unsignedText radix, word => (OnIntegers.unsignedText word radix).map .text
  | .unsignedDecimalText, word => (OnIntegers.unsignedDecimalText word).map .text
  | .hexText, word => (OnIntegers.hexText word).map .text
  | .octalText, word => (OnIntegers.octalText word).map .text
  | .binaryText, word => (OnIntegers.binaryText word).map .text

def Move.onIntegers : Move → Int → Int → Int
  | .turnLeft => OnIntegers.turnLeft
  | .turnRight => OnIntegers.turnRight
  | .shiftRight => OnIntegers.shiftRight
  | .shiftLeft => OnIntegers.shiftLeft
  | .shiftRightSigned => OnIntegers.shiftRightSigned

def Binary.onIntegers : Binary → Int → Int → Except ArithmeticError Int
  | .signedOrder, x, y => .ok (OnIntegers.signedOrder x y)
  | .unsignedOrder, x, y => .ok (OnIntegers.unsignedOrder x y)
  | .sum, x, y => .ok (OnIntegers.wordSum x y)
  | .max, x, y => .ok (OnIntegers.wordMax x y)
  | .min, x, y => .ok (OnIntegers.wordMin x y)
  | .unsignedQuotient, x, y => OnIntegers.unsignedQuotient x y
  | .unsignedRemainder, x, y => OnIntegers.unsignedRemainder x y

/-- What comes of the operation as it is carried out on integers. -/
def Request.onIntegers : Request → Except Stop Reply
  | .unary operation word => (operation.onIntegers word).mapError .slip
  | .move operation word amount => .ok (.number (operation.onIntegers word amount))
  | .binary operation first second => ((operation.onIntegers first second).mapError .arithmetic).map .number

/-! ### The same answers -/

theorem Unary.onIntegers_eq (operation : Unary) (word : Int) :
    operation.onIntegers word = .ok (operation.answer word) := by
  cases operation with
  | highestOne => rw [onIntegers, OnIntegers.highestOne_eq, answer]
  | lowestOne => rw [onIntegers, OnIntegers.lowestOne_eq, answer]
  | leadingZeros => rw [onIntegers, OnIntegers.leadingZeros_eq, answer]
  | trailingZeros => rw [onIntegers, OnIntegers.trailingZeros_eq, answer]
  | ones => rw [onIntegers, OnIntegers.ones_eq, answer]
  | reverseBits => rw [onIntegers, OnIntegers.reverseBits_eq, answer]
  | reverseBytes => rw [onIntegers, OnIntegers.reverseBytes_eq, answer]
  | sign => rw [onIntegers, OnIntegers.sign_eq, answer]
  | unsigned => rw [onIntegers, OnIntegers.low_eq, answer]
  | signedText radix => rw [onIntegers, OnIntegers.signedText_eq, answer, Except.map]
  | unsignedText radix => rw [onIntegers, OnIntegers.unsignedText_eq, answer, Except.map]
  | unsignedDecimalText => rw [onIntegers, OnIntegers.unsignedDecimalText_eq, answer, Except.map]
  | hexText => rw [onIntegers, OnIntegers.hexText_eq, answer, Except.map]
  | octalText => rw [onIntegers, OnIntegers.octalText_eq, answer, Except.map]
  | binaryText => rw [onIntegers, OnIntegers.binaryText_eq, answer, Except.map]

theorem Move.onIntegers_eq (operation : Move) (word amount : Int) :
    operation.onIntegers word amount = operation.answer word amount := by
  cases operation with
  | turnLeft => exact OnIntegers.turnLeft_eq word amount
  | turnRight => exact OnIntegers.turnRight_eq word amount
  | shiftRight => exact OnIntegers.shiftRight_eq word amount
  | shiftLeft => exact OnIntegers.shiftLeft_eq word amount
  | shiftRightSigned => exact OnIntegers.shiftRightSigned_eq word amount

theorem Binary.onIntegers_eq (operation : Binary) (first second : Int) :
    operation.onIntegers first second = operation.answer first second := by
  cases operation with
  | signedOrder => rw [onIntegers, OnIntegers.signedOrder_eq, answer]
  | unsignedOrder => rw [onIntegers, OnIntegers.unsignedOrder_eq, answer]
  | sum => rw [onIntegers, OnIntegers.wordSum_eq, answer]
  | max => rw [onIntegers, OnIntegers.wordMax_eq, answer]
  | min => rw [onIntegers, OnIntegers.wordMin_eq, answer]
  | unsignedQuotient => exact OnIntegers.unsignedQuotient_eq first second
  | unsignedRemainder => exact OnIntegers.unsignedRemainder_eq first second

/-- Nothing but a division by zero stops an operation. -/
theorem Request.onIntegers_eq (request : Request) : request.onIntegers = request.answer.mapError .arithmetic := by
  cases request with
  | unary operation word => rw [onIntegers, Unary.onIntegers_eq, answer, Except.mapError, Except.mapError]
  | move operation word amount => rw [onIntegers, Move.onIntegers_eq, answer, Except.mapError]
  | binary operation first second =>
    rw [onIntegers, Binary.onIntegers_eq, answer]
    cases operation.answer first second <;> rfl

/-! ## Congruent requests -/

theorem pattern_eq_of_modEq {x y : Int} (same : x ≡ y [ZMOD 2 ^ 32]) : pattern x = pattern y :=
  (ofInt_eq_iff x y).mpr (unsigned_eq_iff_modEq.mpr same)

theorem distance_eq_of_modEq {x y : Int} (same : x ≡ y [ZMOD 32]) : distance x = distance y :=
  congrArg Int.toNat same

/-- The same operation on operands that only differ above the word, and on distances that only differ in full turns. -/
inductive Request.Congruent : Request → Request → Prop
  | unary (operation : Unary) {word other : Int} (same : word ≡ other [ZMOD 2 ^ 32]) :
    Congruent (.unary operation word) (.unary operation other)
  | move (operation : Move) {word other amount turned : Int} (same : word ≡ other [ZMOD 2 ^ 32])
    (far : amount ≡ turned [ZMOD 32]) : Congruent (.move operation word amount) (.move operation other turned)
  | binary (operation : Binary) {first other second another : Int} (same : first ≡ other [ZMOD 2 ^ 32])
    (alike : second ≡ another [ZMOD 2 ^ 32]) :
    Congruent (.binary operation first second) (.binary operation other another)

theorem Unary.answer_congr (operation : Unary) {word other : Int} (same : word ≡ other [ZMOD 2 ^ 32]) :
    operation.answer word = operation.answer other := by
  have bits := pattern_eq_of_modEq same
  have view := unsigned_eq_iff_modEq.mpr same
  have signed := wrap_eq_iff_modEq.mpr same
  cases operation <;>
    simp only [answer, MachineInt.highestOne, MachineInt.lowestOne, MachineInt.leadingZeros, MachineInt.trailingZeros,
      MachineInt.ones, MachineInt.reverseBits, MachineInt.reverseBytes, MachineInt.sign, MachineInt.signedText,
      MachineInt.unsignedText, MachineInt.unsignedDecimalText, MachineInt.hexText, MachineInt.octalText,
      MachineInt.binaryText, bits, view, signed]

/-- Also in the other direction distances only differ in full turns. -/
theorem Move.answer_congr (operation : Move) {word other amount turned : Int} (same : word ≡ other [ZMOD 2 ^ 32])
    (far : amount ≡ turned [ZMOD 32]) : operation.answer word amount = operation.answer other turned := by
  have bits := pattern_eq_of_modEq same
  have forth := distance_eq_of_modEq far
  have back := distance_eq_of_modEq far.neg
  cases operation <;>
    simp only [answer, MachineInt.turnLeft, MachineInt.turnRight, MachineInt.shiftRight, MachineInt.shiftLeft,
      MachineInt.shiftRightSigned, Pattern.turnLeft, Pattern.turnRight, Pattern.shiftRight, Pattern.shiftLeft,
      Pattern.shiftRightSigned, bits, forth, back]

theorem Binary.answer_congr (operation : Binary) {first other second another : Int}
    (same : first ≡ other [ZMOD 2 ^ 32]) (alike : second ≡ another [ZMOD 2 ^ 32]) :
    operation.answer first second = operation.answer other another := by
  have left := wrap_eq_iff_modEq.mpr same
  have right := wrap_eq_iff_modEq.mpr alike
  have leftView := unsigned_eq_iff_modEq.mpr same
  have rightView := unsigned_eq_iff_modEq.mpr alike
  -- For the unsigned order the operands are moved before they are cut off.
  have leftMoved := wrap_eq_iff_modEq.mpr (same.add_right (minValue 32))
  have rightMoved := wrap_eq_iff_modEq.mpr (alike.add_right (minValue 32))
  have sum := wrap_eq_iff_modEq.mpr (same.add alike)
  cases operation <;>
    simp only [answer, MachineInt.signedOrder, MachineInt.unsignedOrder, wordSum, wordMax, wordMin,
      MachineInt.unsignedQuotient, MachineInt.unsignedRemainder, left, right, leftView, rightView, leftMoved,
      rightMoved, sum]

theorem Request.answer_congr {request other : Request} (congruent : request.Congruent other) :
    request.answer = other.answer := by
  cases congruent with
  | unary operation same => rw [answer, answer, operation.answer_congr same]
  | move operation same far => rw [answer, answer, operation.answer_congr same far]
  | binary operation same alike => rw [answer, answer, operation.answer_congr same alike]

/-! ## Answers are words -/

theorem fits_natCast {count : Nat} (few : count ≤ 32) : Fits 32 count := by
  rw [fits_word_iff]
  omega

theorem Pattern.trailingZeros_le (x : Pattern) : x.trailingZeros ≤ 32 := by
  by_cases zero : x = 0
  · rw [zero, trailingZeros_zero]
  · obtain ⟨lowest, least⟩ := exists_isLeast zero
    rw [trailingZeros_eq least]
    exact (lt_of_mem_onePlaces least.1).le

theorem Pattern.ones_le (x : Pattern) : x.ones ≤ 32 := by
  rw [ones_eq]
  exact (Finset.card_filter_le _ _).trans_eq (Finset.card_range 32)

theorem fits_orderSign (order : Ordering) : Fits 32 (orderSign order) := by
  cases order <;> decide

theorem Unary.fits_answer {operation : Unary} (narrow : operation ≠ .unsigned) {word value : Int}
    (answered : operation.answer word = .number value) : Fits 32 value := by
  cases operation with
  | unsigned => exact absurd rfl narrow
  | leadingZeros =>
    cases answered
    exact fits_natCast (Pattern.leadingZeros_le _)
  | trailingZeros =>
    cases answered
    exact fits_natCast (Pattern.trailingZeros_le _)
  | ones =>
    cases answered
    exact fits_natCast (Pattern.ones_le _)
  | highestOne | lowestOne | reverseBits | reverseBytes | sign =>
    cases answered
    exact fits_toInt _
  | signedText | unsignedText | unsignedDecimalText | hexText | octalText | binaryText => cases answered

theorem Move.fits_answer (operation : Move) (word amount : Int) : Fits 32 (operation.answer word amount) := by
  cases operation <;> exact fits_toInt _

theorem Binary.fits_answer {operation : Binary} {first second value : Int}
    (answered : operation.answer first second = .ok value) : Fits 32 value := by
  have wrapped : ∀ value, Fits 32 (wrap 32 value) := fits_wrap (by decide)
  cases operation with
  | signedOrder | unsignedOrder =>
    cases answered
    exact fits_orderSign _
  | sum =>
    cases answered
    exact wrapped _
  | max =>
    cases answered
    exact max_rec' (Fits 32) (wrapped _) (wrapped _)
  | min =>
    cases answered
    exact min_rec' (Fits 32) (wrapped _) (wrapped _)
  | unsignedQuotient =>
    rw [answer, MachineInt.unsignedQuotient] at answered
    split at answered
    · cases answered
    · cases answered
      exact wrapped _
  | unsignedRemainder =>
    rw [answer, MachineInt.unsignedRemainder] at answered
    split at answered
    · cases answered
    · cases answered
      exact wrapped _

/-- The unsigned view of a word is the one answer that need not be a word. -/
def Request.Narrow : Request → Prop
  | .unary operation _ => operation ≠ .unsigned
  | _ => True

theorem Request.fits_answer {request : Request} (narrow : request.Narrow) {value : Int}
    (answered : request.answer = .ok (.number value)) : Fits 32 value := by
  cases request with
  | unary operation word => exact Unary.fits_answer narrow (Except.ok.inj answered)
  | move operation word amount =>
    cases answered
    exact operation.fits_answer word amount
  | binary operation first second =>
    rw [answer] at answered
    cases result : operation.answer first second with
    | error cause =>
      rw [result] at answered
      cases answered
    | ok number =>
      rw [result] at answered
      cases answered
      exact Binary.fits_answer result

theorem mapError_eq_ok {ε ε' α : Type} {f : ε → ε'} {result : Except ε α} {value : α} :
    result.mapError f = .ok value ↔ result = .ok value := by
  cases result <;> simp [Except.mapError]

/-- Requests that are congruent come to the same, on patterns and on integers without a bound, be it an answer or a
division by zero; and a number that is answered is a word. -/
theorem answers_of_congruent {request other : Request} (congruent : request.Congruent other) :
    request.onIntegers = other.onIntegers ∧ request.answer = other.answer ∧
    request.onIntegers = request.answer.mapError .arithmetic ∧
    (request.Narrow → ∀ value, request.onIntegers = .ok (.number value) → -2 ^ 31 ≤ value ∧ value ≤ 2 ^ 31 - 1) := by
  have same := Request.answer_congr congruent
  refine ⟨?_, same, request.onIntegers_eq, ?_⟩
  · rw [Request.onIntegers_eq, Request.onIntegers_eq, same]
  · intro narrow value answered
    rw [Request.onIntegers_eq, mapError_eq_ok] at answered
    exact (fits_word_iff value).mp (Request.fits_answer narrow answered)

/-- One place to the left, with an operand that is no word and a distance below zero. -/
theorem answers_of_congruent_turned :
    Request.Congruent (.move .turnLeft 4294967297 (-31)) (.move .turnLeft 1 1) ∧
    Request.Narrow (.move .turnLeft 4294967297 (-31)) ∧
    Request.onIntegers (.move .turnLeft 4294967297 (-31)) = .ok (.number 2) ∧ -2 ^ 31 ≤ (2 : Int) := by
  have congruent : Request.Congruent (.move .turnLeft 4294967297 (-31)) (.move .turnLeft 1 1) :=
    .move .turnLeft (by decide) (by decide)
  have turned : OnIntegers.turnLeft 1 1 = 2 := by decide +kernel
  have answered : Request.onIntegers (.move .turnLeft 4294967297 (-31)) = .ok (.number 2) := by
    rw [(answers_of_congruent congruent).1, Request.onIntegers, Move.onIntegers, turned]
  have range := (answers_of_congruent congruent).2.2.2 trivial 2 answered
  exact ⟨congruent, trivial, answered, range.1⟩

end MachineInt
