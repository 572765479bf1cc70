import MachineInt.Proofs.Numeral.Subword

/-!
# Readings in place

The readings once more, with nothing taken for granted: symbols are looked up in the whole text by their index, the
radix is any integer, and divisors and widths are looked at where they are used. A place outside the text, a zero for a
divisor or a width without a sign bit would stop a reading before it is decided. None of them ever comes up, and the
answers are those of the readings themselves. What is left to stop a call is that its failure cannot be put into words.
-/

namespace MachineInt

open Numeral

/-- What would stop a call without a report. -/
inductive Trap
  | outside (index : Nat)
  | arithmetic (cause : ArithmeticError)
  /-- The details of a failure name an integer that no text takes. -/
  | unwritable (cause : Unwritable)
  deriving DecidableEq, Repr

namespace InPlace

/-! ## The programs -/

def symbolAt (text : List Symbol) (index : Nat) : Except Trap Symbol :=
  match text[index]? with
  | some symbol => .ok symbol
  | none => .error (.outside index)

/-- Take the digits from `index` up to, but not including, `past`. -/
def digits (text : List Symbol) (radix limit threshold : Int) (past index : Nat) (total : Int) :
    Except Trap (Except Offence Int) :=
  if index < past then do
    let digit := digitValue (← symbolAt text index) radix
    if digit < 0 then pure (.error (.notDigit index))
    else if total < threshold then pure (.error (.tooLarge index))
    else if total * radix < limit + digit then pure (.error (.tooLarge index))
    else digits text radix limit threshold past (index + 1) (total * radix - digit)
  else pure (.ok total)
termination_by past - index

def sum (bits : Nat) (text : List Symbol) (radix : Int) (first past : Nat) :
    Except Trap (Except ReadError Int) :=
  let reading : Reading := ⟨spelled (cut text first past), radix⟩
  if past ≤ first then pure (.error (.noDigits reading))
  else do
    let sign := (← symbolAt text first).sign?
    let index := if sign.isSome then first + 1 else first
    if index = past then pure (.error (.noDigits reading))
    else do
      let limit := limit bits (sign.getD false)
      let threshold ← (truncatedQuotient limit radix).mapError .arithmetic
      match ← digits text radix limit threshold past index 0 with
      | .error offence => pure (.error (offence.toReadError reading))
      | .ok total => pure (.ok (if sign.getD false then total else -total))

def signed (text : List Symbol) (first past : Nat) (radix : Int) : Except Trap (Except ReadError Int) :=
  match readRadix radix with
  | .error cause => pure (.error cause)
  | .ok _ => sum 32 text radix first past

def unsigned (text : List Symbol) (first past : Nat) (radix : Int) : Except Trap (Except ReadError Int) :=
  if past ≤ first then pure (.error (.noDigits ⟨spelled (cut text first past), radix⟩))
  else do
    if (← symbolAt text first) = .char '-' then pure (.error (.minusUnsigned (spelled (cut text first past))))
    else
      match readRadix radix with
      | .error cause => pure (.error cause)
      | .ok _ =>
        if past - first ≤ 5 ∨ radix = 10 ∧ past - first ≤ 9 then sum 32 text radix first past
        else do
          match ← sum 64 text radix first past with
          | .error cause => pure (.error cause)
          | .ok value =>
            if upperHalf value ≠ 0 then pure (.error (.beyondUnsigned (spelled (cut text first past))))
            else pure (.ok (← (wrapAt value 32).mapError .arithmetic))

/-- Read a whole text. -/
def whole (read : List Symbol → Nat → Nat → Int → Except Trap (Except ReadError Int)) (text : Option String)
    (radix : Int) : Except Trap (Except ReadError Int) :=
  match text with
  | none => pure (.error .absent)
  | some text => read (symbols text) 0 (symbols text).length radix

/-- Read a part of a text. -/
def part (read : List Symbol → Nat → Nat → Int → Except Trap (Except ReadError Int)) (text : Option (List Symbol))
    (first past radix : Int) : Except Trap (Except ReadError Int) :=
  match text with
  | none => pure (.error .absent)
  | some text =>
    match checkBounds first past text.length with
    | .error cause => pure (.error cause)
    | .ok (first, past) => read text first past radix

def marked (text : Option String) : Except Trap (Except ReadError Int) :=
  match text with
  | none => pure (.error .absent)
  | some text =>
    if text.isEmpty then pure (.error .emptyText)
    else do
      let sign := (← symbolAt (symbols text) 0).sign?
      let (radix, body) := takeMark (text.toList.drop (if sign.isSome then 1 else 0))
      if startsWithSign body then pure (.error (.misplacedSign text))
      else whole signed (some (String.ofList (if sign.getD false then '-' :: body else body))) radix

/-- A 32-bit value that must fit a small width. -/
def keepFitting (bits : Int) (text : Option String) (radix : Option Int)
    (reading : Except Trap (Except ReadError Int)) : Except Trap (Except ReadError Int) := do
  match ← reading with
  | .error cause => pure (.error cause)
  | .ok value =>
    if ← (fitsAt value bits).mapError .arithmetic then pure (.ok value)
    else pure (.error (.outOfRange value (text.getD "") radix))

def smallPattern (bits : Nat) (text : Option String) (radix : Int) : Except Trap (Except ReadError Int) := do
  match ← whole unsigned text radix with
  | .error cause => pure (.error cause)
  | .ok value =>
    let value ← (unsignedAt value 32).mapError .arithmetic
    if value > unsignedMax bits then pure (.error (.outOfUnsignedRange value bits (text.getD "")))
    else pure (.ok (← (wrapAt value bits).mapError .arithmetic))

/-! ## Places inside the text -/

section

variable {text : List Symbol} {first past : Nat}

theorem cut_nil (reversed : past ≤ first) : cut text first past = [] := by
  rw [cut, List.drop_eq_nil_iff, List.length_take]
  omega

theorem cut_cons (before : first < past) (inside : past ≤ text.length) :
    ∃ symbol, symbolAt text first = .ok symbol ∧ cut text first past = symbol :: cut text (first + 1) past := by
  have there : first < text.length := by omega
  have taken : first < (text.take past).length := by rw [List.length_take]; omega
  refine ⟨text[first], ?_, ?_⟩
  · rw [symbolAt, List.getElem?_eq_getElem there]
  · rw [cut, List.drop_eq_getElem_cons taken, List.getElem_take]
    rfl

theorem length_cut (inside : past ≤ text.length) : (cut text first past).length = past - first := by
  rw [cut, List.length_drop, List.length_take]
  omega

theorem cut_eq_nil_iff (inside : past ≤ text.length) : cut text first past = [] ↔ past ≤ first := by
  rw [← List.length_eq_zero_iff, length_cut inside]
  omega

theorem digitValue_of_digit? {radix : Radix} {symbol : Symbol} {digit : Nat}
    (value : radix.digit? symbol = some digit) : digitValue symbol radix.value = digit := by
  rw [digitValue, ofInt_value]
  simp only [value, Option.elim_some]

theorem digitValue_of_foreign {radix : Radix} {symbol : Symbol} (foreign : radix.digit? symbol = none) :
    digitValue symbol radix.value = invalidDigit := by
  rw [digitValue, ofInt_value]
  simp only [foreign, Option.elim_none]

theorem digits_eq (inside : past ≤ text.length) (limit : Int) (radix : Radix) (index : Nat) (total : Int) :
    digits text radix.value limit (quotient limit radix.value) past index total =
      .ok (takeDigits limit radix index total (cut text index past)) := by
  induction remaining : past - index generalizing index total with
  | zero =>
    have ended : ¬ index < past := by omega
    rw [digits, if_neg ended, cut_nil (by omega)]
    rfl
  | succ rest ih =>
    have before : index < past := by omega
    obtain ⟨symbol, found, shape⟩ := cut_cons before inside
    rw [digits, if_pos before, found, shape, takeDigits]
    simp only [Bind.bind, Except.bind]
    cases value : radix.digit? symbol with
    | none =>
      rw [digitValue_of_foreign value]
      rfl
    | some digit =>
      rw [digitValue_of_digit? value, if_neg (by omega)]
      simp only [takeDigit]
      by_cases beyond : total < quotient limit radix.value
      · rw [if_pos beyond, if_pos beyond]
        rfl
      · rw [if_neg beyond, if_neg beyond]
        by_cases large : total * radix.value < limit + digit
        · rw [if_pos large, if_pos large]
          rfl
        · rw [if_neg large, if_neg large]
          exact ih (index + 1) _ (by omega)

theorem truncatedQuotient_radix (limit : Int) (radix : Radix) :
    truncatedQuotient limit radix.value = .ok (quotient limit radix.value) := by
  have positive := radix.value_pos
  rw [truncatedQuotient, if_neg (by omega)]

/-! ## The same answers -/

theorem sum_eq (inside : past ≤ text.length) (bits : Nat) (radix : Radix) (first : Nat) :
    sum bits text radix.value first past = .ok (accumulate bits radix first (cut text first past)) := by
  unfold sum accumulate
  by_cases reversed : past ≤ first
  · rw [if_pos reversed, cut_nil reversed]
    rfl
  · obtain ⟨symbol, found, shape⟩ := cut_cons (Nat.lt_of_not_le reversed) inside
    rw [if_neg reversed, found, shape, splitSign]
    simp only [Bind.bind, Except.bind, truncatedQuotient_radix, Except.mapError]
    cases symbol.sign? with
    | none =>
      have started : ¬ first = past := by omega
      simp only [Option.isSome_none, Bool.false_eq_true, if_false, if_neg started, digits_eq inside, shape,
        List.isEmpty_cons]
      generalize takeDigits _ radix first 0 _ = outcome
      cases outcome <;> rfl
    | some negative =>
      have ended : first + 1 = past ↔ (cut text (first + 1) past).isEmpty := by
        rw [List.isEmpty_iff, cut_eq_nil_iff inside]
        omega
      simp only [Option.isSome_some, if_true, ended, digits_eq inside]
      split
      · rfl
      · generalize takeDigits _ radix (first + 1) 0 _ = outcome
        cases outcome <;> rfl

theorem signed_eq (inside : past ≤ text.length) (first : Nat) (radix : Int) :
    signed text first past radix = .ok (signedLine first (cut text first past) radix) := by
  unfold signed signedLine
  cases given : readRadix radix with
  | error cause => rfl
  | ok base =>
    rw [readRadix_given given]
    exact sum_eq inside 32 base first

theorem isShort_cut (inside : past ≤ text.length) (radix : Radix) :
    past - first ≤ 5 ∨ (radix.value : Int) = 10 ∧ past - first ≤ 9 ↔
      isShort radix (cut text first past) = true := by
  have ten : (radix.value : Int) = 10 ↔ radix = Radix.ten := by
    constructor
    · intro equal
      obtain ⟨value, low, high⟩ := radix
      simp only [Radix.ten, Radix.mk.injEq]
      simp only at equal
      omega
    · rintro rfl
      rfl
  simp only [isShort, length_cut inside, Bool.or_eq_true, Bool.and_eq_true, decide_eq_true_eq, ten]

theorem unsigned_eq (inside : past ≤ text.length) (first : Nat) (radix : Int) :
    unsigned text first past radix = .ok (unsignedLine first (cut text first past) radix) := by
  unfold unsigned
  by_cases reversed : past ≤ first
  · rw [if_pos reversed, cut_nil reversed]
    rfl
  · obtain ⟨symbol, found, shape⟩ := cut_cons (Nat.lt_of_not_le reversed) inside
    rw [if_neg reversed, found]
    simp only [Bind.bind, Except.bind]
    rw [shape, unsignedLine, ← shape]
    by_cases minus : symbol = .char '-'
    · rw [if_pos minus, if_pos minus]
      rfl
    · rw [if_neg minus, if_neg minus]
      cases given : readRadix radix with
      | error cause => rfl
      | ok base =>
        rw [readRadix_given given]
        simp only [Bind.bind, Except.bind, isShort_cut inside, sum_eq inside]
        split
        · rfl
        · cases accumulate 64 base first (cut text first past) with
          | error cause => rfl
          | ok value =>
            dsimp only
            split <;> rfl

end

theorem cut_whole (text : List Symbol) : cut text 0 text.length = text := by
  rw [cut, List.take_length, List.drop_zero]

theorem checkBounds_inside {first past : Int} {length lower upper : Nat}
    (checked : checkBounds first past length = .ok (lower, upper)) : upper ≤ length := by
  unfold checkBounds at checked
  split at checked
  · cases checked
  · cases checked
    omega

section

variable {read : List Symbol → Nat → Nat → Int → Except Trap (Except ReadError Int)}
  {line : Nat → List Symbol → Int → Except ReadError Int}
  (same : ∀ {text : List Symbol} {past : Nat}, past ≤ text.length → ∀ (first : Nat) (radix : Int),
    read text first past radix = .ok (line first (cut text first past) radix))
include same

/-- A reading that is safe between two places is safe on a whole text, -/
theorem whole_eq (text : String) (radix : Int) : whole read (some text) radix = .ok (line 0 (symbols text) radix) := by
  rw [whole, same (Nat.le_refl _), cut_whole]

/-- and on a part of one, as bounds that pass the check are places of the text. -/
theorem part_eq (text : Option (List Symbol)) (first past radix : Int) :
    part read text first past radix = .ok (readPart line text first past radix) := by
  cases text with
  | none => rfl
  | some text =>
    simp only [part, readPart]
    cases checked : checkBounds first past text.length with
    | error cause => rfl
    | ok bounds =>
      obtain ⟨lower, upper⟩ := bounds
      exact same (checkBounds_inside checked) lower radix

end

theorem whole_signed_eq (text : Option String) (radix : Int) :
    whole signed text radix = .ok (readSigned text radix) := by
  cases text with
  | none => rfl
  | some text => exact whole_eq signed_eq text radix

theorem whole_unsigned_eq (text : Option String) (radix : Int) :
    whole unsigned text radix = .ok (readUnsigned text radix) := by
  cases text with
  | none => rfl
  | some text => exact whole_eq unsigned_eq text radix

theorem takeSign_cons (c : Char) (rest : List Char) :
    takeSign (c :: rest) =
      ((Symbol.char c).sign?.getD false, (c :: rest).drop (if (Symbol.char c).sign?.isSome then 1 else 0)) := by
  by_cases minus : c = '-'
  · rw [minus]
    rfl
  · by_cases plus : c = '+'
    · rw [plus]
      rfl
    · rw [takeSign]
      · simp [Symbol.sign?, minus, plus]
      · rintro _ ⟨⟩
        exact minus rfl
      · rintro _ ⟨⟩
        exact plus rfl

theorem marked_eq (text : Option String) : marked text = .ok (readMarked text) := by
  cases text with
  | none => rfl
  | some text =>
    simp only [marked, readMarked]
    by_cases empty : text.isEmpty
    · rw [if_pos empty, if_pos empty]
      rfl
    · rw [if_neg empty, if_neg empty]
      rw [String.isEmpty_iff, ← String.toList_eq_nil_iff] at empty
      obtain ⟨c, rest, shape⟩ := List.exists_cons_of_ne_nil empty
      -- There is a first character, so it can be looked at.
      have found : symbolAt (symbols text) 0 = .ok (.char c) := by simp [symbolAt, symbols, shape]
      simp only [found, shape, takeSign_cons, Bind.bind, Except.bind, whole_signed_eq]
      generalize takeMark _ = taken
      split <;> rfl

theorem keepFitting_eq (size : Subword) (text : Option String) (radix : Option Int) (reading : Except ReadError Int) :
    keepFitting size.bits text radix (.ok reading) = .ok (size.keepFitting text radix reading) := by
  cases reading with
  | error cause => rfl
  | ok value =>
    simp only [keepFitting, Subword.keepFitting, Bind.bind, Except.bind, fitsAt_of_pos size.bits_pos, Except.mapError,
      decide_eq_true_eq]
    split <;> rfl

theorem smallPattern_eq (size : Subword) (text : Option String) (radix : Int) :
    smallPattern size.bits text radix = .ok (size.readPattern text radix) := by
  rw [smallPattern, Subword.readPattern, whole_unsigned_eq]
  cases readUnsigned text radix with
  | error cause => rfl
  | ok value =>
    have view : unsignedAt value 32 = .ok (MachineInt.unsigned 32 value) := rfl
    simp only [Bind.bind, Except.bind, view, wrapAt_of_pos size.bits_pos, Except.mapError]
    split <;> rfl

end InPlace

end MachineInt
