import MachineInt.Proofs.Numeral.Accumulation

/-!
# Sums that stay in the word

The sum over a numeral once more, with the arithmetic left open: each number is written down as it is computed, and
the program goes on with what the arithmetic keeps of it. Exact arithmetic gives the sum itself, everything that the
sum computes is written down, and none of it leaves the word. So an arithmetic that wraps every one of these numbers,
as a machine does, gives the same sum.
-/

namespace MachineInt.Numeral

/-- A number that comes up in a sum, by the part it plays. -/
inductive Number
  | limit (value : Int)
  | threshold (value : Int)
  | total (value : Int)
  | scaled (value : Int)
  | floor (value : Int)
  | answer (value : Int)
  deriving DecidableEq, Repr

def Number.value : Number → Int
  | .limit value | .threshold value | .total value | .scaled value | .floor value | .answer value => value

/-- A result and the numbers that came up on the way to it. -/
structure Recorded (α : Type) where
  result : α
  numbers : List Number

namespace Recorded

instance : Monad Recorded where
  pure result := ⟨result, []⟩
  bind first next := ⟨(next first.result).result, first.numbers ++ (next first.result).numbers⟩

@[simp] theorem result_pure {α : Type} (result : α) : (pure result : Recorded α).result = result := rfl
@[simp] theorem numbers_pure {α : Type} (result : α) : (pure result : Recorded α).numbers = [] := rfl
@[simp] theorem result_bind {α β : Type} (first : Recorded α) (next : α → Recorded β) :
    (first >>= next).result = (next first.result).result := rfl
@[simp] theorem numbers_bind {α β : Type} (first : Recorded α) (next : α → Recorded β) :
    (first >>= next).numbers = first.numbers ++ (next first.result).numbers := rfl

end Recorded

/-! ## The program -/

section Program

variable (keep : Number → Int)

/-- Write a number down and go on with what the arithmetic keeps of it. -/
def note (number : Number) : Recorded Int := ⟨keep number, [number]⟩

@[simp] theorem result_note (number : Number) : (note keep number).result = keep number := rfl
@[simp] theorem numbers_note (number : Number) : (note keep number).numbers = [number] := rfl

def takeDigitIn (limit threshold : Int) (radix : Radix) (total : Int) (digit : Nat) : Recorded (Option Int) :=
  if total < threshold then pure none
  else do
    let scaled ← note keep (.scaled (total * radix.value))
    let floor ← note keep (.floor (limit + digit))
    if scaled < floor then pure none
    else do
      let total ← note keep (.total (scaled - digit))
      pure (some total)

def takeDigitsIn (limit threshold : Int) (radix : Radix) :
    Nat → Int → List Symbol → Recorded (Except Offence Int)
  | _, total, [] => pure (.ok total)
  | index, total, symbol :: line =>
    match radix.digit? symbol with
    | none => pure (.error (.notDigit index))
    | some digit => do
      match ← takeDigitIn keep limit threshold radix total digit with
      | none => pure (.error (.tooLarge index))
      | some total => takeDigitsIn limit threshold radix (index + 1) total line

/-- The limit of a positive sum comes first; a minus puts the other one in its place. -/
def limitIn (bits : Nat) (negative : Bool) : Recorded Int := do
  let limit ← note keep (.limit (-maxValue bits))
  if negative then note keep (.limit (minValue bits)) else pure limit

def accumulateIn (bits : Nat) (radix : Radix) (first : Nat) (line : List Symbol) :
    Recorded (Except ReadError Int) := do
  let reading : Reading := ⟨spelled line, radix.value⟩
  let (sign, index, digits) := splitSign first line
  let negative := sign.getD false
  let limit ← limitIn keep bits negative
  if digits.isEmpty then pure (.error (.noDigits reading))
  else do
    let threshold ← note keep (.threshold (quotient limit radix.value))
    let start ← note keep (.total 0)
    match ← takeDigitsIn keep limit threshold radix index start digits with
    | .error offence => pure (.error (offence.toReadError reading))
    | .ok total =>
      if negative then pure (.ok total)
      else do
        let answer ← note keep (.answer (-total))
        pure (.ok answer)

end Program

/-- The arithmetic of a machine word. -/
def wrapped (bits : Nat) (number : Number) : Int := wrap bits number.value

/-! ## Exact arithmetic is the sum itself -/

theorem result_takeDigitIn (limit : Int) (radix : Radix) (total : Int) (digit : Nat) :
    (takeDigitIn Number.value limit (quotient limit radix.value) radix total digit).result =
      takeDigit limit radix total digit := by
  unfold takeDigitIn takeDigit
  split
  · rfl
  · by_cases beyond : total * radix.value < limit + digit <;> simp [Number.value, beyond]

theorem result_takeDigitsIn (limit : Int) (radix : Radix) (index : Nat) (total : Int) (line : List Symbol) :
    (takeDigitsIn Number.value limit (quotient limit radix.value) radix index total line).result =
      takeDigits limit radix index total line := by
  induction line generalizing index total with
  | nil => rfl
  | cons symbol line ih =>
    rw [takeDigitsIn, takeDigits]
    cases radix.digit? symbol with
    | none => rfl
    | some digit =>
      simp only [Recorded.result_bind, result_takeDigitIn]
      cases takeDigit limit radix total digit with
      | none => rfl
      | some total => exact ih (index + 1) total

theorem result_limitIn (bits : Nat) (negative : Bool) :
    (limitIn Number.value bits negative).result = limit bits negative := by
  cases negative <;> rfl

theorem result_accumulateIn (bits : Nat) (radix : Radix) (first : Nat) (line : List Symbol) :
    (accumulateIn Number.value bits radix first line).result = accumulate bits radix first line := by
  unfold accumulateIn accumulate
  obtain ⟨sign, index, digits⟩ := splitSign first line
  simp only [Recorded.result_bind, result_limitIn]
  split
  · rfl
  · simp only [Recorded.result_bind, result_note, Number.value, result_takeDigitsIn]
    cases takeDigits (limit bits (sign.getD false)) radix index 0 digits with
    | error offence => rfl
    | ok total =>
      dsimp only
      split <;> rfl

/-! ## What is written down -/

/-- The digits that a sum tries, each with the total that it finds. The last of them may be one digit too many. -/
def tries (limit : Int) (radix : Radix) : Int → List Symbol → List (Int × Nat)
  | _, [] => []
  | total, symbol :: line =>
    match radix.digit? symbol with
    | none => []
    | some digit =>
      (total, digit) ::
        match takeDigit limit radix total digit with
        | none => []
        | some next => tries limit radix next line

/-- A try has been written down: the total that it starts from, and behind the first guard the scaled total and what it
is held against, and behind the second one the next total. -/
structure Tried (limit : Int) (radix : Radix) (numbers : List Number) (total : Int) (digit : Nat) : Prop where
  start : .total total ∈ numbers
  scaled : quotient limit radix.value ≤ total → .scaled (total * radix.value) ∈ numbers
  floor : quotient limit radix.value ≤ total → .floor (limit + digit) ∈ numbers
  next : ∀ next, takeDigit limit radix total digit = some next → .total next ∈ numbers

/-- A sum has been written down: the limit it begins with and the one it keeps, and if there are digits, the threshold,
the first total and all tries, and at the end of a positive sum the answer, which is its total with the sign changed. -/
structure Summed (bits : Nat) (radix : Radix) (negative : Bool) (digits : List Symbol) (result : Except ReadError Int)
    (numbers : List Number) : Prop where
  first : .limit (-maxValue bits) ∈ numbers
  kept : .limit (limit bits negative) ∈ numbers
  threshold : digits ≠ [] → .threshold (quotient (limit bits negative) radix.value) ∈ numbers
  start : digits ≠ [] → .total 0 ∈ numbers
  tried : ∀ entry ∈ tries (limit bits negative) radix 0 digits,
    Tried (limit bits negative) radix numbers entry.1 entry.2
  answer : negative = false → ∀ value, result = .ok value → .answer value ∈ numbers

theorem tried_takeDigitIn {limit : Int} {radix : Radix} {total : Int} {digit : Nat} {numbers : List Number}
    (started : .total total ∈ numbers)
    (kept : (takeDigitIn Number.value limit (quotient limit radix.value) radix total digit).numbers ⊆ numbers) :
    Tried limit radix numbers total digit := by
  unfold takeDigitIn at kept
  split at kept
  next below =>
    have stopped : ¬ quotient limit radix.value ≤ total := Int.not_le.mpr below
    refine ⟨started, fun enough => absurd enough stopped, fun enough => absurd enough stopped, ?_⟩
    intro next taken
    rw [takeDigit, if_pos below] at taken
    cases taken
  next enough =>
    simp only [Recorded.numbers_bind, numbers_note, result_note, Number.value, List.cons_append, List.nil_append,
      List.cons_subset] at kept
    obtain ⟨scaled, floor, rest⟩ := kept
    refine ⟨started, fun _ => scaled, fun _ => floor, ?_⟩
    intro next taken
    simp only [takeDigit, if_neg enough] at taken
    split at taken
    · cases taken
    next fits =>
      cases taken
      simpa [fits, Number.value] using rest

/-- The first total stands in the record before the digits are taken, and each further one is put there by the try that
makes it. -/
theorem tried_takeDigitsIn {limit : Int} {radix : Radix} {numbers : List Number} (line : List Symbol) (index : Nat)
    {total : Int} (started : .total total ∈ numbers)
    (kept : (takeDigitsIn Number.value limit (quotient limit radix.value) radix index total line).numbers ⊆ numbers) :
    ∀ entry ∈ tries limit radix total line, Tried limit radix numbers entry.1 entry.2 := by
  induction line generalizing index total with
  | nil => simp [tries]
  | cons symbol line ih =>
    rw [takeDigitsIn] at kept
    rw [tries]
    cases found : radix.digit? symbol with
    | none => simp
    | some digit =>
      simp only [found, Recorded.numbers_bind, result_takeDigitIn, List.append_subset] at kept
      have here := tried_takeDigitIn started kept.1
      rw [List.forall_mem_cons]
      refine ⟨here, ?_⟩
      cases taken : takeDigit limit radix total digit with
      | none => simp
      | some next =>
        simp only [taken] at kept
        exact ih (index + 1) (here.next next taken) kept.2

theorem limits_limitIn (bits : Nat) (negative : Bool) :
    .limit (-maxValue bits) ∈ (limitIn Number.value bits negative).numbers ∧
    .limit (limit bits negative) ∈ (limitIn Number.value bits negative).numbers := by
  cases negative <;> simp [limitIn, limit]

theorem summed_accumulateIn (bits : Nat) (radix : Radix) (first : Nat) (line : List Symbol) :
    Summed bits radix ((splitSign first line).1.getD false) (splitSign first line).2.2
      (accumulate bits radix first line) (accumulateIn Number.value bits radix first line).numbers := by
  unfold accumulateIn accumulate
  obtain ⟨sign, index, digits⟩ := splitSign first line
  dsimp only
  generalize sign.getD false = negative
  have limits := limits_limitIn bits negative
  cases digits with
  | nil => exact ⟨by simp [limits.1], by simp [limits.2], by simp, by simp, by simp [tries], by simp⟩
  | cons symbol rest =>
    simp only [Recorded.numbers_bind, result_limitIn, List.isEmpty_cons, Bool.false_eq_true, if_false, numbers_note,
      result_note, Number.value, result_takeDigitsIn]
    refine ⟨by simp [limits.1], by simp [limits.2], by simp, by simp, ?_, ?_⟩
    · apply tried_takeDigitsIn _ index
      · simp
      · intro number member
        simp [member]
    · rintro rfl value summed
      cases taken : takeDigits (limit bits false) radix index 0 (symbol :: rest) with
      | error offence => simp [taken] at summed
      | ok total =>
        simp only [taken, Bool.false_eq_true, if_false, Except.ok.injEq] at summed
        simp [summed, Number.value]

/-! ## No number leaves the word -/

/-- The number is a word, and if it is a running total, it lies between the limit and zero. -/
def Number.Inside (bits : Nat) (limit : Int) (number : Number) : Prop :=
  Fits bits number.value ∧ ∀ total, number = .total total → limit ≤ total ∧ total ≤ 0

theorem quotient_range {limit : Int} (nonpos : limit ≤ 0) (radix : Radix) :
    limit ≤ quotient limit radix.value ∧ quotient limit radix.value ≤ 0 := by
  have positive := Int.natCast_pos.mpr radix.value_pos
  have nonneg : 0 ≤ -limit := by omega
  have low := Int.ediv_le_self (radix.value : Int) nonneg
  have high := Int.ediv_nonneg nonneg (le_of_lt positive)
  rw [quotient_of_nonpos nonpos positive]
  omega

/-- A total between the limit and zero stays there. -/
theorem takeDigit_range {limit total next : Int} (nonpos : limit ≤ 0) {radix : Radix} {digit : Nat}
    (below : total ≤ 0) (taken : takeDigit limit radix total digit = some next) :
    limit ≤ next ∧ next ≤ 0 := by
  rw [takeDigit_eq nonpos] at taken
  split at taken
  · cases taken
  next enough =>
    cases taken
    have scaled := Int.mul_nonpos_of_nonpos_of_nonneg below (Int.natCast_nonneg radix.value)
    omega

theorem Number.inside_of_between {bits : Nat} {negative : Bool} {number : Number}
    (low : Numeral.limit bits negative ≤ number.value) (high : number.value ≤ 0) :
    number.Inside bits (Numeral.limit bits negative) := by
  have positive := signWeight_pos bits
  have range := limit_range bits negative
  refine ⟨⟨by omega, by omega⟩, ?_⟩
  rintro total rfl
  exact ⟨low, high⟩

theorem Number.inside_of_fits {bits : Nat} {limit : Int} {number : Number} (fits : Fits bits number.value)
    (noTotal : ∀ total, number ≠ .total total) : number.Inside bits limit :=
  ⟨fits, fun total equal => absurd equal (noTotal total)⟩

theorem takeDigits_range {limit : Int} (nonpos : limit ≤ 0) (radix : Radix) (line : List Symbol) (index : Nat)
    {total last : Int} (within : limit ≤ total) (below : total ≤ 0)
    (taken : takeDigits limit radix index total line = .ok last) : limit ≤ last ∧ last ≤ 0 := by
  induction line generalizing index total with
  | nil =>
    cases taken
    exact ⟨within, below⟩
  | cons symbol line ih =>
    rw [takeDigits] at taken
    split at taken
    · cases taken
    · split at taken
      · cases taken
      next next step =>
        have range := takeDigit_range nonpos below step
        exact ih (index + 1) range.1 range.2 taken

theorem inside_limitIn (bits : Nat) (negative : Bool) :
    ∀ number ∈ (limitIn Number.value bits negative).numbers, number.Inside bits (limit bits negative) := by
  have positive := signWeight_pos bits
  have first : (Number.limit (-maxValue bits)).Inside bits (limit bits negative) := by
    apply Number.inside_of_between <;> cases negative <;> simp [Number.value, limit, maxValue, minValue] <;> omega
  cases negative with
  | false => simpa [limitIn] using first
  | true =>
    have second : (Number.limit (minValue bits)).Inside bits (limit bits true) :=
      Number.inside_of_between (Int.le_refl _) (limit_nonpos bits true)
    simp [limitIn, first, second]

theorem inside_answer {bits : Nat} {total : Int} (within : limit bits false ≤ total) (below : total ≤ 0) :
    (Number.answer (-total)).Inside bits (limit bits false) := by
  have positive := signWeight_pos bits
  simp only [limit, maxValue, Bool.false_eq_true, if_false] at within
  apply Number.inside_of_fits
  · simp only [Fits, Number.value]
    omega
  · rintro total ⟨⟩

section Inside

variable {bits : Nat} (roomy : (maxRadix : Int) < signWeight bits) (negative : Bool)
include roomy

theorem inside_floor {radix : Radix} {digit : Nat} (small : digit < radix.value) :
    (Number.floor (limit bits negative + digit)).Inside bits (limit bits negative) := by
  have range := limit_range bits negative
  have high := radix.le_max
  apply Number.inside_of_fits
  · simp only [Fits, Number.value]
    omega
  · rintro total ⟨⟩

theorem inside_takeDigitIn {radix : Radix} {total : Int} {digit : Nat} (small : digit < radix.value)
    (below : total ≤ 0) :
    ∀ number ∈ (takeDigitIn Number.value (limit bits negative)
        (quotient (limit bits negative) radix.value) radix total digit).numbers,
      number.Inside bits (limit bits negative) := by
  have nonpos := (limit_range bits negative).2
  have positive := Int.natCast_pos.mpr radix.value_pos
  have scaled := Int.mul_nonpos_of_nonpos_of_nonneg below (le_of_lt positive)
  unfold takeDigitIn
  split
  · simp
  next enough =>
    -- The first guard has passed, which is what keeps the product inside.
    rw [lt_quotient_iff nonpos positive, not_lt] at enough
    have first : (Number.scaled (total * radix.value)).Inside bits (limit bits negative) :=
      Number.inside_of_between enough scaled
    have second := inside_floor roomy negative small
    by_cases beyond : total * radix.value < limit bits negative + digit
    · simp [Number.value, beyond, first, second]
    · have third : (Number.total (total * radix.value - digit)).Inside bits (limit bits negative) := by
        apply Number.inside_of_between <;> simp only [Number.value] <;> omega
      simp [Number.value, beyond, first, second, third]

theorem inside_takeDigitsIn (radix : Radix) (line : List Symbol) (index : Nat) {total : Int} (below : total ≤ 0) :
    ∀ number ∈ (takeDigitsIn Number.value (limit bits negative)
        (quotient (limit bits negative) radix.value) radix index total line).numbers,
      number.Inside bits (limit bits negative) := by
  induction line generalizing index total with
  | nil => simp [takeDigitsIn]
  | cons symbol line ih =>
    rw [takeDigitsIn]
    cases value : radix.digit? symbol with
    | none => simp
    | some digit =>
      simp only [Recorded.numbers_bind, result_takeDigitIn]
      have step := inside_takeDigitIn roomy negative (Radix.digit?_lt value) below
      cases taken : takeDigit (limit bits negative) radix total digit with
      | none => simpa using step
      | some next =>
        -- The next total is again between the limit and zero, which carries the induction.
        have range := takeDigit_range (limit_nonpos bits negative) below taken
        intro number member
        rcases List.mem_append.mp member with here | later
        · exact step number here
        · exact ih (index + 1) range.2 number later

theorem inside_accumulateIn (radix : Radix) (first : Nat) (line : List Symbol) :
    ∀ number ∈ (accumulateIn Number.value bits radix first line).numbers,
      number.Inside bits (limit bits ((splitSign first line).1.getD false)) := by
  unfold accumulateIn
  obtain ⟨sign, index, digits⟩ := splitSign first line
  dsimp only
  generalize sign.getD false = negative
  have nonpos := limit_nonpos bits negative
  have limits := inside_limitIn bits negative
  have range := quotient_range nonpos radix
  have threshold :
      (Number.threshold (quotient (limit bits negative) radix.value)).Inside bits (limit bits negative) :=
    Number.inside_of_between range.1 range.2
  have start : (Number.total 0).Inside bits (limit bits negative) :=
    Number.inside_of_between nonpos (Int.le_refl 0)
  have run := inside_takeDigitsIn roomy negative radix digits index (Int.le_refl 0)
  -- The numbers come up in the order of the program: limits, threshold, start, digits, answer.
  intro number member
  simp only [Recorded.numbers_bind, result_limitIn, List.mem_append] at member
  rcases member with known | member
  · exact limits number known
  split at member
  · cases member
  simp only [Recorded.numbers_bind, numbers_note, result_note, Number.value, List.mem_append,
    List.mem_singleton, result_takeDigitsIn] at member
  rcases member with rfl | rfl | known | member
  · exact threshold
  · exact start
  · exact run number known
  cases taken : takeDigits (limit bits negative) radix index 0 digits with
  | error offence => simp [taken] at member
  | ok total =>
    have last := takeDigits_range nonpos radix digits index nonpos (Int.le_refl 0) taken
    cases negative with
    | true => simp [taken] at member
    | false =>
      simp only [taken, Bool.false_eq_true, if_false, Recorded.numbers_bind, numbers_note, Recorded.numbers_pure,
        List.append_nil, List.mem_singleton] at member
      subst number
      exact inside_answer last.1 last.2

end Inside

/-! ## Arithmetics that agree -/

/-- The runs are the same if the arithmetic keeps every number that comes up in the second. -/
def Agree (keep : Number → Int) {α : Type} (run exact : Recorded α) : Prop :=
  (∀ number ∈ exact.numbers, keep number = number.value) → run = exact

section Agreement

variable (keep : Number → Int)

theorem Agree.refl {α : Type} (run : Recorded α) : Agree keep run run := fun _ => rfl

theorem Agree.note (number : Number) : Agree keep (note keep number) (note Number.value number) := by
  intro keeps
  rw [Numeral.note, Numeral.note, keeps number (List.mem_singleton.mpr rfl)]

theorem Agree.bind {α β : Type} {run exact : Recorded α} {next rest : α → Recorded β}
    (first : Agree keep run exact) (later : ∀ result, Agree keep (next result) (rest result)) :
    Agree keep (run >>= next) (exact >>= rest) := by
  intro keeps
  rw [Recorded.numbers_bind, List.forall_mem_append] at keeps
  -- Both go on from the same result, so the rest is one and the same program.
  have same := first keeps.1
  subst same
  simp only [Bind.bind, later run.result keeps.2]

theorem takeDigitIn_agree (limit threshold : Int) (radix : Radix) (total : Int) (digit : Nat) :
    Agree keep (takeDigitIn keep limit threshold radix total digit)
      (takeDigitIn Number.value limit threshold radix total digit) := by
  unfold takeDigitIn
  split
  · exact .refl keep _
  · refine .bind keep (.note keep _) fun scaled => .bind keep (.note keep _) fun floor => ?_
    split
    · exact .refl keep _
    · exact .bind keep (.note keep _) fun total => .refl keep _

theorem takeDigitsIn_agree (limit threshold : Int) (radix : Radix) (index : Nat) (total : Int) (line : List Symbol) :
    Agree keep (takeDigitsIn keep limit threshold radix index total line)
      (takeDigitsIn Number.value limit threshold radix index total line) := by
  induction line generalizing index total with
  | nil => exact .refl keep _
  | cons symbol line ih =>
    rw [takeDigitsIn, takeDigitsIn]
    cases radix.digit? symbol with
    | none => exact .refl keep _
    | some digit =>
      refine .bind keep (takeDigitIn_agree keep limit threshold radix total digit) fun taken => ?_
      cases taken with
      | none => exact .refl keep _
      | some next => exact ih (index + 1) next

theorem limitIn_agree (bits : Nat) (negative : Bool) :
    Agree keep (limitIn keep bits negative) (limitIn Number.value bits negative) := by
  refine .bind keep (.note keep _) fun limit => ?_
  cases negative with
  | false => exact .refl keep _
  | true => exact .note keep _

/-- An arithmetic cannot be told from the exact one when it keeps every number that comes up. -/
theorem accumulateIn_agree (bits : Nat) (radix : Radix) (first : Nat) (line : List Symbol) :
    Agree keep (accumulateIn keep bits radix first line) (accumulateIn Number.value bits radix first line) := by
  unfold accumulateIn
  obtain ⟨sign, index, digits⟩ := splitSign first line
  refine .bind keep (limitIn_agree keep bits _) fun limit => ?_
  split
  · exact .refl keep _
  refine .bind keep (.note keep _) fun threshold => .bind keep (.note keep _) fun start => ?_
  refine .bind keep (takeDigitsIn_agree keep limit threshold radix index start digits) fun taken => ?_
  cases taken with
  | error offence => exact .refl keep _
  | ok total =>
    dsimp only
    split
    · exact .refl keep _
    · exact .bind keep (.note keep _) fun answer => .refl keep _

end Agreement

/-- No number of a sum leaves the word, running totals lie between the limit and zero, and wrapped arithmetic gives
the same result, whatever line is summed up and wherever in its text it begins. The numbers that this is said of are all
that the sum computes. -/
theorem accumulate_inside_word {bits : Nat} (size : bits = 32 ∨ bits = 64) (radix : Radix) (first : Nat)
    (line : List Symbol) :
    (accumulateIn Number.value bits radix first line).result = accumulate bits radix first line ∧
    (∀ number ∈ (accumulateIn Number.value bits radix first line).numbers,
      -2 ^ (bits - 1) ≤ number.value ∧ number.value ≤ 2 ^ (bits - 1) - 1) ∧
    (∀ total, .total total ∈ (accumulateIn Number.value bits radix first line).numbers →
      limit bits ((splitSign first line).1.getD false) ≤ total ∧ total ≤ 0) ∧
    (accumulateIn (wrapped bits) bits radix first line).result = accumulate bits radix first line ∧
    Summed bits radix ((splitSign first line).1.getD false) (splitSign first line).2.2
      (accumulate bits radix first line) (accumulateIn Number.value bits radix first line).numbers := by
  have positive : 0 < bits := by omega
  have roomy : (maxRadix : Int) < signWeight bits := by rcases size with rfl | rfl <;> decide
  have whole : signWeight bits = 2 ^ (bits - 1) := by rcases size with rfl | rfl <;> decide
  have inside := inside_accumulateIn roomy radix first line
  have exact := result_accumulateIn bits radix first line
  have agree := accumulateIn_agree (wrapped bits) bits radix first line
  refine ⟨exact, ?_, ?_, ?_, summed_accumulateIn bits radix first line⟩
  · intro number member
    have fits := (inside number member).1
    rw [Fits, whole] at fits
    omega
  · intro total member
    exact (inside _ member).2 total rfl
  · -- Every number is a word, so wrapping keeps it.
    rw [agree fun number member => wrap_of_fits positive (inside number member).1, exact]

/-- The least word is summed up to the end of its range, and wrapping does not disturb it. -/
theorem accumulate_inside_word_least :
    (32 = 32 ∨ 32 = 64) ∧
    .total (-2 ^ 31) ∈ (accumulateIn Number.value 32 .ten 0 (symbols "-2147483648")).numbers ∧
    (accumulateIn (wrapped 32) 32 .ten 0 (symbols "-2147483648")).result = .ok (-2 ^ 31) :=
  ⟨.inl rfl, by decide, (accumulate_inside_word (.inl rfl) .ten 0 (symbols "-2147483648")).2.2.2.1.trans (by rfl)⟩

end MachineInt.Numeral
