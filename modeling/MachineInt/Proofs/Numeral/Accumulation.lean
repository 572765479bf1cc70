import MachineInt.Proofs.Division
import MachineInt.Proofs.Numeral.Language

/-!
# How a sum over digits ends

The running total is the negated positional sum of the digits read so far. The two guards of a step come to one
test: a digit is taken just when the sum that includes it stays within the limit. Sums only grow along a line, so a
line is taken whole when its own sum is within the limit, and is otherwise given up at the first symbol that is no
digit or whose sum passes the limit.
-/

namespace MachineInt.Numeral

/-! ## Limits -/

theorem limit_range (bits : Nat) (negative : Bool) :
    -signWeight bits ≤ limit bits negative ∧ limit bits negative ≤ 0 := by
  have positive := signWeight_pos bits
  unfold limit minValue maxValue
  split <;> omega

theorem limit_nonpos (bits : Nat) (negative : Bool) : limit bits negative ≤ 0 := (limit_range bits negative).2

/-- A magnitude is within the limit just when it fits the word with its sign. -/
theorem limit_le_iff (bits : Nat) (sign : Sign) (magnitude : Nat) :
    limit bits (sign.negative?.getD false) ≤ -(magnitude : Int) ↔ Fits bits (sign.apply magnitude) := by
  have positive := signWeight_pos bits
  cases sign <;> simp [limit, minValue, maxValue, Fits, Sign.apply, Sign.negative?] <;> omega

/-! ## One step -/

theorem takeDigit_eq {limit : Int} (nonpos : limit ≤ 0) (radix : Radix) (total : Int) (digit : Nat) :
    takeDigit limit radix total digit =
      if total * radix.value - digit < limit then none else some (total * radix.value - digit) := by
  have positive := Int.natCast_pos.mpr radix.value_pos
  simp only [takeDigit, lt_quotient_iff nonpos positive, sub_lt_iff_lt_add]
  -- A scaled total past the limit stays there when the digit goes off, so the second guard is the only one.
  split
  next beyond => rw [if_pos (by omega)]
  next => rfl

theorem neg_valueOf_concat (radix : Radix) (digits : List Nat) (digit : Nat) :
    -(radix.valueOf digits : Int) * radix.value - digit = -(radix.valueOf (digits ++ [digit]) : Int) := by
  rw [Radix.valueOf_concat]
  push_cast
  ring

/-- The total of the digits read so far, with one more digit. -/
theorem takeDigit_valueOf {limit : Int} (nonpos : limit ≤ 0) (radix : Radix) (digits : List Nat) (digit : Nat) :
    takeDigit limit radix (-radix.valueOf digits) digit =
      if -(radix.valueOf (digits ++ [digit]) : Int) < limit then none
      else some (-(radix.valueOf (digits ++ [digit]) : Int)) := by
  rw [takeDigit_eq nonpos, neg_valueOf_concat]

/-! ## A whole line -/

/-- Digits whose sum stays within the limit are taken, whatever comes after them. -/
theorem takeDigits_append {limit : Int} (nonpos : limit ≤ 0) {radix : Radix} {line : List Symbol}
    {digits : List Nat} (spelled : DigitLine radix line digits) (rest : List Symbol) (index : Nat)
    (read : List Nat) (within : limit ≤ -(radix.valueOf (read ++ digits) : Int)) :
    takeDigits limit radix index (-radix.valueOf read) (line ++ rest) =
      takeDigits limit radix (index + line.length) (-radix.valueOf (read ++ digits)) rest := by
  induction spelled generalizing index read with
  | nil => rw [List.append_nil]; rfl
  | @cons symbol digit line digits value _ ih =>
    rw [List.append_cons] at within
    -- The sum up to here is no larger than the whole one, so the limit is not passed yet.
    have smaller := radix.valueOf_le_append (read ++ [digit]) digits
    have taken : takeDigit limit radix (-(radix.valueOf read : Int)) digit =
        some (-(radix.valueOf (read ++ [digit]) : Int)) := by
      rw [takeDigit_valueOf nonpos, if_neg (by omega)]
    rw [List.cons_append, takeDigits, value]
    dsimp only
    rw [taken]
    dsimp only
    rw [ih (index + 1) (read ++ [digit]) within, List.length_cons, ← List.append_cons]
    congr 1
    omega

/-- How the sum over a line ends: after its last symbol, or at the first offence. -/
inductive Ends (limit : Int) (radix : Radix) (index : Nat) (read : List Nat) (line : List Symbol) :
    Except Offence Int → Prop
  | whole {digits : List Nat} (spelled : DigitLine radix line digits)
      (within : limit ≤ -(radix.valueOf (read ++ digits) : Int)) :
      Ends limit radix index read line (.ok (-radix.valueOf (read ++ digits)))
  | notDigit {before after : List Symbol} {symbol : Symbol} {digits : List Nat}
      (split : line = before ++ symbol :: after) (spelled : DigitLine radix before digits)
      (within : limit ≤ -(radix.valueOf (read ++ digits) : Int)) (foreign : radix.digit? symbol = none) :
      Ends limit radix index read line (.error (.notDigit (index + before.length)))
  | tooLarge {before after : List Symbol} {symbol : Symbol} {digits : List Nat} {digit : Nat}
      (split : line = before ++ symbol :: after) (spelled : DigitLine radix before digits)
      (within : limit ≤ -(radix.valueOf (read ++ digits) : Int)) (value : radix.digit? symbol = some digit)
      (beyond : -(radix.valueOf (read ++ digits ++ [digit]) : Int) < limit) :
      Ends limit radix index read line (.error (.tooLarge (index + before.length)))

/-- A symbol that is taken only moves the end along. -/
private theorem Ends.cons {limit : Int} {radix : Radix} {index : Nat} {read : List Nat} {line : List Symbol}
    {symbol : Symbol} {digit : Nat} {outcome : Except Offence Int} (value : radix.digit? symbol = some digit)
    (ends : Ends limit radix (index + 1) (read ++ [digit]) line outcome) :
    Ends limit radix index read (symbol :: line) outcome := by
  have shifted (before : List Symbol) : index + 1 + before.length = index + (symbol :: before).length := by
    rw [List.length_cons]
    omega
  cases ends with
  | whole spelled within =>
    rw [← List.append_cons] at within ⊢
    exact .whole (.cons value spelled) within
  | notDigit split spelled within foreign =>
    rw [← List.append_cons] at within
    rw [shifted]
    exact .notDigit (by rw [split, List.cons_append]) (.cons value spelled) within foreign
  | tooLarge split spelled within next beyond =>
    rw [← List.append_cons] at within beyond
    rw [shifted]
    exact .tooLarge (by rw [split, List.cons_append]) (.cons value spelled) within next beyond

theorem takeDigits_ends {limit : Int} (nonpos : limit ≤ 0) (radix : Radix) (line : List Symbol) (index : Nat)
    (read : List Nat) (within : limit ≤ -(radix.valueOf read : Int)) :
    Ends limit radix index read line (takeDigits limit radix index (-radix.valueOf read) line) := by
  induction line generalizing index read with
  | nil =>
    rw [← List.append_nil read] at within
    have ends : Ends limit radix index read [] _ := .whole .nil within
    rwa [List.append_nil] at ends
  | cons symbol line ih =>
    have start : limit ≤ -(radix.valueOf (read ++ []) : Int) := by rwa [List.append_nil]
    rw [takeDigits]
    cases value : radix.digit? symbol with
    | none => exact .notDigit (List.nil_append _).symm .nil start value
    | some digit =>
      -- Either the sum with this digit is the first to pass the limit, or the rest of the line decides.
      dsimp only
      rw [takeDigit_valueOf nonpos]
      split
      next taken =>
        split at taken
        next beyond => exact .tooLarge (List.nil_append _).symm .nil start value (by rwa [List.append_nil])
        · cases taken
      next taken =>
        split at taken
        · cases taken
        next enough =>
          cases taken
          exact .cons value (ih (index + 1) (read ++ [digit]) (by omega))

theorem takeDigits_of_ends {limit : Int} (nonpos : limit ≤ 0) {radix : Radix} {line : List Symbol} {index : Nat}
    {read : List Nat} {outcome : Except Offence Int} (ends : Ends limit radix index read line outcome) :
    takeDigits limit radix index (-radix.valueOf read) line = outcome := by
  cases ends with
  | whole spelled within =>
    have taken := takeDigits_append nonpos spelled [] index read within
    rwa [List.append_nil] at taken
  | notDigit split spelled within foreign =>
    rw [split, takeDigits_append nonpos spelled _ index read within, takeDigits, foreign]
  | tooLarge split spelled within value beyond =>
    rw [split, takeDigits_append nonpos spelled _ index read within, takeDigits, value]
    dsimp only
    rw [takeDigit_valueOf nonpos, if_pos beyond]

/-- From zero on, a line ends in exactly one way. -/
theorem takeDigits_iff {limit : Int} (nonpos : limit ≤ 0) (radix : Radix) (index : Nat) (line : List Symbol)
    (outcome : Except Offence Int) :
    takeDigits limit radix index 0 line = outcome ↔ Ends limit radix index [] line outcome := by
  have start : -(radix.valueOf [] : Int) = 0 := by simp
  constructor
  · rintro rfl
    have ends := takeDigits_ends nonpos radix line index [] (by rwa [start])
    rwa [start] at ends
  · intro ends
    have taken := takeDigits_of_ends nonpos ends
    rwa [start] at taken

/-! ## The whole numeral -/

section

variable (bits : Nat) (radix : Radix) {first index : Nat} {line body : List Symbol} {sign : Option Bool}

theorem accumulate_eq_ok_iff (split : splitSign first line = (sign, index, body)) (value : Int) :
    accumulate bits radix first line = .ok value ↔
      body ≠ [] ∧ ∃ digits, DigitLine radix body digits ∧
        limit bits (sign.getD false) ≤ -(radix.valueOf digits : Int) ∧
        value = if sign.getD false then -(radix.valueOf digits : Int) else radix.valueOf digits := by
  simp only [accumulate, split, List.isEmpty_iff]
  constructor
  · intro read
    split at read
    · cases read
    next nonempty =>
      split at read
      · cases read
      next total taken =>
        cases (takeDigits_iff (limit_nonpos ..) ..).mp taken with
        | @whole digits spelled within =>
          rw [List.nil_append] at within read
          simp only [neg_neg, Except.ok.injEq] at read
          exact ⟨nonempty, digits, spelled, within, read.symm⟩
  · rintro ⟨nonempty, digits, spelled, within, rfl⟩
    have taken := (takeDigits_iff (limit_nonpos ..) radix index body _).mpr (.whole spelled within)
    rw [if_neg nonempty, taken, List.nil_append]
    simp only [neg_neg]

theorem accumulate_eq_error_iff (split : splitSign first line = (sign, index, body)) (cause : ReadError) :
    accumulate bits radix first line = .error cause ↔
      (body = [] ∧ cause = .noDigits ⟨spelled line, radix.value⟩) ∨
      (body ≠ [] ∧ ∃ offence, Ends (limit bits (sign.getD false)) radix index [] body (.error offence) ∧
        cause = offence.toReadError ⟨spelled line, radix.value⟩) := by
  simp only [accumulate, split, List.isEmpty_iff, ← takeDigits_iff (limit_nonpos bits (sign.getD false))]
  by_cases empty : body = []
  · simp [empty, eq_comm]
  · rw [if_neg empty]
    cases takeDigits (limit bits (sign.getD false)) radix index 0 body with
    | error offence => simp [empty, eq_comm]
    | ok total => simp [empty]

end

end MachineInt.Numeral
