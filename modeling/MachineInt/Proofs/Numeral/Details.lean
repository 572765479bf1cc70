import MachineInt.Proofs.Numeral.Offence
import MachineInt.Proofs.Numeral.Part

/-!
# Failures that cannot be put into words

The details of a failure name integers: the radix, the bounds, the place in the text. An integer of more than 4300
digits stands in no text, so a call that fails and has to name one is stopped before there is a report of the failure.
Nothing else stops a call. Texts are never that long themselves, so it takes a radix or a bound to do it, and for each
call there is a condition on what it is given.
-/

namespace MachineInt

open Numeral

/-! ## Integers in texts -/

/-- The integer has more than 4300 digits. -/
def IsLong (value : Int) : Prop := 10 ^ 4300 ≤ |value|

theorem abs_lt_pow_iff (value : Int) (count : Nat) : |value| < 10 ^ count ↔ value.natAbs < 10 ^ count := by
  rw [Int.abs_eq_natAbs]
  exact_mod_cast Iff.rfl

theorem not_isLong_iff (value : Int) : ¬ IsLong value ↔ value.natAbs < 10 ^ 4300 := by
  rw [IsLong, not_le, abs_lt_pow_iff]

theorem isWritable_iff (value : Int) : isWritable value = true ↔ ¬ IsLong value := by
  have power (count : Nat) : Nat.pow 10 count = 10 ^ count := rfl
  rw [not_isLong_iff, isWritable, decide_eq_true_eq, power, maxDigits]

theorem not_isLong_natCast {value : Nat} (short : value < 10 ^ 4300) : ¬ IsLong value := by
  rwa [not_isLong_iff, Int.natAbs_natCast]

theorem lt_pow_of_lt {value few count : Nat} (small : value < 10 ^ few) (le : few ≤ count) : value < 10 ^ count :=
  small.trans_le (Nat.pow_le_pow_right (by decide) le)

/-- Words are far from being long. -/
theorem not_isLong_of_natAbs_lt {value : Int} (small : value.natAbs < 10 ^ 10) : ¬ IsLong value := by
  rw [not_isLong_iff]
  exact lt_pow_of_lt small (by decide)

theorem not_isLong_radix (radix : Radix) : ¬ IsLong radix.value := by
  have high := radix.le_max
  apply not_isLong_of_natAbs_lt
  rw [maxRadix] at high
  omega

theorem not_isLong_of_fits {value : Int} (fits : Fits 32 value) : ¬ IsLong value := by
  apply not_isLong_of_natAbs_lt
  rw [Fits, signWeight_word] at fits
  omega

theorem written_bind {α : Type} (value : Int) (next : String → Except Unwritable α) :
    (written value >>= next) = if isWritable value then next (toString value) else .error ⟨value⟩ := by
  unfold written
  split <;> rfl

/-- What comes of a text that names these integers from left to right. -/
def naming (named : List Int) (text : String) : Except Unwritable String :=
  match named.find? (!isWritable ·) with
  | none => pure text
  | some given => .error ⟨given⟩

theorem naming_nil (text : String) : naming [] text = pure text := rfl

theorem naming_cons (value : Int) (named : List Int) (text : String) :
    naming (value :: named) text = if isWritable value then naming named text else .error ⟨value⟩ := by
  unfold naming
  cases writable : isWritable value <;> simp [writable]

/-- One more integer at the end of a text. -/
theorem naming_bind (named : List Int) (text : String) (value : Int) (join : String → String → String) :
    (naming named text >>= fun shown => written value >>= fun digits => pure (join shown digits)) =
      naming (named ++ [value]) (join text (toString value)) := by
  -- The first integer that cannot be written decides on both sides, so the last is only looked at when all others can.
  induction named with
  | nil => rw [List.nil_append, naming_cons, naming_nil, naming_nil, pure_bind, written_bind]
  | cons first rest ih =>
    rw [List.cons_append, naming_cons, naming_cons]
    split
    · exact ih
    · rfl

theorem naming_eq_ok_iff (named : List Int) (text shown : String) :
    naming named text = .ok shown ↔ (∀ value ∈ named, ¬ IsLong value) ∧ shown = text := by
  induction named with
  | nil => simp [naming_nil, pure, Except.pure, eq_comm]
  | cons first rest ih =>
    rw [naming_cons, List.forall_mem_cons]
    by_cases long : IsLong first
    · have stops : ¬ isWritable first = true := fun writable => (isWritable_iff first).mp writable long
      simp [stops, long]
    · rw [if_pos ((isWritable_iff first).mpr long), ih]
      simp [long]

/-! ## What failures name -/

def Reading.named (reading : Reading) : List Int := if reading.radix = 10 then [] else [reading.radix]

theorem Reading.wording_written (reading : Reading) :
    reading.wording written = naming reading.named reading.describe := by
  rw [describe_eq_ite, wording, named]
  split
  · rfl
  · rw [written_bind, naming_cons]
    rfl

namespace ReadError

/-- The integers that a failure names, from left to right. -/
def named : ReadError → List Int
  | .badRadix (.tooSmall given) | .badRadix (.tooLarge given) => [given]
  | .badBounds first past length => [first, past, length]
  | .noDigits reading => reading.named
  | .notDigit reading index | .tooLarge reading index => reading.named ++ [(index : Int)]
  | .outOfRange value _ none => [value]
  | .outOfRange value _ (some radix) => [value, radix]
  | .outOfUnsignedRange value bits _ => [value, bits]
  | .absent | .emptyText | .minusUnsigned _ | .beyondUnsigned _ | .misplacedSign _ => []

/-- The details are the message, unless it names an integer that cannot be written; the first such is what is
missing. -/
theorem details_eq (cause : ReadError) : cause.details = naming cause.named cause.message := by
  -- A wording asks for its integers one after the other, so each case is one row of conditions on both sides.
  cases cause with
  | badRadix cause =>
    cases cause <;>
    · simp only [details, wording, RadixError.wording, written_bind, named, naming_cons]
      rfl
  | badBounds | outOfUnsignedRange =>
    simp only [details, wording, written_bind, named, naming_cons]
    rfl
  | outOfRange value text radix =>
    cases radix <;>
    · simp only [details, wording, written_bind, named, naming_cons]
      rfl
  | noDigits reading => exact reading.wording_written
  | notDigit reading index | tooLarge reading index =>
    simp only [details, wording, reading.wording_written]
    exact naming_bind reading.named reading.describe index fun shown digits => s!"{shown} (error at index {digits})"
  | absent | emptyText | minusUnsigned | beyondUnsigned | misplacedSign => rfl

theorem details_eq_ok_iff (cause : ReadError) (text : String) :
    cause.details = .ok text ↔ (∀ value ∈ cause.named, ¬ IsLong value) ∧ text = cause.message := by
  rw [details_eq, naming_eq_ok_iff]

end ReadError

/-- The reading fails, and the failure names an integer that no text takes. -/
def NamesLong {α : Type} (reading : Except ReadError α) : Prop :=
  ∃ cause, reading = .error cause ∧ ∃ value ∈ cause.named, IsLong value

@[simp] theorem namesLong_ok {α : Type} (value : α) : ¬ NamesLong (.ok value : Except ReadError α) := by
  rintro ⟨_, ⟨⟩, _⟩

@[simp] theorem namesLong_error_iff {α : Type} (cause : ReadError) :
    NamesLong (.error cause : Except ReadError α) ↔ ∃ value ∈ cause.named, IsLong value := by
  simp [NamesLong]

@[simp] theorem namesLong_ite_iff {α : Type} (condition : Prop) [Decidable condition]
    (yes no : Except ReadError α) :
    NamesLong (if condition then yes else no) ↔ (condition → NamesLong yes) ∧ (¬ condition → NamesLong no) := by
  by_cases met : condition <;> simp [met]

@[simp] theorem namesLong_bind_iff {α β : Type} (first : Except ReadError α) (next : α → Except ReadError β) :
    NamesLong (first >>= next) ↔ NamesLong first ∨ ∃ value, first = .ok value ∧ NamesLong (next value) := by
  cases first with
  | ok value => simp [Bind.bind, Except.bind, namesLong_ok]
  | error cause => simp [Bind.bind, Except.bind, namesLong_error_iff]

theorem publish_error (cause : ReadError) :
    Report.publish (.error cause) = cause.details.map (Report.failure cause.kind) := by
  rw [Report.publish]
  cases cause.details <;> rfl

theorem publish_eq_ok_iff (reading : Except ReadError Int) (report : Report) :
    Report.publish reading = .ok report ↔ ¬ NamesLong reading ∧ report = .ofReading reading := by
  cases reading with
  | ok value => simp [Report.publish, namesLong_ok, Report.ofReading, eq_comm]
  | error cause =>
    rw [publish_error, namesLong_error_iff, Report.ofReading]
    constructor
    · intro published
      cases told : cause.details with
      | error given => simp [told, Except.map] at published
      | ok text =>
        obtain ⟨short, rfl⟩ := (cause.details_eq_ok_iff text).mp told
        rw [told] at published
        cases published
        exact ⟨by simpa using short, rfl⟩
    · rintro ⟨short, rfl⟩
      rw [(cause.details_eq_ok_iff _).mpr ⟨by simpa using short, rfl⟩]
      rfl

/-! ## What readings name -/

theorem Reading.namesLong_iff (reading : Reading) : (∃ value ∈ reading.named, IsLong value) ↔ IsLong reading.radix := by
  unfold named
  split
  next ten =>
    have short : ¬ IsLong 10 := not_isLong_of_natAbs_lt (by decide)
    simp [ten, short]
  · simp

theorem named_toReadError (reading : Reading) (offence : Offence) :
    (offence.toReadError reading).named = reading.named ++ [(offence.place : Int)] := by
  cases offence <;> rfl

theorem namesLong_readRadix_iff (radix : Int) : NamesLong (readRadix radix) ↔ IsLong radix := by
  unfold readRadix Radix.ofInt
  split
  · simp [Except.mapError, namesLong_error_iff, ReadError.named]
  next low =>
    split
    · simp [Except.mapError, namesLong_error_iff, ReadError.named]
    next high =>
      -- Between the two bounds it is accepted, and it is not long either.
      have small : radix.natAbs < 10 ^ 10 := by
        rw [minRadix] at low
        rw [maxRadix] at high
        omega
      simp [Except.mapError, namesLong_ok, not_isLong_of_natAbs_lt small]

theorem namesLong_checkBounds_iff (first past : Int) (length : Nat) :
    NamesLong (checkBounds first past length) ↔
      ¬ (0 ≤ first ∧ first ≤ past ∧ past ≤ length) ∧ (IsLong first ∨ IsLong past ∨ IsLong length) := by
  unfold checkBounds
  split
  next outside =>
    have outside : ¬ (0 ≤ first ∧ first ≤ past ∧ past ≤ length) := by omega
    simp [namesLong_error_iff, ReadError.named, outside]
  next inside =>
    have inside : 0 ≤ first ∧ first ≤ past ∧ past ≤ length := by omega
    simp [namesLong_ok, inside]

theorem Numeral.Ends.place_lt {limit : Int} {radix : Radix} {index : Nat} {read : List Nat} {line : List Symbol}
    {offence : Offence} (ends : Ends limit radix index read line (.error offence)) :
    offence.place < index + line.length := by
  cases ends with
  | notDigit split | tooLarge split =>
    rw [split, List.length_append, List.length_cons, Offence.place]
    omega

theorem length_splitSign {first index : Nat} {line body : List Symbol} {sign : Option Bool}
    (split : splitSign first line = (sign, index, body)) : index + body.length = first + line.length := by
  unfold splitSign at split
  split at split
  · cases split
    rfl
  · split at split
    · cases split
      rw [List.length_cons]
      omega
    · cases split
      rfl

/-- A sum names its radix and a place on its line, and neither is long. -/
theorem not_namesLong_accumulate (bits : Nat) (radix : Radix) {first : Nat} {line : List Symbol}
    (short : first + line.length < 10 ^ 4300) : ¬ NamesLong (accumulate bits radix first line) := by
  rintro ⟨cause, failed, long⟩
  have base := not_isLong_radix radix
  rcases (accumulate_eq_error_iff bits radix rfl cause).mp failed with ⟨_, rfl⟩ | ⟨_, offence, ends, rfl⟩
  · exact base ((Reading.namesLong_iff _).mp long)
  · have place := ends.place_lt
    rw [length_splitSign rfl] at place
    obtain ⟨value, member, long⟩ := long
    rw [named_toReadError, List.mem_append, List.mem_singleton] at member
    rcases member with known | rfl
    · exact base ((Reading.namesLong_iff _).mp ⟨value, known, long⟩)
    · exact not_isLong_natCast (place.trans short) long

section

variable {first : Nat} {line : List Symbol} (short : first + line.length < 10 ^ 4300)
include short

theorem namesLong_signedLine_iff (radix : Int) : NamesLong (signedLine first line radix) ↔ IsLong radix := by
  rw [signedLine, namesLong_bind_iff, namesLong_readRadix_iff]
  simp [not_namesLong_accumulate 32 _ short]

/-- A minus is refused before the radix is looked at. -/
theorem namesLong_unsignedLine_iff (radix : Int) :
    NamesLong (unsignedLine first line radix) ↔ IsLong radix ∧ line.head? ≠ some (.char '-') := by
  cases line with
  | nil => simp [unsignedLine, namesLong_error_iff, ReadError.named, Reading.namesLong_iff]
  | cons symbol rest =>
    rw [unsignedLine]
    by_cases minus : symbol = .char '-'
    · simp [minus, namesLong_error_iff, ReadError.named]
    · have sums (base : Radix) (bits : Nat) : ¬ NamesLong (accumulate bits base first (symbol :: rest)) :=
        not_namesLong_accumulate bits base short
      simp [minus, namesLong_readRadix_iff, sums, ReadError.named]

end

theorem length_symbols_lt {text : String} (short : text.length < 10 ^ 4300) :
    0 + (symbols text).length < 10 ^ 4300 := by
  rwa [Nat.zero_add, symbols, List.length_map, String.length_toList]

section

variable {text : Option String} (short : text.elim 0 String.length < 10 ^ 4300)
include short

theorem namesLong_readSigned_iff (radix : Int) : NamesLong (readSigned text radix) ↔ text ≠ none ∧ IsLong radix := by
  cases text with
  | none => simp [readSigned, ReadError.named]
  | some text =>
    simp [readSigned, namesLong_signedLine_iff (length_symbols_lt short)]

theorem namesLong_readUnsigned_iff (radix : Int) :
    NamesLong (readUnsigned text radix) ↔
      ∃ given, text = some given ∧ IsLong radix ∧ (symbols given).head? ≠ some (.char '-') := by
  cases text with
  | none => simp [readUnsigned, ReadError.named]
  | some text =>
    simp [readUnsigned, namesLong_unsignedLine_iff (length_symbols_lt short)]

/-- The radixes that a text can name itself are short. -/
theorem not_namesLong_readMarked : ¬ NamesLong (readMarked text) := by
  cases text with
  | none => simp [readMarked, ReadError.named]
  | some text =>
    by_cases empty : text = ""
    · subst empty
      simp [readMarked, ReadError.named]
    obtain ⟨sign, mark, body, radix, split, marks⟩ := exists_split text.toList
    -- What is summed up is the text without its mark, so it is no longer than the text.
    have whole := congrArg List.length (eq_append_of_detachSign split)
    have kept : sign.kept.text.length ≤ sign.text.length := by cases sign <;> decide
    have room : 0 + ((sign.kept.text ++ body).map Symbol.char).length < 10 ^ 4300 := by
      refine lt_of_le_of_lt ?_ short
      rw [String.length_toList, List.length_append, List.length_append] at whole
      rw [List.length_map, List.length_append, Option.elim_some]
      omega
    have sum := not_namesLong_accumulate 32 radix room
    rw [readMarked_eq empty split marks]
    split
    · simp [ReadError.named]
    · exact sum

end

section

variable {read : Nat → List Symbol → Int → Except ReadError Int} {Names : List Symbol → Int → Prop}
  (same : ∀ {first : Nat} {line : List Symbol}, first + line.length < 10 ^ 4300 → ∀ radix : Int,
    NamesLong (read first line radix) ↔ Names line radix)
include same

/-- A part whose bounds are good names what its line names, and any other its bounds. -/
theorem namesLong_readPart_iff {text : List Symbol} (short : text.length < 10 ^ 4300) (first past radix : Int) :
    NamesLong (readPart read (some text) first past radix) ↔
      if 0 ≤ first ∧ first ≤ past ∧ past ≤ text.length then Names (cut text first.toNat past.toNat) radix
      else IsLong first ∨ IsLong past := by
  rw [readPart, namesLong_bind_iff, namesLong_checkBounds_iff]
  split
  next inside =>
    have room : first.toNat + (cut text first.toNat past.toNat).length < 10 ^ 4300 := by
      refine lt_of_le_of_lt ?_ short
      rw [InPlace.length_cut (by omega)]
      omega
    simp [inside, checkBounds_inside_eq inside, same room]
  next outside =>
    simp [outside, checkBounds_outside_eq outside, not_isLong_natCast short]

end

namespace Subword

theorem namesLong_keepFitting_iff (size : Subword) (text : Option String) {radix : Option Int}
    {reading : Except ReadError Int} (plain : ∀ value, reading = .ok value → Fits 32 value)
    (given : ∀ value base, reading = .ok value → radix = some base → ¬ IsLong base) :
    NamesLong (size.keepFitting text radix reading) ↔ NamesLong reading := by
  rw [keepFitting, namesLong_bind_iff, or_iff_left_iff_imp]
  rintro ⟨value, settled, long⟩
  -- The refusal names the value, which is a word, and a radix that was accepted.
  have short := not_isLong_of_fits (plain value settled)
  have refused : ¬ NamesLong (.error (.outOfRange value (text.getD "") radix) : Except ReadError Int) := by
    cases radix with
    | none => simp [ReadError.named, short]
    | some base => simp [ReadError.named, short, given value base settled]
  simp [refused] at long

theorem namesLong_readPattern_iff (size : Subword) (text : Option String) (radix : Int) :
    NamesLong (size.readPattern text radix) ↔ NamesLong (MachineInt.readUnsigned text radix) := by
  rw [readPattern, namesLong_bind_iff, or_iff_left_iff_imp]
  rintro ⟨value, _, long⟩
  -- The refusal names the pattern and the width of the small word.
  have nonneg := unsigned_nonneg 32 value
  have below := unsigned_lt 32 value
  have pattern : ¬ IsLong (unsigned 32 value) := by
    apply not_isLong_of_natAbs_lt
    rw [weight_word] at below
    omega
  have width : ¬ IsLong size.bits := not_isLong_of_natAbs_lt (by cases size <;> decide)
  simp only [namesLong_ite_iff, namesLong_error_iff, ReadError.named, List.exists_mem_cons_iff, pattern, width,
    List.not_mem_nil, false_and, exists_false, or_false, namesLong_ok] at long
  exact absurd long.1 long.2

end Subword

/-! ## Calls -/

namespace Call

/-- How many symbols there are to read. -/
def length : Call → Nat
  | .signed text _ | .unsigned text _ | .marked text | .smallSigned _ text _ | .smallUnsigned _ text _
  | .smallPattern _ text _ | .smallMarked _ text => text.elim 0 String.length
  | .signedPart text .. | .unsignedPart text .. => text.elim 0 List.length

/-- What is published of the answer. The details are put into words where the failure comes up, and nothing is done with
it afterwards. -/
def report (call : Call) : Except Trap Report := do
  (Report.publish (← call.inPlace)).mapError .unwritable

/-- The call fails on what it is given and has to say so with an integer that is long: the radix, unless it is looked at
too late, or one of the bounds. -/
def AsksLong : Call → Prop
  | .signed text radix | .smallSigned _ text radix => text ≠ none ∧ IsLong radix
  | .unsigned text radix | .smallUnsigned _ text radix | .smallPattern _ text radix =>
    ∃ given, text = some given ∧ IsLong radix ∧ (symbols given).head? ≠ some (.char '-')
  | .signedPart text first past radix =>
    ∃ given, text = some given ∧
      if 0 ≤ first ∧ first ≤ past ∧ past ≤ given.length then IsLong radix else IsLong first ∨ IsLong past
  | .unsignedPart text first past radix =>
    ∃ given, text = some given ∧
      if 0 ≤ first ∧ first ≤ past ∧ past ≤ given.length then
        IsLong radix ∧ (cut given first.toNat past.toNat).head? ≠ some (.char '-')
      else IsLong first ∨ IsLong past
  | .marked _ | .smallMarked .. => False

theorem report_eq (call : Call) : call.report = (Report.publish call.answer).mapError .unwritable := by
  rw [report, inPlace_eq]
  rfl

theorem report_eq_ok_iff (call : Call) (report : Report) :
    call.report = .ok report ↔ ¬ NamesLong call.answer ∧ report = .ofReading call.answer := by
  rw [report_eq, ← publish_eq_ok_iff]
  cases Report.publish call.answer <;> simp [Except.mapError]

/-- A call is stopped by the first integer that cannot be written, and by nothing else. -/
theorem report_eq_error_iff (call : Call) (trap : Trap) :
    call.report = .error trap ↔
      ∃ cause given, call.answer = .error cause ∧ cause.details = .error given ∧ trap = .unwritable given := by
  rw [report_eq]
  cases call.answer with
  | ok value => simp [Report.publish, Except.mapError]
  | error cause =>
    rw [publish_error]
    cases told : cause.details <;> simp [told, Except.map, Except.mapError, eq_comm]

theorem exists_trap_iff (call : Call) : (∃ trap, call.report = .error trap) ↔ NamesLong call.answer := by
  -- The only report there can be is that of the answer, so there is a trap if this one fails to come.
  have reported := call.report_eq_ok_iff (.ofReading call.answer)
  rw [and_iff_left rfl] at reported
  cases outcome : call.report with
  | error trap => simpa [outcome] using reported
  | ok report =>
    have short := ((call.report_eq_ok_iff report).mp outcome).1
    simp [short]

theorem namesLong_answer_iff (call : Call) (short : call.length < 10 ^ 4300) :
    NamesLong call.answer ↔ call.AsksLong := by
  cases call with
  | signed text radix => exact namesLong_readSigned_iff short radix
  | unsigned text radix => exact namesLong_readUnsigned_iff short radix
  | marked text => exact iff_false_intro (not_namesLong_readMarked short)
  | signedPart text first past radix =>
    cases text with
    | none => simp [answer, AsksLong, readSignedPart, readPart, ReadError.named]
    | some text =>
      rw [answer, readSignedPart, namesLong_readPart_iff namesLong_signedLine_iff short]
      simp [AsksLong]
  | unsignedPart text first past radix =>
    cases text with
    | none => simp [answer, AsksLong, readUnsignedPart, readPart, ReadError.named]
    | some text =>
      rw [answer, readUnsignedPart, namesLong_readPart_iff namesLong_unsignedLine_iff short]
      simp [AsksLong]
  -- A small reading may refuse what was read in 32 bits, but that refusal names nothing long.
  | smallSigned size text radix =>
    refine (size.namesLong_keepFitting_iff text ?_ ?_).trans (namesLong_readSigned_iff short radix)
    · exact fun value => readSigned_fits
    · rintro value _ read ⟨⟩
      obtain ⟨_, base, _, rfl⟩ := readSigned_given read
      exact not_isLong_radix base
  | smallUnsigned size text radix =>
    refine (size.namesLong_keepFitting_iff text ?_ ?_).trans (namesLong_readUnsigned_iff short radix)
    · exact fun value => readUnsigned_fits
    · rintro value _ read ⟨⟩
      obtain ⟨_, base, _, rfl⟩ := readUnsigned_given read
      exact not_isLong_radix base
  | smallPattern size text radix =>
    exact (size.namesLong_readPattern_iff text radix).trans (namesLong_readUnsigned_iff short radix)
  | smallMarked size text =>
    refine (size.namesLong_keepFitting_iff text ?_ ?_).trans (iff_false_intro (not_namesLong_readMarked short))
    · exact fun value => readMarked_fits
    · rintro _ _ _ ⟨⟩

end Call

end MachineInt
