import MachineInt.Numeral.Marked
import MachineInt.Proofs.Numeral.Signed

/-!
# Reading numerals that name their radix

A text splits in one way into a sign, a mark and a body, and is read just when the body is a numeral without a sign in
the radix that the mark tells, and the number fits the word. The sign goes back in front of the body before the sum,
so that the least word has room in every form.
-/

namespace MachineInt

namespace Radix

def eight : Radix := ⟨8, by decide, by decide⟩
def sixteen : Radix := ⟨16, by decide, by decide⟩

end Radix

namespace Numeral

/-! ## The language -/

/-- The marks of radix sixteen. -/
def sixteenMarks : List (List Char) := ["0x".toList, "0X".toList, "#".toList]

/-- The mark in front of a body, and the radix that it tells. A zero is a mark if it does not begin another one and
something comes after it; what has neither mark is decimal. -/
inductive Marks : List Char → List Char → Radix → Prop
  | sixteen {mark body : List Char} (listed : mark ∈ sixteenMarks) : Marks mark body .sixteen
  | eight {body : List Char} (unlisted : ∀ mark ∈ sixteenMarks, ¬ mark <+: '0' :: body) (followed : body ≠ []) :
      Marks ['0'] body .eight
  | ten {body : List Char} (unlisted : ∀ mark ∈ sixteenMarks, ¬ mark <+: body)
      (unmarked : ∀ rest, body = '0' :: rest → rest = []) : Marks [] body .ten

/-- The text is the sign, a mark and digits of the radix that the mark tells, and these come to the magnitude. -/
def DenotesMarked (text : List Char) (sign : Sign) (magnitude : Nat) : Prop :=
  ∃ mark body radix, text = sign.text ++ (mark ++ body) ∧ Marks mark body radix ∧
    Denotes radix body .absent magnitude

/-! ## Taking the text apart -/

theorem exists_marks (text : List Char) : ∃ mark body radix, text = mark ++ body ∧ Marks mark body radix := by
  by_cases listed : ∃ mark ∈ sixteenMarks, mark <+: text
  · obtain ⟨mark, listed, body, rfl⟩ := listed
    exact ⟨mark, body, .sixteen, rfl, .sixteen listed⟩
  have unlisted : ∀ mark ∈ sixteenMarks, ¬ mark <+: text := fun mark member begins => listed ⟨mark, member, begins⟩
  by_cases zero : ∃ rest, text = '0' :: rest ∧ rest ≠ []
  · obtain ⟨rest, rfl, followed⟩ := zero
    exact ⟨['0'], rest, .eight, rfl, .eight unlisted followed⟩
  · refine ⟨[], text, .ten, rfl, .ten unlisted ?_⟩
    intro rest shape
    by_contra followed
    exact zero ⟨rest, shape, followed⟩

theorem exists_split (text : List Char) :
    ∃ sign mark body radix, detachSign text = (sign, mark ++ body) ∧ Marks mark body radix := by
  obtain ⟨mark, body, radix, shape, marks⟩ := exists_marks (detachSign text).2
  exact ⟨(detachSign text).1, mark, body, radix, by rw [← shape], marks⟩

theorem takeMark_of_marks {mark body : List Char} {radix : Radix} (marks : Marks mark body radix) :
    takeMark (mark ++ body) = ((radix.value : Int), body) := by
  -- The rows are tried in order; the side conditions of a mark rule out the rows before its own.
  cases marks with
  | sixteen listed =>
    simp only [sixteenMarks, List.mem_cons, List.not_mem_nil, or_false] at listed
    rcases listed with rfl | rfl | rfl <;> rfl
  | eight unlisted followed =>
    obtain ⟨c, rest, rfl⟩ := List.exists_cons_of_ne_nil followed
    simp only [sixteenMarks, List.forall_mem_cons] at unlisted
    rw [List.singleton_append, takeMark]
    · rfl
    · rintro rfl
      exact unlisted.1 ⟨rest, rfl⟩
    · rintro rfl
      exact unlisted.2.1 ⟨rest, rfl⟩
  | ten unlisted unmarked =>
    simp only [sixteenMarks, List.forall_mem_cons] at unlisted
    rw [List.nil_append, takeMark]
    · rfl
    · rintro rest rfl
      exact unlisted.1 ⟨rest, rfl⟩
    · rintro rest rfl
      exact unlisted.2.1 ⟨rest, rfl⟩
    · rintro rest rfl
      exact unlisted.2.2.1 ⟨rest, rfl⟩
    · rintro c rest rfl
      exact absurd (unmarked (c :: rest) rfl) (List.cons_ne_nil c rest)

theorem takeSign_eq (text : List Char) :
    takeSign text = (decide ((detachSign text).1 = .minus), (detachSign text).2) := by
  unfold detachSign
  split
  · rfl
  · rfl
  next noPlus noMinus =>
    rw [takeSign]
    · rfl
    · exact noMinus
    · exact noPlus

theorem startsWithSign_eq_false_iff (text : List Char) :
    startsWithSign text = false ↔ detachSign text = (.absent, text) := by
  unfold detachSign
  split
  · simp [startsWithSign]
  · simp [startsWithSign]
  next noPlus noMinus =>
    rw [startsWithSign]
    · simp
    · exact noMinus
    · exact noPlus

/-- The sign that is put back in front of a body: a plus is not. -/
def Sign.kept : Sign → Sign
  | .minus => .minus
  | .absent | .plus => .absent

theorem Sign.apply_kept (sign : Sign) (magnitude : Nat) : sign.kept.apply magnitude = sign.apply magnitude := by
  cases sign <;> rfl

/-- A text without a sign of its own takes any sign. -/
theorem detachSign_text_append {body : List Char} (bare : detachSign body = (.absent, body)) (sign : Sign) :
    detachSign (sign.text ++ body) = (sign, body) := by
  cases sign with
  | absent => exact bare
  | plus | minus => rfl

/-- Neither a mark nor a digit is a sign. -/
theorem Marks.detachSign {mark body : List Char} {radix : Radix} {magnitude : Nat} (marks : Marks mark body radix)
    (denotes : Denotes radix body .absent magnitude) :
    Numeral.detachSign (mark ++ body) = (.absent, mark ++ body) := by
  cases marks with
  | sixteen listed =>
    simp only [sixteenMarks, List.mem_cons, List.not_mem_nil, or_false] at listed
    rcases listed with rfl | rfl | rfl <;> rfl
  | eight => rfl
  | ten => exact Denotes.detachSign denotes

theorem DenotesMarked.split {text : List Char} {sign : Sign} {magnitude : Nat}
    (denoted : DenotesMarked text sign magnitude) :
    ∃ mark body radix, Marks mark body radix ∧ detachSign text = (sign, mark ++ body) ∧
      Denotes radix body .absent magnitude := by
  obtain ⟨mark, body, radix, rfl, marks, denotes⟩ := denoted
  exact ⟨mark, body, radix, marks, detachSign_text_append (marks.detachSign denotes) sign, denotes⟩

theorem DenotesMarked.ne_nil {text : List Char} {sign : Sign} {magnitude : Nat}
    (denoted : DenotesMarked text sign magnitude) : text ≠ [] := by
  obtain ⟨mark, body, radix, rfl, _, denotes⟩ := denoted
  have nonempty := ((denotes_iff ..).mp denotes).2.1
  rw [denotes.detachSign] at nonempty
  simp [nonempty]

/-- The body that is left under a sign of its own denotes as it does without. -/
theorem denotesSigned_kept_iff {radix : Radix} {body : List Char} (bare : detachSign body = (.absent, body))
    (sign : Sign) (value : Int) :
    DenotesSigned radix (sign.kept.text ++ body) value ↔
      ∃ magnitude, Denotes radix body .absent magnitude ∧ value = sign.apply magnitude := by
  -- The sign of the line is the one put back, whichever numeral the line is.
  simp only [DenotesSigned, denotes_iff, detachSign_text_append bare, bare, true_and]
  constructor
  · rintro ⟨_, magnitude, ⟨rfl, denotes⟩, rfl⟩
    exact ⟨magnitude, denotes, sign.apply_kept magnitude⟩
  · rintro ⟨magnitude, denotes, rfl⟩
    exact ⟨_, magnitude, ⟨rfl, denotes⟩, (sign.apply_kept magnitude).symm⟩

end Numeral

open Numeral

/-! ## Reading -/

section

variable {text : String} {sign : Sign} {mark body : List Char} {radix : Radix}

/-- Past the sign and the mark, the body is summed up under its sign. -/
theorem readMarked_eq (nonempty : text ≠ "") (split : detachSign text.toList = (sign, mark ++ body))
    (marks : Marks mark body radix) :
    readMarked (some text) =
      if startsWithSign body then .error (.misplacedSign text)
      else accumulate 32 radix 0 ((sign.kept.text ++ body).map .char) := by
  have given : text.isEmpty = false := by rwa [Bool.eq_false_iff, ne_eq, String.isEmpty_iff]
  simp only [readMarked, given, Bool.false_eq_true, if_false, takeSign_eq, split, takeMark_of_marks marks,
    readSigned_value, symbols, String.toList_ofList]
  cases sign <;> rfl

theorem readMarked_eq_ok_iff_of_split (nonempty : text ≠ "") (split : detachSign text.toList = (sign, mark ++ body))
    (marks : Marks mark body radix) (value : Int) :
    readMarked (some text) = .ok value ↔
      (∃ magnitude, Denotes radix body .absent magnitude ∧ value = sign.apply magnitude) ∧ Fits 32 value := by
  rw [readMarked_eq nonempty split marks]
  by_cases signed : startsWithSign body
  · -- A second sign is refused, and no digit is one.
    rw [if_pos signed]
    constructor
    · rintro ⟨⟩
    · rintro ⟨⟨_, denotes, _⟩, _⟩
      rw [(startsWithSign_eq_false_iff body).mpr denotes.detachSign] at signed
      cases signed
  · rw [Bool.not_eq_true] at signed
    rw [signed, if_neg Bool.false_ne_true, accumulate_chars_eq_ok_iff,
      denotesSigned_kept_iff ((startsWithSign_eq_false_iff body).mp signed)]

end

theorem readMarked_eq_ok_iff (text : String) (value : Int) :
    readMarked (some text) = .ok value ↔
      (∃ sign magnitude, DenotesMarked text.toList sign magnitude ∧ value = sign.apply magnitude) ∧
        Fits 32 value := by
  by_cases empty : text = ""
  · subst empty
    constructor
    · rintro ⟨⟩
    · rintro ⟨⟨_, _, denotes, _⟩, _⟩
      exact absurd rfl denotes.ne_nil
  constructor
  · intro read
    -- However the text is taken apart, what was read is the body behind that mark.
    obtain ⟨sign, mark, body, radix, split, marks⟩ := exists_split text.toList
    obtain ⟨⟨magnitude, denotes, value⟩, fits⟩ := (readMarked_eq_ok_iff_of_split empty split marks _).mp read
    have whole := eq_append_of_detachSign split
    exact ⟨⟨sign, magnitude, ⟨mark, body, radix, whole, marks, denotes⟩, value⟩, fits⟩
  · rintro ⟨⟨sign, magnitude, denoted, value⟩, fits⟩
    obtain ⟨mark, body, radix, marks, split, denotes⟩ := denoted.split
    exact (readMarked_eq_ok_iff_of_split empty split marks _).mpr ⟨⟨magnitude, denotes, value⟩, fits⟩

/-! ## Failures -/

theorem accumulate_error_kind {bits : Nat} {radix : Radix} {first : Nat} {line : List Symbol} {cause : ReadError}
    (failed : accumulate bits radix first line = .error cause) :
    cause.kind = .malformedInput ∨ cause.kind = .numericOverflow := by
  rcases (accumulate_eq_error_iff bits radix rfl cause).mp failed with ⟨_, rfl⟩ | ⟨_, offence, _, rfl⟩
  · exact .inl rfl
  · cases offence with
    | notDigit => exact .inl rfl
    | tooLarge => exact .inr rfl

theorem readMarked_error_kind {text : String} {cause : ReadError} (failed : readMarked (some text) = .error cause) :
    cause.kind = .malformedInput ∨ cause.kind = .numericOverflow := by
  by_cases empty : text = ""
  · subst empty
    cases failed
    exact .inl rfl
  obtain ⟨sign, mark, body, radix, split, marks⟩ := exists_split text.toList
  rw [readMarked_eq empty split marks] at failed
  split at failed
  · cases failed
    exact .inl rfl
  · exact accumulate_error_kind failed

/-- A magnitude that only a minus makes a word of is not read without one. -/
theorem readMarked_ne_ok_least {text : String} {sign : Sign} (positive : sign ≠ .minus)
    (denoted : DenotesMarked text.toList sign (2 ^ 31)) (value : Int) : readMarked (some text) ≠ .ok value := by
  intro read
  have nonempty : text ≠ "" := by
    rintro rfl
    exact denoted.ne_nil rfl
  -- Behind this mark there is one body only, so what was read is the magnitude given, and it does not fit.
  obtain ⟨mark, body, radix, marks, split, denotes⟩ := denoted.split
  obtain ⟨⟨magnitude, again, rfl⟩, fits⟩ := (readMarked_eq_ok_iff_of_split nonempty split marks _).mp read
  obtain ⟨_, rfl⟩ := denotes.unique again
  rw [fits_word_iff] at fits
  cases sign with
  | minus => exact positive rfl
  | absent | plus =>
    simp only [Sign.apply] at fits
    omega

/-- The language of numerals that name their radix. With a minus, and only so, the magnitude of the least word is in
it, whatever the mark. No other text is read, and the radix is never the reason. -/
theorem readMarked_language (text : String) :
    (∀ value : Int, readMarked (some text) = .ok value ↔
      ∃ sign magnitude, DenotesMarked text.toList sign magnitude ∧ value = sign.apply magnitude ∧
        -2 ^ 31 ≤ value ∧ value ≤ 2 ^ 31 - 1) ∧
    (DenotesMarked text.toList .minus (2 ^ 31) → readMarked (some text) = .ok (-2 ^ 31)) ∧
    (∀ sign, sign ≠ .minus → DenotesMarked text.toList sign (2 ^ 31) →
      ∀ value : Int, readMarked (some text) ≠ .ok value) ∧
    ((¬ ∃ sign magnitude, DenotesMarked text.toList sign magnitude ∧
        -2 ^ 31 ≤ sign.apply magnitude ∧ sign.apply magnitude ≤ 2 ^ 31 - 1) →
      FailsAs .malformedInput (readMarked (some text)) ∨ FailsAs .numericOverflow (readMarked (some text))) := by
  refine ⟨?_, ?_, ?_, ?_⟩
  · intro value
    rw [readMarked_eq_ok_iff, fits_word_iff]
    constructor
    · rintro ⟨⟨sign, magnitude, denoted, equal⟩, range⟩
      exact ⟨sign, magnitude, denoted, equal, range⟩
    · rintro ⟨sign, magnitude, denoted, equal, range⟩
      exact ⟨⟨sign, magnitude, denoted, equal⟩, range⟩
  · intro denoted
    rw [readMarked_eq_ok_iff]
    exact ⟨⟨.minus, 2 ^ 31, denoted, by decide⟩, by decide⟩
  · intro sign positive denoted value
    exact readMarked_ne_ok_least positive denoted value
  · intro refused
    cases outcome : readMarked (some text) with
    | ok value =>
      obtain ⟨⟨sign, magnitude, denoted, rfl⟩, fits⟩ := (readMarked_eq_ok_iff text value).mp outcome
      exact absurd ⟨sign, magnitude, denoted, (fits_word_iff _).mp fits⟩ refused
    | error cause =>
      rcases readMarked_error_kind outcome with kind | kind
      · exact .inl ⟨cause, rfl, kind⟩
      · exact .inr ⟨cause, rfl, kind⟩

/-- The least word behind a mark of radix sixteen, its magnitude without a minus behind one of radix eight, and a sign in
the wrong place. -/
theorem readMarked_language_edges :
    (DenotesMarked "-#80000000".toList .minus (2 ^ 31) ∧ readMarked (some "-#80000000") = .ok (-2 ^ 31)) ∧
    (DenotesMarked "+020000000000".toList .plus (2 ^ 31) ∧ readMarked (some "+020000000000") ≠ .ok (2 ^ 31)) ∧
    (FailsAs .malformedInput (readMarked (some "0x-1")) ∨ FailsAs .numericOverflow (readMarked (some "0x-1"))) := by
  have hex : DenotesMarked "-#80000000".toList .minus (2 ^ 31) :=
    ⟨['#'], "80000000".toList, .sixteen, by decide, .sixteen (by decide),
      "80000000".toList, [8, 0, 0, 0, 0, 0, 0, 0], by decide, by decide, by decide, by decide⟩
  have octal : DenotesMarked "+020000000000".toList .plus (2 ^ 31) :=
    ⟨['0'], "20000000000".toList, .eight, by decide, .eight (by decide) (by decide),
      "20000000000".toList, [2, 0, 0, 0, 0, 0, 0, 0, 0, 0, 0], by decide, by decide, by decide, by decide⟩
  have misplaced := readMarked_language "0x-1"
  refine ⟨⟨hex, (readMarked_language _).2.1 hex⟩, ⟨octal, ?_⟩, misplaced.2.2.2 ?_⟩
  · exact (readMarked_language _).2.2.1 .plus (by decide) octal _
  · rintro ⟨sign, magnitude, denoted, range⟩
    have read := (misplaced.1 _).mpr ⟨sign, magnitude, denoted, rfl, range⟩
    cases read

end MachineInt
