import MachineInt.Proofs.Numeral.InPlace
import MachineInt.Proofs.Numeral.Marked

/-!
# What readings answer

Every reading answers, whatever it is given: with a 32-bit word, or with a failure that has something to say.
-/

namespace MachineInt

open Numeral

/-- A reading and what it is given. -/
inductive Call
  | signed (text : Option String) (radix : Int)
  | signedPart (text : Option (List Symbol)) (first past radix : Int)
  | unsigned (text : Option String) (radix : Int)
  | unsignedPart (text : Option (List Symbol)) (first past radix : Int)
  | marked (text : Option String)
  | smallSigned (size : Subword) (text : Option String) (radix : Int)
  | smallUnsigned (size : Subword) (text : Option String) (radix : Int)
  | smallPattern (size : Subword) (text : Option String) (radix : Int)
  | smallMarked (size : Subword) (text : Option String)

namespace Call

/-- What the reading answers. -/
def answer : Call → Except ReadError Int
  | .signed text radix => readSigned text radix
  | .signedPart text first past radix => readSignedPart text first past radix
  | .unsigned text radix => readUnsigned text radix
  | .unsignedPart text first past radix => readUnsignedPart text first past radix
  | .marked text => readMarked text
  | .smallSigned size text radix => size.readSigned text radix
  | .smallUnsigned size text radix => size.readUnsigned text radix
  | .smallPattern size text radix => size.readPattern text radix
  | .smallMarked size text => size.readMarked text

/-- The reading in place. -/
def inPlace : Call → Except Trap (Except ReadError Int)
  | .signed text radix => InPlace.whole InPlace.signed text radix
  | .signedPart text first past radix => InPlace.part InPlace.signed text first past radix
  | .unsigned text radix => InPlace.whole InPlace.unsigned text radix
  | .unsignedPart text first past radix => InPlace.part InPlace.unsigned text first past radix
  | .marked text => InPlace.marked text
  | .smallSigned size text radix =>
    InPlace.keepFitting size.bits text (some radix) (InPlace.whole InPlace.signed text radix)
  | .smallUnsigned size text radix =>
    InPlace.keepFitting size.bits text (some radix) (InPlace.whole InPlace.unsigned text radix)
  | .smallPattern size text radix => InPlace.smallPattern size.bits text radix
  | .smallMarked size text => InPlace.keepFitting size.bits text none (InPlace.marked text)

/-- No reading stops without an answer. -/
theorem inPlace_eq (call : Call) : call.inPlace = .ok call.answer := by
  open InPlace in
  cases call with
  | signed text radix => exact whole_signed_eq text radix
  | signedPart text first past radix => exact part_eq signed_eq text first past radix
  | unsigned text radix => exact whole_unsigned_eq text radix
  | unsignedPart text first past radix => exact part_eq unsigned_eq text first past radix
  | marked text => exact marked_eq text
  | smallSigned size text radix => rw [inPlace, whole_signed_eq, keepFitting_eq, answer, Subword.readSigned]
  | smallUnsigned size text radix => rw [inPlace, whole_unsigned_eq, keepFitting_eq, answer, Subword.readUnsigned]
  | smallPattern size text radix => exact smallPattern_eq size text radix
  | smallMarked size text => rw [inPlace, marked_eq, keepFitting_eq, answer, Subword.readMarked]

end Call

/-! ## Values -/

/-- A sum that was not given up is a word, also of symbols that are no characters. -/
theorem Numeral.accumulate_fits {bits : Nat} {radix : Radix} {first : Nat} {line : List Symbol} {value : Int}
    (read : accumulate bits radix first line = .ok value) : Fits bits value := by
  have positive := signWeight_pos bits
  generalize split : splitSign first line = parts
  obtain ⟨sign, index, body⟩ := parts
  obtain ⟨_, digits, _, within, rfl⟩ := (accumulate_eq_ok_iff bits radix split value).mp read
  generalize sign.getD false = negative at within ⊢
  unfold Fits
  cases negative with
  | false =>
    simp only [limit, maxValue, Bool.false_eq_true, if_false] at within ⊢
    omega
  | true =>
    simp only [limit, minValue, if_true] at within ⊢
    omega

theorem signedLine_fits (first : Nat) (line : List Symbol) (radix value : Int)
    (read : signedLine first line radix = .ok value) : Fits 32 value := by
  obtain ⟨base, _, summed⟩ := (bind_eq_ok_iff ..).mp read
  exact accumulate_fits summed

/-- A short sum is made in the narrow word; what comes of the wide one is wrapped. -/
theorem unsignedLine_sum {first : Nat} {line : List Symbol} {radix value : Int}
    (read : unsignedLine first line radix = .ok value) :
    ∃ base, accumulate 32 base first line = .ok value ∨
      ∃ sum, accumulate 64 base first line = .ok sum ∧ value = wrap 32 sum := by
  cases line with
  | nil => cases read
  | cons symbol rest =>
    rw [unsignedLine] at read
    split at read
    · cases read
    · obtain ⟨base, _, summed⟩ := (bind_eq_ok_iff ..).mp read
      refine ⟨base, ?_⟩
      split at summed
      · exact .inl summed
      · obtain ⟨wide, sum, narrowed⟩ := (bind_eq_ok_iff ..).mp summed
        split at narrowed
        · cases narrowed
        · cases narrowed
          exact .inr ⟨wide, sum, rfl⟩

theorem unsignedLine_fits (first : Nat) (line : List Symbol) (radix value : Int)
    (read : unsignedLine first line radix = .ok value) : Fits 32 value := by
  obtain ⟨base, narrow | ⟨sum, _, rfl⟩⟩ := unsignedLine_sum read
  · exact accumulate_fits narrow
  · exact fits_wrap (by decide) sum

theorem readPart_fits {line : Nat → List Symbol → Int → Except ReadError Int}
    (fits : ∀ (first : Nat) (text : List Symbol) (radix value : Int),
      line first text radix = .ok value → Fits 32 value)
    {text : Option (List Symbol)} {first past radix value : Int}
    (read : readPart line text first past radix = .ok value) : Fits 32 value := by
  cases text with
  | none => cases read
  | some text =>
    obtain ⟨bounds, _, found⟩ := (bind_eq_ok_iff ..).mp read
    exact fits _ _ _ _ found

theorem readSigned_fits {text : Option String} {radix value : Int} (read : readSigned text radix = .ok value) :
    Fits 32 value := by
  cases text with
  | none => cases read
  | some text => exact signedLine_fits _ _ _ _ read

theorem readUnsigned_fits {text : Option String} {radix value : Int} (read : readUnsigned text radix = .ok value) :
    Fits 32 value := by
  cases text with
  | none => cases read
  | some text => exact unsignedLine_fits _ _ _ _ read

theorem readMarked_fits {text : Option String} {value : Int} (read : readMarked text = .ok value) : Fits 32 value := by
  cases text with
  | none => cases read
  | some text => exact ((readMarked_eq_ok_iff text value).mp read).2

theorem Subword.readPattern_fits {size : Subword} {text : Option String} {radix value : Int}
    (read : size.readPattern text radix = .ok value) : Fits 32 value := by
  obtain ⟨wide, _, kept⟩ := (bind_eq_ok_iff ..).mp read
  dsimp only at kept
  split at kept
  · cases kept
  · cases kept
    exact size.fits_word (fits_wrap size.bits_pos _)

theorem Call.answer_fits {call : Call} {value : Int} (read : call.answer = .ok value) : Fits 32 value := by
  cases call with
  | signed => exact readSigned_fits read
  | signedPart => exact readPart_fits signedLine_fits read
  | unsigned => exact readUnsigned_fits read
  | unsignedPart => exact readPart_fits unsignedLine_fits read
  | marked => exact readMarked_fits read
  | smallSigned | smallUnsigned | smallMarked => exact Subword.fits_word ((Subword.keepFitting_eq_ok_iff ..).mp read).2
  | smallPattern => exact Subword.readPattern_fits read

/-! ## Failures -/

theorem FailureKind.mem_all (kind : FailureKind) : kind ∈ all := by cases kind <;> decide

theorem append_ne_empty {first : String} (nonempty : first ≠ "") (second : String) : first ++ second ≠ "" := by
  rw [ne_eq, String.append_eq_empty_iff]
  rintro ⟨empty, _⟩
  exact nonempty empty

theorem Reading.describe_ne_empty (reading : Reading) : reading.describe ≠ "" := by
  have shown : s!"For input string: \"{reading.excerpt}\"" ≠ "" :=
    append_ne_empty (append_ne_empty (by decide) _) _
  rw [describe_eq_ite]
  split
  · exact shown
  · exact append_ne_empty shown _

/-- Every failure has something to say: its message begins with fixed words. -/
theorem ReadError.message_ne_empty (cause : ReadError) : cause.message ≠ "" := by
  cases cause with
  | absent => exact (by decide : "null" ≠ "")
  | emptyText => exact (by decide : "Zero length string" ≠ "")
  | badRadix cause =>
    cases cause <;>
    · iterate 3 apply append_ne_empty
      decide
  | badBounds first past length =>
    iterate 5 apply append_ne_empty
    decide
  | noDigits reading => exact reading.describe_ne_empty
  | notDigit reading index | tooLarge reading index =>
    iterate 3 apply append_ne_empty
    exact reading.describe_ne_empty
  | minusUnsigned excerpt | beyondUnsigned excerpt | misplacedSign text =>
    iterate 2 apply append_ne_empty
    decide
  | outOfRange value text radix =>
    cases radix with
    | none =>
      iterate 4 apply append_ne_empty
      decide
    | some radix =>
      iterate 5 apply append_ne_empty
      decide
  | outOfUnsignedRange value bits text =>
    iterate 6 apply append_ne_empty
    decide

end MachineInt
