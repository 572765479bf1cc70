import MachineInt.Proofs.Json.RoundTrip
import MachineInt.Proofs.Word.Data

/-!
# Words out and back

A word goes out as data or as text and comes back by the validation. The text is read as the data, and the bounds on
texts are far away; the data has the fields of the word, so it makes the word. However often a word goes out and
whichever way it takes, it comes back as it was.
-/

namespace MachineInt

namespace Word

/-! ## Short texts -/

/-- Nothing lies deeper than there are tokens to open it. -/
theorem deepest_le (depth : Nat) (shapes : List Json.Shape) : deepest depth shapes ≤ depth + shapes.length := by
  fun_induction deepest depth shapes <;> simp only [List.length_cons, List.length_nil] <;> omega

/-- A text that is shorter than its arrays and objects may be deep keeps all bounds. -/
theorem withinBounds_of_length_lt {text : List Char} (short : text.length < depthBound) : withinBounds text = true := by
  have shallow := deepest_le 0 ((Json.tokens 0 text).map (·.shape))
  have few := Json.length_tokens_le 0 text
  have numbers : boundedNumbers text = true := by
    rw [boundedNumbers, List.all_eq_true]
    intro token _
    have part := Json.length_integralPart_le (text.drop token.offset)
    have dropped := (List.drop_sublist token.offset text).length_le
    split
    · rw [decide_eq_true_eq]
      exact part.trans (dropped.trans (short.le.trans (by decide)))
    · rfl
  rw [List.length_map] at shallow
  rw [withinBounds, numbers, Bool.and_true, decide_eq_true_eq]
  omega

/-! ## The text of a word -/

theorem exact_toJson (word : Word) : word.toJson.Exact := by
  simp [toJson, Json.int, Json.Exact, Json.ExactFields]

theorem length_fieldText_int (name : String) (value : Int) :
    (Json.fieldText (name, .int value)).toList.length =
      (Json.stringText name).toList.length + 1 + (Json.integerText value).length := by
  have colon : ":".toList.length = 1 := rfl
  rw [Json.fieldText, String.toList_append, String.toList_append, List.length_append, List.length_append, colon,
    Json.int, Json.compact, Json.numberText_int]

theorem length_compact_toJson (word : Word) : word.toJson.compact.toList.length < depthBound := by
  have names : (Json.stringText "width").toList.length = 7 ∧ (Json.stringText "value").toList.length = 7 := by decide
  have width : (Json.integerText word.width.bits).length ≤ 2 := by cases word.width <;> decide
  have value : (Json.integerText word.value).length ≤ 11 := by
    apply Json.length_integerText_le (by decide)
    have fits := word.fits_word
    rw [Fits, signWeight_word] at fits
    omega
  have text : word.toJson.compact.toList.length =
      (Json.fieldText ("width", .int word.width.bits)).toList.length +
        (Json.fieldText ("value", .int word.value)).toList.length + 3 := by
    rw [toJson, Json.compact_object_toList]
    simp only [Json.further, List.map_cons, List.map_nil, List.flatMap_cons, List.flatMap_nil, List.length_cons,
      List.length_append, List.length_nil]
    omega
  rw [text, length_fieldText_int, length_fieldText_int, depthBound]
  omega

theorem dataOf_toJson (word : Word) : dataOf word.toJson.compact = .ok word.toJson := by
  have bounded := withinBounds_of_length_lt word.length_compact_toJson
  simp only [dataOf, Json.read_compact word.exact_toJson, bounded, if_true]

/-! ## There and back -/

section

variable [Intake]

theorem ofData_toJson (faithful : Intake.Faithful) (word : Word) : ofData word.toJson = .ok word := by
  rw [ofData_eq_ok_iff]
  refine ⟨_, rfl, ?_⟩
  rw [ofFields_eq_ok_iff]
  exact ⟨faithful.int _, faithful.int _⟩

/-- A text makes what the data in it makes. -/
theorem ofText_eq_ok {text : String} {data : Json} {word : Word} (read : Intake.document text = .ok data)
    (made : ofData data = .ok word) : ofText text = .ok word := by
  obtain ⟨fields, rfl, inFields⟩ := (ofData_eq_ok_iff data word).mp made
  simp only [ofText, read, inFields]
  rfl

/-- The ways of a word out and back. -/
inductive Passage
  | data
  | text

/-- What comes back of a word that goes out. -/
def Passage.carry (word : Word) : Passage → Except InvalidWord Word
  | .data => ofData word.toJson
  | .text => ofText word.toJson.compact

/-- The data that the text of a word writes is the data of the word. -/
def Intake.ReadsWords : Prop := ∀ word : Word, Intake.document word.toJson.compact = .ok word.toJson

variable (faithful : Intake.Faithful) (readsWords : Intake.ReadsWords)
include faithful readsWords

theorem ofText_toJson (word : Word) : ofText word.toJson.compact = .ok word :=
  ofText_eq_ok (readsWords word) (word.ofData_toJson faithful)

theorem Passage.carry_eq (word : Word) (passage : Passage) : passage.carry word = .ok word := by
  cases passage with
  | data => exact word.ofData_toJson faithful
  | text => exact word.ofText_toJson faithful readsWords

/-- After each passage the word is what it was, so the next one starts from the same word. -/
theorem foldlM_carry (word : Word) (passages : List Passage) : passages.foldlM Passage.carry word = .ok word := by
  induction passages with
  | nil => rfl
  | cons first rest ih =>
    rw [List.foldlM_cons, first.carry_eq faithful readsWords]
    exact ih

end

theorem lax_readsWords : Intake.ReadsWords := dataOf_toJson

/-- A word survives all its passages. Its compact text is read as the data that was written and makes the word, the data
makes the word without any text, and a word that goes out again and again, now as data, now as text, is the same word in
the end. -/
theorem survives_serialisation (word : Word) :
    Json.read word.toJson.compact = .ok word.toJson ∧ ofText word.toJson.compact = .ok word ∧
    ofData word.toJson = .ok word ∧ ∀ passages : List Passage, passages.foldlM Passage.carry word = .ok word :=
  ⟨Json.read_compact word.exact_toJson, word.ofText_toJson lax_faithful lax_readsWords, word.ofData_toJson lax_faithful,
    word.foldlM_carry lax_faithful lax_readsWords⟩

end Word

end MachineInt
