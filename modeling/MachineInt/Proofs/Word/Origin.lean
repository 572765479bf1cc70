import MachineInt.Proofs.Word.Validation
import MachineInt.Word.Reading
import Mathlib.Data.Int.ModEq

/-!
# Where words come from

Words come from data, from JSON text, from the low bits of an integer and from numerals, and from nowhere else. Each of
these ways is gone once more with drafts, which promise nothing, and ends in the draft of the same word or in the same
refusal. So what is true of words by their type is true of whatever comes out of the validation. Nothing that is done
later changes a word.
-/

namespace MachineInt

/-! ## Drafts -/

/-- Why there is no draft. -/
inductive Refusal
  | arithmetic (cause : ArithmeticError)
  | unsupportedWidth (given : Int)
  | reading (cause : ReadError)
  | complaints (list : List Complaint)

def WordError.refusal : WordError → Refusal
  | .arithmetic cause => .arithmetic cause
  | .unsupportedWidth given => .unsupportedWidth given
  | .reading cause => .reading cause
  | .invalid cause => .complaints cause.complaints

namespace Draft

section

variable [Word.Intake]

def ofData : Json → Except (List Complaint) Draft
  | .object fields => ofFields fields
  | _ => .error InvalidWord.notObject.complaints

def make (width value : Int) : Except (List Complaint) Draft :=
  ofData (.object [("width", .int width), ("value", .int value)])

def ofText (text : String) : Except (List Complaint) Draft :=
  match Word.Intake.document text with
  | .error cause => .error cause.complaints
  | .ok (.object fields) => ofFields fields
  | .ok _ => .error InvalidWord.notJsonObject.complaints

def ofBits (bits width : Int) : Except Refusal Draft := do
  let value ← (wrapAt bits width).mapError .arithmetic
  (make width value).mapError .complaints

def read (text : Option String) (radix width : Int) (isUnsigned : Bool) : Except Refusal Draft :=
  match Width.ofInt? width with
  | none => .error (.unsupportedWidth width)
  | some size => do
    let value ← (Word.readValue text radix size isUnsigned).mapError .reading
    (make width value).mapError .complaints

end

/-- The unsigned view, which takes a width that is not negative. -/
def unsignedValue (draft : Draft) : Except ArithmeticError Int := unsignedAt draft.value draft.width

/-- What is expected of a width and a value. -/
structure Sound (draft : Draft) : Prop where
  width : draft.width = 8 ∨ draft.width = 16 ∨ draft.width = 32
  lower : -2 ^ (draft.width.toNat - 1) ≤ draft.value
  upper : draft.value < 2 ^ (draft.width.toNat - 1)
  view : ∃ view, draft.unsignedValue = .ok view ∧ 0 ≤ view ∧ view ≤ 2 ^ draft.width.toNat - 1 ∧
    view ≡ draft.value [ZMOD 2 ^ draft.width.toNat]

/-! ## The same words -/

section

variable [Word.Intake]

theorem ofFields_published (fields : List (String × Json)) :
    ofFields fields =
      (((Word.ofFields fields).mapError .fields).mapError InvalidWord.complaints).map Word.draft := by
  rw [ofFields_eq]
  cases Word.ofFields fields <;> rfl

theorem ofData_eq (datum : Json) :
    ofData datum = ((Word.ofData datum).mapError InvalidWord.complaints).map Word.draft := by
  cases datum with
  | object fields => exact ofFields_published fields
  | null | bool | number | string | array => rfl

theorem make_eq (width value : Int) :
    make width value = ((Word.make width value).mapError InvalidWord.complaints).map Word.draft :=
  ofData_eq _

theorem ofText_eq (text : String) :
    ofText text = ((Word.ofText text).mapError InvalidWord.complaints).map Word.draft := by
  unfold ofText Word.ofText
  cases Word.Intake.document text with
  | error _ => rfl
  | ok data =>
    cases data with
    | object fields => exact ofFields_published fields
    | null | bool | number | string | array => rfl

/-- The last step from a width and a value, where nothing else can go wrong. -/
theorem make_refusal (width value : Int) :
    (make width value).mapError .complaints =
      (((Word.make width value).mapError .invalid).mapError WordError.refusal).map Word.draft := by
  rw [make_eq]
  cases Word.make width value <;> rfl

theorem ofBits_eq (bits width : Int) :
    ofBits bits width = ((Word.ofBits bits width).mapError WordError.refusal).map Word.draft := by
  unfold ofBits Word.ofBits
  cases wrapAt bits width with
  | error cause => rfl
  | ok value => exact make_refusal width value

theorem read_eq (text : Option String) (radix width : Int) (isUnsigned : Bool) :
    read text radix width isUnsigned =
      ((Word.read text radix width isUnsigned).mapError WordError.refusal).map Word.draft := by
  unfold read Word.read
  cases Width.ofInt? width with
  | none => rfl
  | some size =>
    dsimp only
    cases Word.readValue text radix size isUnsigned with
    | error cause => rfl
    | ok value => exact make_refusal width value

end

end Draft

namespace Word

theorem draft_sound (word : Word) : word.draft.Sound := by
  obtain ⟨size, value, fits⟩ := word
  obtain ⟨lower, upper⟩ := (fits_iff_pow size.bits value).mp fits
  have high := unsigned_lt size.bits value
  rw [weight_eq_pow] at high
  refine ⟨(Width.exists_bits_iff _).mp ⟨size, rfl⟩, lower, Int.lt_of_le_sub_one upper, unsigned size.bits value,
    unsignedAt_natCast size.bits value, unsigned_nonneg .., Int.le_sub_one_of_lt high, ?_⟩
  rw [unsigned, weight_eq_pow]
  exact Int.mod_modEq ..

section

variable [Intake]

/-! ## Ways to a word -/

inductive Origin
  | data (datum : Json)
  | json (text : String)
  | lowBits (value width : Int)
  | numeral (text : Option String) (radix width : Int) (isUnsigned : Bool)

namespace Origin

def word : Origin → Except WordError Word
  | .data datum => (ofData datum).mapError .invalid
  | .json text => (ofText text).mapError .invalid
  | .lowBits value width => ofBits value width
  | .numeral text radix width isUnsigned => read text radix width isUnsigned

def draft : Origin → Except Refusal Draft
  | .data datum => (Draft.ofData datum).mapError .complaints
  | .json text => (Draft.ofText text).mapError .complaints
  | .lowBits value width => Draft.ofBits value width
  | .numeral text radix width isUnsigned => Draft.read text radix width isUnsigned

theorem draft_eq (origin : Origin) :
    origin.draft = (origin.word.mapError WordError.refusal).map Word.draft := by
  cases origin with
  | data datum =>
    rw [draft, word, Draft.ofData_eq]
    cases ofData datum <;> rfl
  | json text =>
    rw [draft, word, Draft.ofText_eq]
    cases ofText text <;> rfl
  | lowBits value width => exact Draft.ofBits_eq value width
  | numeral text radix width isUnsigned => exact Draft.read_eq text radix width isUnsigned

theorem exists_word_of_draft {origin : Origin} {draft : Draft} (made : origin.draft = .ok draft) :
    ∃ word, origin.word = .ok word ∧ draft = word.draft := by
  rw [draft_eq] at made
  cases obtained : origin.word with
  | error cause =>
    rw [obtained] at made
    cases made
  | ok word =>
    rw [obtained] at made
    cases made
    exact ⟨word, rfl, rfl⟩

end Origin

/-! ## Words in use -/

/-- What may be done with the words at hand: get another one, or try to give a field of one a new value. -/
inductive Action
  | get (origin : Origin)
  | assign (index : Nat) (field : String) (new : Json)

/-- A way to give a field of a word a new value, or to refuse that. -/
abbrev Assignment := Word → String → Json → Except InvalidWord Word

/-- The answer to an action, if the word it is about is there, and the words at hand afterwards. -/
def actWith (assign : Assignment) (words : List Word) : Action → Option (Except WordError Word) × List Word
  | .get origin =>
    match origin.word with
    | .ok word => (some (.ok word), words ++ [word])
    | .error cause => (some (.error cause), words)
  | .assign index field new =>
    match words[index]? with
    | none => (none, words)
    | some word =>
      match assign word field new with
      | .ok changed => (some (.ok changed), words.set index changed)
      | .error cause => (some (.error (.invalid cause)), words)

def afterWith (assign : Assignment) (words : List Word) : List Action → List Word
  | [] => words
  | action :: rest => afterWith assign (actWith assign words action).2 rest

/-- No field of one of these names gets a new value. -/
def Assignment.Frozen (assign : Assignment) (names : String → Prop) : Prop :=
  ∀ word field new, names field → ∃ cause, assign word field new = .error cause

/-- If the action is about a field, then about one of these names. -/
def Action.Within (names : String → Prop) : Action → Prop
  | .get _ => True
  | .assign _ field _ => names field

section

variable {assign : Assignment} {names : String → Prop} (frozen : assign.Frozen names)
include frozen

/-- An attempt to change a word fails and leaves all words as they are. -/
theorem actWith_assign {words : List Word} {index : Nat} {field : String} (named : names field) (new : Json) :
    (actWith assign words (.assign index field new)).2 = words := by
  cases there : words[index]? with
  | none => simp only [actWith, there]
  | some word =>
    obtain ⟨cause, refused⟩ := frozen word field new named
    simp only [actWith, there, refused]

theorem prefix_actWith (words : List Word) {action : Action} (within : action.Within names) :
    words <+: (actWith assign words action).2 := by
  cases action with
  | get origin =>
    cases obtained : origin.word with
    | error cause =>
      simp only [actWith, obtained]
      exact List.prefix_refl words
    | ok word =>
      simp only [actWith, obtained]
      exact List.prefix_append words [word]
  | assign index field new =>
    simp only [actWith_assign frozen within, List.prefix_refl]

theorem prefix_afterWith (words : List Word) {actions : List Action}
    (within : ∀ action ∈ actions, action.Within names) : words <+: afterWith assign words actions := by
  induction actions generalizing words with
  | nil => exact List.prefix_refl words
  | cons action rest ih =>
    rw [List.forall_mem_cons] at within
    exact (prefix_actWith frozen words within.1).trans (ih _ within.2)

/-- A word that is at hand stays at hand as it is. -/
theorem getElem?_afterWith {words : List Word} {index : Nat} {word : Word} (there : words[index]? = some word)
    {actions : List Action} (within : ∀ action ∈ actions, action.Within names) :
    (afterWith assign words actions)[index]? = some word := by
  obtain ⟨more, whole⟩ := prefix_afterWith frozen words within
  have inside := (List.getElem?_eq_some_iff.mp there).1
  rw [← whole, List.getElem?_append_left inside, there]

end

/-! ## Frozen words -/

def act (words : List Word) (action : Action) : Option (Except WordError Word) × List Word :=
  actWith Word.assign words action

def after (words : List Word) (actions : List Action) : List Word := afterWith Word.assign words actions

theorem act_assign {words : List Word} {index : Nat} {word : Word} (there : words[index]? = some word)
    (field : String) (new : Json) :
    act words (.assign index field new) = (some (.error (.invalid (.frozen field))), words) := by
  simp only [act, actWith, there, Word.assign]

omit [Intake] in
theorem frozen_assign : Assignment.Frozen Word.assign fun _ => True := fun _ field _ _ => ⟨.frozen field, rfl⟩

theorem getElem?_after {words : List Word} {index : Nat} {word : Word} (there : words[index]? = some word)
    (actions : List Action) : (after words actions)[index]? = some word := by
  apply getElem?_afterWith frozen_assign there
  intro action _
  cases action <;> trivial

/-- Whatever way a word is come by, the validation promises a supported width, a value in its range, and an unsigned
view in the range without a sign that is the value modulo the weight of the width. The words themselves have all this,
and no attempt to change one has an effect. -/
theorem sound_forever :
    (∀ (origin : Origin) (draft : Draft), origin.draft = .ok draft → draft.Sound) ∧
    (∀ origin : Origin, origin.draft = (origin.word.mapError WordError.refusal).map draft) ∧
    ∀ (words : List Word) (index : Nat) (word : Word), words[index]? = some word →
      word.draft.Sound ∧ (∀ actions, (after words actions)[index]? = some word) ∧
      ∀ field new, act words (.assign index field new) = (some (.error (.invalid (.frozen field))), words) := by
  refine ⟨?_, Origin.draft_eq, ?_⟩
  · intro origin draft made
    obtain ⟨word, _, rfl⟩ := Origin.exists_word_of_draft made
    exact word.draft_sound
  · intro words index word there
    exact ⟨word.draft_sound, getElem?_after there, act_assign there⟩

end

/-- The least byte from data in other spellings, the least word from a pattern, and a byte that is to be given another
value while a further word is made. -/
theorem sound_forever_edges :
    (Origin.draft (.data (.object [("value", .string "-1_28"), ("width", .string " 8")])) = .ok ⟨8, -128⟩ ∧
      Draft.Sound ⟨8, -128⟩) ∧
    (Origin.draft (.lowBits 0x180000000 32) = .ok ⟨32, -2 ^ 31⟩ ∧ Draft.Sound ⟨32, -2 ^ 31⟩) ∧
    [wrapped .eight 255][0]? = some (wrapped .eight 255) ∧
    (after [wrapped .eight 255] [.assign 0 "value" (.int 7), .get (.lowBits 1 8)])[0]? = some (wrapped .eight 255) := by
  have byte : Origin.draft (.data (.object [("value", .string "-1_28"), ("width", .string " 8")])) =
      .ok ⟨8, -128⟩ := by rfl
  have word : Origin.draft (.lowBits 0x180000000 32) = .ok ⟨32, -2 ^ 31⟩ := by rfl
  have there : [wrapped .eight 255][0]? = some (wrapped .eight 255) := rfl
  exact ⟨⟨byte, sound_forever.1 _ _ byte⟩, ⟨word, sound_forever.1 _ _ word⟩, there,
    (sound_forever.2.2 _ _ _ there).2.1 _⟩

end Word

end MachineInt
