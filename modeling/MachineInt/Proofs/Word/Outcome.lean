import MachineInt.Proofs.Word.Origin

/-!
# What is reported of data

What the width and the value of some data come to, each as a relation to its own entry. An entry may be missing, it may
stand for no integer, and an integer may be no width, or be out of the range of the width; which range that is, and
whether there is one, is all that the value takes from the width. The validation ends in the word of both if there is no
fault, and in the faults otherwise, that of the width in front of that of the value.
-/

namespace MachineInt

namespace Word

/-! ## Outcomes -/

/-- An integer in the signed range of a width. -/
def InSignedRange (size : Width) (value : Int) : Prop :=
  -2 ^ (size.bits - 1) ≤ value ∧ value ≤ 2 ^ (size.bits - 1) - 1

instance (size : Width) (value : Int) : Decidable (InSignedRange size value) := inferInstanceAs (Decidable (_ ∧ _))

section

variable [Intake]

/-- What the entry of the width comes to. -/
inductive WidthOutcome : Option Json → Except Fault Width → Prop
  | missing : WidthOutcome none (.error .missing)
  | notInteger {datum : Json} {fault : Fault} (refused : Intake.integer datum = .error fault) :
    WidthOutcome (some datum) (.error fault)
  | unsupported {datum : Json} {given : Int} (taken : Intake.integer datum = .ok given)
    (other : given ≠ 8 ∧ given ≠ 16 ∧ given ≠ 32) : WidthOutcome (some datum) (.error (.unsupportedWidth given))
  | accepted {datum : Json} {size : Width} (taken : Intake.integer datum = .ok (size.bits : Int)) :
    WidthOutcome (some datum) (.ok size)

/-- What the entry of the value comes to beside a width. -/
inductive ValueOutcome (width : Except Fault Width) : Option Json → Except Fault Int → Prop
  | missing : ValueOutcome width none (.error .missing)
  | notInteger {datum : Json} {fault : Fault} (refused : Intake.integer datum = .error fault) :
    ValueOutcome width (some datum) (.error fault)
  | outside {datum : Json} {given : Int} {size : Width} (taken : Intake.integer datum = .ok given)
    (accepted : width = .ok size) (beyond : ¬ InSignedRange size given) :
    ValueOutcome width (some datum) (.error (.outOfRange given size))
  | accepted {datum : Json} {given : Int} (taken : Intake.integer datum = .ok given)
    (inside : ∀ size, width = .ok size → InSignedRange size given) : ValueOutcome width (some datum) (.ok given)

end

/-- The complaint about a field that is at fault. -/
def complaintsOf {α : Type} (field : String) : Except Fault α → List Complaint
  | .ok _ => []
  | .error fault => [⟨[field], fault.tag, fault.message⟩]

/-- Both fields, if they are in order, or the complaints about those that are not. -/
def verdict (width : Except Fault Width) (value : Except Fault Int) : Except (List Complaint) Draft :=
  match width, value with
  | .ok size, .ok number => .ok ⟨size.bits, number⟩
  | _, _ => .error (complaintsOf "width" width ++ complaintsOf "value" value)

/-! ## The outcomes are computed -/

def supportedWidth (given : Int) : Except Fault Width :=
  match Width.ofInt? given with
  | some size => .ok size
  | none => .error (.unsupportedWidth given)

/-- The range of the width, if one was accepted, is asked for. -/
def boundedBy (width : Except Fault Width) (value : Int) : Except Fault Int :=
  match width with
  | .ok size => if Fits size.bits value then .ok value else .error (.outOfRange value size)
  | .error _ => .ok value

theorem supportedWidth_bits (size : Width) : supportedWidth size.bits = .ok size := by
  rw [supportedWidth, size.ofInt?_bits]

theorem supportedWidth_other {given : Int} (other : given ≠ 8 ∧ given ≠ 16 ∧ given ≠ 32) :
    supportedWidth given = .error (.unsupportedWidth given) := by
  rw [supportedWidth, (Width.ofInt?_eq_none_iff given).mpr other]

theorem inSignedRange_iff (size : Width) (value : Int) : InSignedRange size value ↔ Fits size.bits value := by
  rw [fits_iff_pow, InSignedRange]

theorem boundedBy_beyond {size : Width} {value : Int} (beyond : ¬ InSignedRange size value) :
    boundedBy (.ok size) value = .error (.outOfRange value size) :=
  if_neg (mt (inSignedRange_iff size value).mpr beyond)

theorem boundedBy_inside {width : Except Fault Width} {value : Int}
    (inside : ∀ size, width = .ok size → InSignedRange size value) : boundedBy width value = .ok value := by
  cases width with
  | error fault => rfl
  | ok size => exact if_pos ((inSignedRange_iff size value).mp (inside size rfl))

section

variable [Intake]

/-- The integer that an entry stands for. -/
def entryInteger : Option Json → Except Fault Int
  | none => .error .missing
  | some datum => Intake.integer datum

theorem requiredInteger_eq (fields : List (String × Json)) (name : String) :
    requiredInteger fields name = entryInteger (Json.field? fields name) := by
  unfold requiredInteger
  cases Json.field? fields name <;> rfl

theorem requiredWidth_eq (fields : List (String × Json)) :
    requiredWidth fields = entryInteger (Json.field? fields "width") >>= supportedWidth := by
  rw [← requiredInteger_eq]
  rfl

theorem widthOutcome_iff (entry : Option Json) (outcome : Except Fault Width) :
    WidthOutcome entry outcome ↔ outcome = entryInteger entry >>= supportedWidth := by
  constructor
  · rintro (_ | refused | ⟨taken, other⟩ | taken)
    · rfl
    · rw [entryInteger, refused]
      rfl
    · rw [entryInteger, taken]
      exact (supportedWidth_other other).symm
    · rw [entryInteger, taken]
      exact (supportedWidth_bits _).symm
  · rintro rfl
    cases entry with
    | none => exact .missing
    | some datum =>
      cases taken : Intake.integer datum with
      | error fault =>
        rw [entryInteger, taken]
        exact .notInteger taken
      | ok given =>
        rw [entryInteger, taken]
        change WidthOutcome _ (supportedWidth given)
        rcases Width.exists_bits_or_unsupported given with ⟨size, rfl⟩ | other
        · rw [supportedWidth_bits]
          exact .accepted taken
        · rw [supportedWidth_other other]
          exact .unsupported taken other

theorem valueOutcome_iff (width : Except Fault Width) (entry : Option Json) (outcome : Except Fault Int) :
    ValueOutcome width entry outcome ↔ outcome = entryInteger entry >>= boundedBy width := by
  constructor
  · rintro (_ | refused | ⟨taken, accepted, beyond⟩ | ⟨taken, inside⟩)
    · rfl
    · rw [entryInteger, refused]
      rfl
    · rw [entryInteger, taken, accepted]
      exact (boundedBy_beyond beyond).symm
    · rw [entryInteger, taken]
      exact (boundedBy_inside inside).symm
  · rintro rfl
    cases entry with
    | none => exact .missing
    | some datum =>
      cases taken : Intake.integer datum with
      | error fault =>
        rw [entryInteger, taken]
        exact .notInteger taken
      | ok given =>
        rw [entryInteger, taken]
        change ValueOutcome width _ (boundedBy width given)
        by_cases inside : ∀ size, width = .ok size → InSignedRange size given
        · rw [boundedBy_inside inside]
          exact .accepted taken inside
        · -- Some width was accepted, and it is the one whose range is exceeded.
          simp only [not_forall, exists_prop] at inside
          obtain ⟨size, rfl, beyond⟩ := inside
          rw [boundedBy_beyond beyond]
          exact .outside taken rfl beyond

/-! ## The verdict -/

theorem ofFields_verdict (fields : List (String × Json)) {width : Except Fault Width} {value : Except Fault Int}
    (first : width = entryInteger (Json.field? fields "width") >>= supportedWidth)
    (second : value = entryInteger (Json.field? fields "value") >>= boundedBy width) :
    Draft.ofFields fields = verdict width value := by
  rw [← requiredWidth_eq] at first
  rw [← requiredInteger_eq] at second
  rw [Draft.ofFields_eq, Word.ofFields, ← first]
  cases taken : requiredInteger fields "value" with
  | error fault =>
    rw [taken] at second
    subst second
    cases width <;> rfl
  | ok given =>
    rw [taken] at second
    subst second
    cases width with
    | error fault => rfl
    | ok size =>
      simp only [Bind.bind, Except.bind, boundedBy]
      by_cases fits : Fits size.bits given
      · rw [dif_pos fits, if_pos fits]
        rfl
      · rw [dif_neg fits, if_neg fits]
        rfl

/-- Other entries are not looked at. -/
theorem ofFields_congr {fields others : List (String × Json)}
    (width : Json.field? others "width" = Json.field? fields "width")
    (value : Json.field? others "value" = Json.field? fields "value") : ofFields others = ofFields fields := by
  simp only [ofFields, requiredWidth, requiredInteger, width, value]

/-- The validation of an object reports what its two entries come to and nothing else. Each entry has one outcome, and
the validation ends in the word that they make, or in the complaint about the width, if there is one, and then that
about the value, if there is one. The other entries do not matter. -/
theorem validation_reports (fields : List (String × Json)) :
    ∃ width value,
      (∀ outcome, WidthOutcome (Json.field? fields "width") outcome ↔ outcome = width) ∧
      (∀ outcome, ValueOutcome width (Json.field? fields "value") outcome ↔ outcome = value) ∧
      ((ofData (.object fields)).mapError InvalidWord.complaints).map draft = verdict width value ∧
      Draft.ofData (.object fields) = verdict width value ∧
      ∀ others, Json.field? others "width" = Json.field? fields "width" →
        Json.field? others "value" = Json.field? fields "value" →
        ofData (.object others) = ofData (.object fields) := by
  have reported := ofFields_verdict fields rfl rfl
  refine ⟨_, _, widthOutcome_iff _, valueOutcome_iff _ _, ?_, reported, ?_⟩
  · rw [← Draft.ofData_eq]
    exact reported
  · intro others width value
    rw [ofData, ofData, ofFields_congr width value]

end

/-- A value beyond all words is reported beside a width in another spelling, and is passed over beside an integer that
is no width and beside a text that is none; a further entry changes nothing. -/
theorem validation_reports_edges :
    Draft.ofData (.object [("width", .string " +3_2.0"), ("value", .int 2147483648)]) =
      .error [⟨["value"], "value_error", "Value error, value 2147483648 does not fit in signed 32-bit range"⟩] ∧
    Draft.ofData (.object [("value", .int 2147483648), ("width", .int 64)]) =
      .error [⟨["width"], "value_error", "Value error, width must be one of (8, 16, 32), got 64"⟩] ∧
    Draft.ofData (.object [("value", .null), ("width", .string "0x20")]) =
      .error [⟨["width"], "int_parsing", Fault.unreadable.message⟩, ⟨["value"], "int_type", Fault.notInteger.message⟩] ∧
    ofData (.object [("width", .int 8), ("note", .null), ("value", .int 7)]) =
      ofData (.object [("width", .int 8), ("value", .int 7)]) := by
  refine ⟨?_, ?_, ?_, ?_⟩
  · obtain ⟨width, value, widths, values, _, reported, _⟩ :=
      validation_reports [("width", .string " +3_2.0"), ("value", .int 2147483648)]
    obtain rfl := (widths (.ok .thirtyTwo)).mp (.accepted rfl)
    obtain rfl := (values _).mp (.outside rfl rfl (by decide))
    exact reported
  · obtain ⟨width, value, widths, values, _, reported, _⟩ :=
      validation_reports [("value", .int 2147483648), ("width", .int 64)]
    obtain rfl := (widths _).mp (.unsupported rfl (by decide))
    obtain rfl := (values _).mp (.accepted rfl (fun size accepted => nomatch accepted))
    exact reported
  · obtain ⟨width, value, widths, values, _, reported, _⟩ :=
      validation_reports [("value", .null), ("width", .string "0x20")]
    obtain rfl := (widths _).mp (.notInteger rfl)
    obtain rfl := (values _).mp (.notInteger rfl)
    exact reported
  · obtain ⟨_, _, _, _, _, _, alone⟩ := validation_reports [("width", .int 8), ("value", .int 7)]
    exact alone _ rfl rfl

end Word

end MachineInt
