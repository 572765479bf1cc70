import MachineInt.Proofs.Word.Data

/-!
# Validation field by field

The validation of words once more, as a pass over the declared fields that ends in two plain integers and promises
nothing of them. Each field is taken for an integer and then checked; the check sees the integers of the fields that
were accepted before it. The range of a value is only asked for if a width was accepted, and yet the pass ends in the
width and the value of a word or in complaints, the same ones as are published.
-/

namespace MachineInt

/-- A width and a value of which nothing is promised. -/
structure Draft where
  width : Int
  value : Int
  deriving DecidableEq, Repr

def Word.draft (word : Word) : Draft := ⟨word.width.bits, word.value⟩

namespace Draft

/-! ## The pass -/

/-- A check sees the fields that were accepted before. It lets an integer pass or raises an error with a text. -/
abbrev Check := List (String × Int) → Int → Except String Int

def checkWidth : Check := fun _ given =>
  match Width.ofInt? given with
  | some _ => .ok given
  | none => .error (unsupportedWidthText given)

def outOfRangeText (value width : Int) : String := s!"value {value} does not fit in signed {width}-bit range"

def checkValue : Check := fun accepted given =>
  match accepted.lookup "width" with
  | none => .ok given
  | some width =>
    match fitsAt given width with
    | .ok true => .ok given
    | .ok false => .error (outOfRangeText given width)
    | .error cause => .error cause.message

/-- The fields in the order of their declaration. -/
def declared : List (String × Check) := [("width", checkWidth), ("value", checkValue)]

/-- How far a validation has come. -/
structure Progress where
  accepted : List (String × Int)
  complaints : List Complaint

def Progress.complain (progress : Progress) (name tag message : String) : Progress :=
  { progress with complaints := progress.complaints ++ [⟨[name], tag, message⟩] }

def Progress.accept (progress : Progress) (name : String) (value : Int) : Progress :=
  { progress with accepted := progress.accepted ++ [(name, value)] }

section

variable [Word.Intake]

def validateField (fields : List (String × Json)) (progress : Progress) (name : String) (check : Check) : Progress :=
  match Word.requiredInteger fields name with
  | .error fault => progress.complain name fault.tag fault.message
  | .ok given =>
    match check progress.accepted given with
    | .error text => progress.complain name "value_error" s!"Value error, {text}"
    | .ok value => progress.accept name value

def validate (fields : List (String × Json)) : Progress :=
  declared.foldl (fun progress (name, check) => validateField fields progress name check) ⟨[], []⟩

/-- What was accepted, if there are no complaints. -/
def ofFields (fields : List (String × Json)) : Except (List Complaint) Draft :=
  let progress := validate fields
  match progress.complaints, progress.accepted.lookup "width", progress.accepted.lookup "value" with
  | [], some width, some value => .ok ⟨width, value⟩
  | complaints, _, _ => .error complaints

/-! ## One field -/

variable {fields : List (String × Json)} {progress : Progress} {name : String} {check : Check}

theorem validateField_fault {fault : Fault} (refused : Word.requiredInteger fields name = .error fault) :
    validateField fields progress name check = progress.complain name fault.tag fault.message := by
  rw [validateField, refused]

theorem validateField_error {given : Int} {text : String} (taken : Word.requiredInteger fields name = .ok given)
    (raised : check progress.accepted given = .error text) :
    validateField fields progress name check = progress.complain name "value_error" s!"Value error, {text}" := by
  rw [validateField, taken]
  simp only [raised]

theorem validateField_ok {given value : Int} (taken : Word.requiredInteger fields name = .ok given)
    (passed : check progress.accepted given = .ok value) :
    validateField fields progress name check = progress.accept name value := by
  rw [validateField, taken]
  simp only [passed]

end

theorem checkWidth_bits (accepted : List (String × Int)) (size : Width) :
    checkWidth accepted size.bits = .ok (size.bits : Int) := by
  rw [checkWidth, size.ofInt?_bits]

theorem checkValue_known (size : Width) (given : Int) :
    checkValue [("width", size.bits)] given =
      if Fits size.bits given then .ok given else .error (outOfRangeText given size.bits) := by
  have known : [("width", (size.bits : Int))].lookup "width" = some (size.bits : Int) := rfl
  simp only [checkValue, known, fitsAt_of_pos size.bits_pos]
  split
  next fits => rw [if_pos (of_decide_eq_true (Except.ok.inj fits))]
  next beyond => rw [if_neg (of_decide_eq_false (Except.ok.inj beyond))]
  next trapped => cases trapped

theorem message_outOfRange (value : Int) (size : Width) :
    (Fault.outOfRange value size).message = s!"Value error, {outOfRangeText value size.bits}" := by
  have bits : toString (size.bits : Int) = toString size.bits := by cases size <;> rfl
  have front : "Value error, value " = "Value error, " ++ "value " := by decide
  have shown : (Fault.outOfRange value size).message =
      s!"Value error, value {value} does not fit in signed {size.bits}-bit range" := rfl
  rw [shown, outOfRangeText, bits, front]
  simp only [String.append_assoc, toString]

/-! ## The same answers -/

/-- A fault of a field, as it is published. -/
def complaint (fault : FieldFault) : Complaint := ⟨[fault.field], fault.fault.tag, fault.fault.message⟩

section

variable [Word.Intake]

/-- The first field is accepted if it is the width of a word. -/
theorem validate_width (fields : List (String × Json)) :
    validateField fields ⟨[], []⟩ "width" checkWidth =
      match Word.requiredWidth fields with
      | .ok size => ⟨[("width", size.bits)], []⟩
      | .error fault => ⟨[], [complaint ⟨"width", fault⟩]⟩ := by
  unfold Word.requiredWidth
  cases taken : Word.requiredInteger fields "width" with
  | error fault =>
    rw [validateField_fault taken]
    rfl
  | ok given =>
    simp only [Bind.bind, Except.bind]
    cases supported : Width.ofInt? given with
    | none =>
      have raised : checkWidth [] given = .error (unsupportedWidthText given) := by rw [checkWidth, supported]
      rw [validateField_error taken raised]
      rfl
    | some size =>
      obtain rfl := (Width.ofInt?_eq_some_iff given size).mp supported
      rw [validateField_ok taken (checkWidth_bits [] size)]
      rfl

/-- Where no width was accepted, there is no range to ask for, -/
theorem validate_value_unknown (fields : List (String × Json)) (complaints : List Complaint) :
    validateField fields ⟨[], complaints⟩ "value" checkValue =
      match Word.requiredInteger fields "value" with
      | .ok given => ⟨[("value", given)], complaints⟩
      | .error fault => ⟨[], complaints ++ [complaint ⟨"value", fault⟩]⟩ := by
  cases taken : Word.requiredInteger fields "value" with
  | error fault =>
    rw [validateField_fault taken]
    rfl
  | ok given =>
    rw [validateField_ok taken rfl]
    rfl

/-- and where one was, it is asked for. -/
theorem validate_value_known (fields : List (String × Json)) (size : Width) :
    validateField fields ⟨[("width", size.bits)], []⟩ "value" checkValue =
      match Word.requiredInteger fields "value" with
      | .ok given =>
        if Fits size.bits given then ⟨[("width", size.bits), ("value", given)], []⟩
        else ⟨[("width", size.bits)], [complaint ⟨"value", .outOfRange given size⟩]⟩
      | .error fault => ⟨[("width", size.bits)], [complaint ⟨"value", fault⟩]⟩ := by
  cases taken : Word.requiredInteger fields "value" with
  | error fault =>
    rw [validateField_fault taken]
    rfl
  | ok given =>
    have checked := checkValue_known size given
    by_cases fits : Fits size.bits given
    · rw [if_pos fits] at checked
      rw [validateField_ok taken checked]
      simp only [if_pos fits]
      rfl
    · rw [if_neg fits] at checked
      rw [validateField_error taken checked]
      simp only [if_neg fits, complaint, message_outOfRange]
      rfl

/-- The pass accepts and complains as the validation of words does. -/
theorem ofFields_eq (fields : List (String × Json)) :
    ofFields fields = ((Word.ofFields fields).mapError (·.map complaint)).map Word.draft := by
  have order : validate fields =
      validateField fields (validateField fields ⟨[], []⟩ "width" checkWidth) "value" checkValue := rfl
  simp only [ofFields, order, validate_width, Word.ofFields]
  cases Word.requiredWidth fields with
  | error fault =>
    simp only [validate_value_unknown]
    cases Word.requiredInteger fields "value" <;> rfl
  | ok size =>
    simp only [validate_value_known]
    cases Word.requiredInteger fields "value" with
    | error fault => rfl
    | ok given =>
      by_cases fits : Fits size.bits given
      · simp only [if_pos fits, dif_pos fits]
        rfl
      · simp only [if_neg fits, dif_neg fits]
        rfl

end

end Draft

end MachineInt
