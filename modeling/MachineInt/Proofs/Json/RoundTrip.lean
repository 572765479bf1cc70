import MachineInt.Proofs.Json.Numeral
import MachineInt.Proofs.Json.Quoted

/-!
# Values written and read

What is written of a value is read as that value, and nothing of what comes after it is touched. Two things are asked of
the value: that it holds no floating-point number, since their texts are a matter of their own, and that no object gives
a name twice, since the reader would join the two.

The text is followed along the value. The reader comes to a value where it expects one and leaves it with the value in
hand, with whatever is open around it as it was; between the two lie the tokens of the value, cut from its text one by
one.
-/

namespace MachineInt.Json

mutual

/-- There are no floating-point numbers in the value, and no name stands twice in an object. -/
def Exact : Json → Prop
  | .number (.float _) => False
  | .null | .bool _ | .number (.int _) | .string _ => True
  | .array items => ExactItems items
  | .object fields => (fields.map Prod.fst).Nodup ∧ ExactFields fields

def ExactItems : List Json → Prop
  | [] => True
  | item :: rest => item.Exact ∧ ExactItems rest

def ExactFields : List (String × Json) → Prop
  | [] => True
  | (_, value) :: rest => value.Exact ∧ ExactFields rest

end

/-! ## Tokens -/

section

variable (offset : Nat)

theorem tokens_punctuation {c : Char} {shape : Shape} (visible : isBlank c = false) (mark : punctuation? c = some shape)
    (rest : List Char) : tokens offset (c :: rest) = ⟨offset, shape⟩ :: tokens (offset + 1) rest := by
  rw [tokens]
  simp [visible, mark]

/-- A token takes a character at least, and the last one is the end of the text. -/
theorem length_tokens_le (text : List Char) : (tokens offset text).length ≤ text.length + 1 := by
  have behind (count : Nat) (rest : List Char) : (rest.drop count).length ≤ rest.length :=
    (List.drop_sublist count rest).length_le
  fun_induction tokens offset text with
  | case1 | case4 | case7 => simp
  | case2 _ _ _ _ ih => exact Nat.le_trans ih (Nat.le_succ _)
  | case3 _ _ _ _ _ _ ih => exact Nat.succ_le_succ ih
  | case5 _ _ _ _ _ _ _ ih => exact Nat.succ_le_succ (Nat.le_trans ih (Nat.succ_le_succ (behind ..)))
  | case6 _ _ _ _ _ _ _ _ _ ih => exact Nat.succ_le_succ (Nat.le_trans ih (Nat.succ_le_succ (behind ..)))

theorem stringText_toList (text : String) :
    (stringText text).toList = '"' :: (text.toList.flatMap escapeChar ++ ['"']) := by
  simp [stringText]

theorem tokens_string (text : String) (tail : List Char) :
    tokens offset ((stringText text).toList ++ tail) =
      ⟨offset, .string text⟩ :: tokens (offset + (stringText text).toList.length) tail := by
  have visible : isBlank '"' = false := by decide
  have mark : punctuation? '"' = none := by decide
  have content := quoted_escaped offset (offset + 1) [] text.toList tail
  -- The string reaches to behind the closing quote.
  have past : offset + 1 + (text.toList.flatMap escapeChar).length + 1 =
      offset + 1 + (text.toList.flatMap escapeChar ++ ['"']).length := by
    rw [List.length_append, List.length_singleton, Nat.add_assoc]
  rw [List.reverse_nil, List.nil_append, String.ofList_toList, past, List.append_cons] at content
  rw [stringText_toList, List.cons_append, tokens, visible, mark, content]
  simp only [Bool.false_eq_true, if_false, if_true, Nat.add_sub_cancel_left, List.drop_left, List.length_cons]
  rw [Nat.add_right_comm, Nat.add_assoc]

/-- A character that neither stands between values nor opens one or begins a string. -/
def Leads (c : Char) : Prop := isBlank c = false ∧ punctuation? c = none ∧ c ≠ '"'

theorem tokens_scalar {word : List Char} {value : Json} (lead : ∃ c ∈ word.head?, Leads c) {tail : List Char}
    (found : scalar? (word ++ tail) = some (value, word.length)) :
    tokens offset (word ++ tail) = ⟨offset, .scalar value⟩ :: tokens (offset + word.length) tail := by
  obtain ⟨c, first, visible, mark, noQuote⟩ := lead
  obtain ⟨rest, rfl⟩ := List.head?_eq_some_iff.mp first
  rw [List.cons_append] at found ⊢
  rw [tokens]
  simp only [visible, mark, noQuote, found]
  simp

end

/-! ## Values without parts -/

theorem leads_isDigit {c : Char} (isDigit : c.isDigit = true) : Leads c := by
  refine ⟨?_, ?_, ne_of_isDigit isDigit rfl⟩
  · simp [isBlank, ne_of_isDigit isDigit]
  · unfold punctuation?
    split <;> first | rfl | simp at isDigit

theorem leads_integerText (value : Int) : ∃ c ∈ (integerText value).head?, Leads c := by
  obtain ⟨digit, rest, isDigit, shape⟩ := integerText_shape value
  rw [shape]
  by_cases negative : value < 0
  · rw [if_pos negative]
    exact ⟨'-', rfl, by decide, by decide, by decide⟩
  · rw [if_neg negative]
    exact ⟨digit, rfl, leads_isDigit isDigit⟩

/-- No keyword begins like an integer; not even `-Infinity` does, since a digit follows the minus. -/
theorem find?_literals_integerText (value : Int) (tail : List Char) :
    literals.find? (fun (word, _) => word.toList.isPrefixOf (integerText value ++ tail)) = none := by
  obtain ⟨digit, rest, isDigit, shape⟩ := integerText_shape value
  have other (c : Char) (noDigit : c.isDigit = false) : ¬ c = digit := (ne_of_isDigit isDigit noDigit).symm
  rw [shape, List.find?_eq_none]
  intro word member
  simp only [literals, List.mem_cons, List.not_mem_nil, or_false] at member
  by_cases negative : value < 0 <;>
    rcases member with rfl | rfl | rfl | rfl | rfl | rfl <;> simp [other, negative]

theorem scalar?_integerText (value : Int) {tail : List Char} (ends : EndsValue tail) :
    scalar? (integerText value ++ tail) = some (int value, (integerText value).length) := by
  rw [scalar?, find?_literals_integerText, number?_integerText value ends]
  rfl

/-- The values that are written as keywords. -/
def IsKeyword (value : Json) : Prop := value = .null ∨ value = .bool true ∨ value = .bool false

theorem scalar?_keyword {value : Json} (keyword : value.IsKeyword) (tail : List Char) :
    scalar? (value.compact.toList ++ tail) = some (value, value.compact.toList.length) := by
  rcases keyword with rfl | rfl | rfl <;> simp [compact, scalar?, literals] <;> rfl

theorem leads_keyword {value : Json} (keyword : value.IsKeyword) : ∃ c ∈ value.compact.toList.head?, Leads c := by
  rcases keyword with rfl | rfl | rfl
  · exact ⟨'n', by simp [compact], by decide, by decide, by decide⟩
  · exact ⟨'t', by simp [compact], by decide, by decide, by decide⟩
  · exact ⟨'f', by simp [compact], by decide, by decide, by decide⟩

/-! ## The machine -/

/-- A value may come here. -/
inductive TakesValue : Expectation → Prop
  | value : TakesValue .value
  | valueOrClose : TakesValue .valueOrClose

/-- The machine takes the text of a value for the value: from where one may come it gets to behind the text, with the
value in hand and the same around it. -/
def ReadsBack (value : Json) : Prop :=
  ∀ (stack : List Frame) {expected : Expectation} (offset : Nat) {tail : List Char}, TakesValue expected →
    EndsValue tail → ∃ past,
      build stack expected (tokens offset (value.compact.toList ++ tail)) =
        build stack (.after value) (tokens past tail)

theorem readsBack_scalar {value : Json} (lead : ∃ c ∈ value.compact.toList.head?, Leads c)
    (found : ∀ {tail}, EndsValue tail →
      scalar? (value.compact.toList ++ tail) = some (value, value.compact.toList.length)) : value.ReadsBack := by
  intro stack expected offset tail takes ends
  refine ⟨offset + value.compact.toList.length, ?_⟩
  rw [tokens_scalar offset lead (found ends)]
  cases takes <;> rfl

theorem readsBack_keyword {value : Json} (keyword : value.IsKeyword) : value.ReadsBack :=
  readsBack_scalar (leads_keyword keyword) fun _ => scalar?_keyword keyword _

theorem readsBack_int (value : Int) : (number (.int value)).ReadsBack := by
  have text : (number (.int value)).compact.toList = integerText value := by rw [compact, numberText_int]
  refine readsBack_scalar ?_ ?_
  · rw [text]
    exact leads_integerText value
  · intro tail ends
    rw [text]
    exact scalar?_integerText value ends

theorem readsBack_string (text : String) : (string text).ReadsBack := by
  intro stack expected offset tail takes _
  refine ⟨offset + (stringText text).toList.length, ?_⟩
  rw [compact, tokens_string]
  cases takes <;> rfl

/-! ## Values with parts -/

/-- The texts that come after the first one, each behind a comma. -/
def further (texts : List String) : List Char := texts.flatMap fun text => ',' :: text.toList

theorem further_cons (text : String) (rest : List String) :
    further (text :: rest) = ',' :: (text.toList ++ further rest) := rfl

theorem intercalate_comma_toList (first : String) (rest : List String) :
    (",".intercalate (first :: rest)).toList = first.toList ++ further rest := by
  induction rest generalizing first with
  | nil => simp [further]
  | cons second rest ih => simp [String.intercalate_cons_cons, ih, further_cons]

theorem endsValue_further (texts : List String) {tail : List Char} (ends : EndsValue tail) :
    EndsValue (further texts ++ tail) := by
  cases texts with
  | nil => exact ends
  | cons text rest => exact endsValue_comma _

theorem compactItems_eq_map (items : List Json) : compactItems items = items.map compact := by
  induction items with
  | nil => rfl
  | cons item rest ih => rw [compactItems, ih, List.map_cons]

/-- The text of a field. -/
def fieldText (field : String × Json) : String := stringText field.1 ++ ":" ++ field.2.compact

theorem compactFields_eq_map (fields : List (String × Json)) : compactFields fields = fields.map fieldText := by
  induction fields with
  | nil => rfl
  | cons field rest ih => rw [compactFields, ih, List.map_cons, fieldText]

theorem compact_array_toList (first : Json) (rest : List Json) :
    (array (first :: rest)).compact.toList =
      '[' :: (first.compact.toList ++ (further (rest.map compact) ++ [']'])) := by
  rw [compact, compactItems_eq_map, List.map_cons, String.toList_append, String.toList_append, intercalate_comma_toList]
  simp

theorem compact_object_toList (first : String × Json) (rest : List (String × Json)) :
    (object (first :: rest)).compact.toList =
      '\x7b' :: ((fieldText first).toList ++ (further (rest.map fieldText) ++ ['\x7d'])) := by
  rw [compact, compactFields_eq_map, List.map_cons, String.toList_append, String.toList_append,
    intercalate_comma_toList]
  simp

/-! ### Arrays -/

theorem tokens_comma (offset : Nat) (rest : List Char) :
    tokens offset (',' :: rest) = ⟨offset, .comma⟩ :: tokens (offset + 1) rest :=
  tokens_punctuation offset (by decide) rfl rest

/-- With an item in hand, the items behind it are read one by one, up to the end of the array. -/
theorem build_items {items : List Json} (parts : ∀ item ∈ items, item.ReadsBack) (done : List Json) (last : Json)
    (stack : List Frame) (offset : Nat) (tail : List Char) : ∃ past,
    build (.array done :: stack) (.after last) (tokens offset (further (items.map compact) ++ ']' :: tail)) =
      build stack (.after (.array ((last :: done).reverse ++ items))) (tokens past tail) := by
  induction items generalizing done last offset with
  | nil =>
    refine ⟨offset + 1, ?_⟩
    rw [List.append_nil]
    change build _ _ (tokens offset (']' :: tail)) = _
    rw [tokens_punctuation offset (by decide) rfl]
    rfl
  | cons item rest ih =>
    obtain ⟨behind, first⟩ := parts item List.mem_cons_self (.array (last :: done) :: stack) (offset + 1) .value
      (endsValue_further (rest.map compact) (endsValue_closeArray tail))
    obtain ⟨past, others⟩ := ih (fun other member => parts other (List.mem_cons_of_mem _ member)) (last :: done) item
      behind
    refine ⟨past, ?_⟩
    rw [List.map_cons, further_cons, List.cons_append, List.append_assoc, tokens_comma]
    -- The comma puts the item in hand to those that are done, and asks for another.
    change build (.array (last :: done) :: stack) .value _ = _
    rw [first, others]
    simp

theorem readsBack_array {items : List Json} (parts : ∀ item ∈ items, item.ReadsBack) : (array items).ReadsBack := by
  intro stack expected offset tail takes ends
  cases items with
  | nil =>
    refine ⟨offset + 1 + 1, ?_⟩
    have text : (array []).compact.toList = ['[', ']'] := by simp [compact, compactItems]
    rw [text, List.cons_append, List.cons_append, tokens_punctuation offset (by decide) rfl,
      tokens_punctuation (offset + 1) (by decide) rfl]
    cases takes <;> rfl
  | cons first rest =>
    obtain ⟨behind, opened⟩ := parts first List.mem_cons_self (.array [] :: stack) (offset + 1) .valueOrClose
      (endsValue_further (rest.map compact) (endsValue_closeArray tail))
    obtain ⟨past, others⟩ := build_items (fun other member => parts other (List.mem_cons_of_mem _ member)) [] first stack
      behind tail
    refine ⟨past, ?_⟩
    rw [compact_array_toList, List.cons_append, List.append_assoc, List.append_assoc,
      tokens_punctuation offset (by decide) rfl]
    refine Eq.trans ?_ (opened.trans others)
    cases takes <;> rfl

/-! ### Objects -/

/-- A name may come here. -/
inductive TakesName : Expectation → Prop
  | name : TakesName .name
  | nameOrClose : TakesName .nameOrClose

theorem putField_new {name : String} {done : List (String × Json)} (fresh : name ∉ done.map Prod.fst) (value : Json) :
    putField name value done = done ++ [(name, value)] := by
  induction done with
  | nil => rfl
  | cons field rest ih =>
    rw [List.map_cons, List.mem_cons, not_or] at fresh
    rw [putField, if_neg (Ne.symm fresh.1), ih fresh.2, List.cons_append]

/-- The name of a field and its value are read one after the other. -/
theorem build_field {field : String × Json} (part : field.2.ReadsBack) (done : List (String × Json)) (waiting : String)
    (stack : List Frame) {expected : Expectation} (takes : TakesName expected) (offset : Nat) {tail : List Char}
    (ends : EndsValue tail) : ∃ past,
    build (.object done waiting :: stack) expected (tokens offset ((fieldText field).toList ++ tail)) =
      build (.object done field.1 :: stack) (.after field.2) (tokens past tail) := by
  have text : (fieldText field).toList ++ tail =
      (stringText field.1).toList ++ ':' :: (field.2.compact.toList ++ tail) := by
    simp [fieldText]
  obtain ⟨past, value⟩ := part (.object done field.1 :: stack) (offset + (stringText field.1).toList.length + 1)
    .value ends
  refine ⟨past, ?_⟩
  rw [text, tokens_string, tokens_punctuation _ (by decide) rfl, ← value]
  cases takes <;> rfl

/-- A name that is not given twice is put behind those that were given before. -/
theorem putField_next {done fields : List (String × Json)} {next : String × Json}
    (names : ((done ++ next :: fields).map Prod.fst).Nodup) : putField next.1 next.2 done = done ++ [next] := by
  rw [List.map_append, List.map_cons, List.nodup_append] at names
  exact putField_new (fun member => names.2.2 _ member _ List.mem_cons_self rfl) next.2

/-- With a field in hand, the fields behind it are read one by one, up to the end of the object. -/
theorem build_fields {fields : List (String × Json)} (parts : ∀ field ∈ fields, field.2.ReadsBack)
    (done : List (String × Json)) (last : String × Json) (names : ((done ++ last :: fields).map Prod.fst).Nodup)
    (stack : List Frame) (offset : Nat) (tail : List Char) : ∃ past,
    build (.object done last.1 :: stack) (.after last.2)
        (tokens offset (further (fields.map fieldText) ++ '\x7d' :: tail)) =
      build stack (.after (.object (done ++ last :: fields))) (tokens past tail) := by
  induction fields generalizing done last offset with
  | nil =>
    refine ⟨offset + 1, ?_⟩
    change build _ _ (tokens offset ('\x7d' :: tail)) = _
    rw [tokens_punctuation offset (by decide) rfl, ← putField_next names]
    rfl
  | cons field rest ih =>
    obtain ⟨behind, next⟩ := build_field (parts field List.mem_cons_self) (done ++ [last]) "" stack .name (offset + 1)
      (endsValue_further (rest.map fieldText) (endsValue_closeObject tail))
    have placed := putField_next names
    rw [List.append_cons] at names
    obtain ⟨past, others⟩ := ih (fun other member => parts other (List.mem_cons_of_mem _ member)) (done ++ [last]) field
      names behind
    refine ⟨past, ?_⟩
    rw [List.map_cons, further_cons, List.cons_append, List.append_assoc, tokens_comma]
    -- The comma puts the field in hand to those that are done; no other has its name, so it becomes the last.
    change build (.object (putField last.1 last.2 done) "" :: stack) .name _ = _
    rw [placed, next, others, ← List.append_cons]

theorem readsBack_object {fields : List (String × Json)} (names : (fields.map Prod.fst).Nodup)
    (parts : ∀ field ∈ fields, field.2.ReadsBack) : (object fields).ReadsBack := by
  intro stack expected offset tail takes ends
  cases fields with
  | nil =>
    refine ⟨offset + 1 + 1, ?_⟩
    have text : (object []).compact.toList = ['\x7b', '\x7d'] := by simp [compact, compactFields]
    rw [text, List.cons_append, List.cons_append, tokens_punctuation offset (by decide) rfl,
      tokens_punctuation (offset + 1) (by decide) rfl]
    cases takes <;> rfl
  | cons first rest =>
    obtain ⟨behind, opened⟩ := build_field (parts first List.mem_cons_self) [] "" stack .nameOrClose (offset + 1)
      (endsValue_further (rest.map fieldText) (endsValue_closeObject tail))
    obtain ⟨past, others⟩ := build_fields (fun other member => parts other (List.mem_cons_of_mem _ member)) [] first
      names stack behind tail
    refine ⟨past, ?_⟩
    rw [compact_object_toList, List.cons_append, List.append_assoc, List.append_assoc,
      tokens_punctuation offset (by decide) rfl]
    refine Eq.trans ?_ (opened.trans others)
    cases takes <;> rfl

/-! ## All values -/

mutual

theorem Exact.readsBack : ∀ {value : Json}, value.Exact → value.ReadsBack
  | .null, _ => readsBack_keyword (.inl rfl)
  | .bool true, _ => readsBack_keyword (.inr (.inl rfl))
  | .bool false, _ => readsBack_keyword (.inr (.inr rfl))
  | .number (.int value), _ => readsBack_int value
  | .string text, _ => readsBack_string text
  | .array _, exact => readsBack_array (readsBack_items exact)
  | .object _, exact => readsBack_object exact.1 (readsBack_fields exact.2)

theorem readsBack_items : ∀ {items : List Json}, ExactItems items → ∀ item ∈ items, item.ReadsBack
  | _ :: _, exact, _, .head _ => exact.1.readsBack
  | _ :: _, exact, _, .tail _ member => readsBack_items exact.2 _ member

theorem readsBack_fields : ∀ {fields : List (String × Json)}, ExactFields fields →
    ∀ field ∈ fields, field.2.ReadsBack
  | _ :: _, exact, _, .head _ => exact.1.readsBack
  | _ :: _, exact, _, .tail _ member => readsBack_fields exact.2 _ member

end

/-- A byte order mark begins no token. -/
theorem tokens_byteOrderMark (offset : Nat) (rest : List Char) :
    tokens offset ('\ufeff' :: rest) = [⟨offset, .junk⟩] := by
  have none : scalar? ('\ufeff' :: rest) = none := by
    simp [scalar?, literals, number?, wholeDigits]
  rw [tokens, none]
  simp [isBlank, punctuation?]

/-- What is written of a value is read as the value. -/
theorem read_compact {value : Json} (exact : value.Exact) : read value.compact = .ok value := by
  obtain ⟨past, run⟩ := exact.readsBack [] 0 .value endsValue_nil
  rw [List.append_nil, tokens] at run
  have built : build [] .value (tokens 0 value.compact.toList) = .ok value := run
  rw [read]
  split
  next marked =>
    -- The text would break off at the mark, but all of it has been read.
    obtain ⟨rest, text⟩ := List.head?_eq_some_iff.mp marked
    rw [text, tokens_byteOrderMark] at built
    cases built
  · exact built

end MachineInt.Json
