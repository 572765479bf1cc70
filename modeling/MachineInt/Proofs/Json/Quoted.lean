import MachineInt.Json.Reader
import MachineInt.Json.Writer

/-!
# Strings written and read

A string is written character by character: most stand for themselves, some are a letter behind a backslash, and the
rest are given by number, in one unit of sixteen bits or in the two halves of a pair. Each of these spellings is read as
the one character that it was written for, whatever comes after it, and the closing quote, which is written in no other
place, ends the string.
-/

namespace MachineInt.Json

/-! ## Numbers of characters -/

theorem hexDigit?_digitChar {digit : Nat} (small : digit < 16) : hexDigit? (Nat.digitChar digit) = some digit := by
  have all : ∀ digit ∈ List.range 16, hexDigit? (Nat.digitChar digit) = some digit := by decide
  exact all digit (List.mem_range.mpr small)

/-- Four hexadecimal digits are read as the unit that they were written for. -/
theorem hexUnit?_hexUnit {unit : Nat} (small : unit < 0x10000) :
    hexUnit? (Nat.digitChar (unit / 4096 % 16)) (Nat.digitChar (unit / 256 % 16)) (Nat.digitChar (unit / 16 % 16))
      (Nat.digitChar (unit % 16)) = some unit := by
  have digit (value : Nat) : hexDigit? (Nat.digitChar (value % 16)) = some (value % 16) :=
    hexDigit?_digitChar (Nat.mod_lt value (by decide))
  simp only [hexUnit?, digit, Option.bind_eq_bind, Option.bind_some, Option.pure_def, Option.some.injEq]
  omega

/-! ## Spellings of one character -/

section

variable (start offset : Nat) (done : List Char)

theorem quoted_plain {c : Char} (noQuote : c ≠ '"') (noBackslash : c ≠ '\\') (printable : ¬ c.toNat < 0x20)
    (rest : List Char) : quoted start offset done (c :: rest) = quoted start (offset + 1) (c :: done) rest := by
  rw [quoted]
  · rw [if_neg printable]
  all_goals simp [noQuote, noBackslash]

theorem quoted_letter {letter c : Char} (stands : escaped? letter = some c) (rest : List Char) :
    quoted start offset done ('\\' :: letter :: rest) = quoted start (offset + 2) (c :: done) rest := by
  have noUnit : letter ≠ 'u' := by
    rintro rfl
    cases stands
  rw [quoted]
  · rw [if_neg noUnit, stands]
  all_goals simp [noUnit]

theorem quoted_unit {unit : Nat} (small : unit < 0x10000) (high : isHighHalf unit = false)
    (low : isLowHalf unit = false) (next : Char) (rest : List Char) :
    quoted start offset done (escapeUnit unit ++ next :: rest) =
      quoted start (offset + 6) (Char.ofNat unit :: done) (next :: rest) := by
  simp only [escapeUnit, hexUnit, List.cons_append, List.nil_append]
  rw [quoted, hexUnit?_hexUnit small]
  simp [high, low]

theorem quoted_pair {high low : Nat} (isHigh : isHighHalf high = true) (isLow : isLowHalf low = true) (next : Char)
    (rest : List Char) :
    quoted start offset done (escapeUnit high ++ (escapeUnit low ++ next :: rest)) =
      quoted start (offset + 12) (joinHalves high low :: done) (next :: rest) := by
  have highSmall : high < 0x10000 := by simp [isHighHalf] at isHigh; omega
  have lowSmall : low < 0x10000 := by simp [isLowHalf] at isLow; omega
  simp only [escapeUnit, hexUnit, List.cons_append, List.nil_append]
  rw [quoted, hexUnit?_hexUnit highSmall]
  simp only [isHigh, if_true, hexUnit?_hexUnit lowSmall, isLow]

end

/-- The numbers that are halves of pairs belong to no character. -/
theorem toNat_valid (c : Char) : c.toNat < 0xD800 ∨ 0xDFFF < c.toNat ∧ c.toNat < 0x110000 := c.valid

theorem halves_toNat (c : Char) : isHighHalf c.toNat = false ∧ isLowHalf c.toNat = false := by
  have valid := toNat_valid c
  simp only [isHighHalf, isLowHalf, Bool.and_eq_false_iff, decide_eq_false_iff_not]
  omega

theorem joinHalves_split {c : Char} (beyond : 0x10000 ≤ c.toNat) :
    joinHalves (0xD800 + (c.toNat - 0x10000) / 0x400) (0xDC00 + (c.toNat - 0x10000) % 0x400) = c := by
  have joined : 0x10000 + (0xD800 + (c.toNat - 0x10000) / 0x400 - 0xD800) * 0x400 +
      (0xDC00 + (c.toNat - 0x10000) % 0x400 - 0xDC00) = c.toNat := by omega
  rw [joinHalves, joined, Char.ofNat_toNat]

/-- However a character is written, it is read. -/
theorem quoted_escapeChar (start offset : Nat) (done : List Char) (c next : Char) (rest : List Char) :
    quoted start offset done (escapeChar c ++ next :: rest) =
      quoted start (offset + (escapeChar c).length) (c :: done) (next :: rest) := by
  have asUnit (small : c.toNat < 0x10000) : quoted start offset done (escapeUnit c.toNat ++ next :: rest) =
      quoted start (offset + 6) (c :: done) (next :: rest) := by
    rw [quoted_unit start offset done small (halves_toNat c).1 (halves_toNat c).2, Char.ofNat_toNat]
  unfold escapeChar
  split
  -- The quote, the backslash and five characters of control have letters.
  iterate 7 exact quoted_letter start offset done rfl _
  next noQuote noBackslash _ _ _ _ _ =>
    dsimp only
    split
    next control => exact asUnit (by omega)
    next printable =>
      split
      next plain => exact quoted_plain start offset done noQuote noBackslash printable _
      next foreign =>
        split
        next basic => exact asUnit basic
        next beyond =>
          have valid := toNat_valid c
          have high : isHighHalf (0xD800 + (c.toNat - 0x10000) / 0x400) = true := by
            simp only [isHighHalf, Bool.and_eq_true, decide_eq_true_eq]
            omega
          have low : isLowHalf (0xDC00 + (c.toNat - 0x10000) % 0x400) = true := by
            simp only [isLowHalf, Bool.and_eq_true, decide_eq_true_eq]
            omega
          rw [List.append_assoc, quoted_pair start offset done high low, joinHalves_split (by omega)]
          rfl

/-! ## Strings -/

/-- The characters of a string are read one by one, up to the closing quote. -/
theorem quoted_escaped (start offset : Nat) (done text tail : List Char) :
    quoted start offset done (text.flatMap escapeChar ++ '"' :: tail) =
      .ok (String.ofList (done.reverse ++ text), offset + (text.flatMap escapeChar).length + 1) := by
  induction text generalizing offset done with
  | nil => simp [quoted]
  | cons c rest ih =>
    -- A character is read for certain only if the text goes on, and it does, at least with the quote.
    obtain ⟨next, more, goesOn⟩ := List.exists_cons_of_ne_nil
      (List.append_ne_nil_of_right_ne_nil (rest.flatMap escapeChar) (List.cons_ne_nil '"' tail))
    rw [List.flatMap_cons, List.append_assoc, goesOn, quoted_escapeChar, ← goesOn, ih]
    simp [Nat.add_assoc]

end MachineInt.Json
