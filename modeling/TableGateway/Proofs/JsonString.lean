/-
This file shows that JSON strings keep every character. Whatever way a character is
written in, as it stands, by a letter after a backslash, as one escaped unit or as two
surrogates, a reader that arrives at it takes exactly it and goes on behind it. So the
string of any text is read as that text, whatever stands behind its closing quote.
-/

import TableGateway.Json.Reader
import TableGateway.Json.Writer

namespace TableGateway.Json

open Text

/-! ### Escaped units -/

theorem hexValue?_hexDigit : ∀ value < 16, hexValue? (hexDigit value) = some value := by
  decide

/-- A unit of four digits is taken back, if the text does not end with it. -/
theorem takeUnit_hexDigits {unit : Nat} (small : unit < 0x10000) {after : List Char}
    (more : after ≠ []) : takeUnit (hexDigits 4 unit ++ after) = some (unit, after) := by
  obtain ⟨next, rest, rfl⟩ := List.exists_cons_of_ne_nil more
  have digit (value : Nat) : hexValue? (hexDigit (value % 16)) = some (value % 16) :=
    hexValue?_hexDigit _ (Nat.mod_lt _ (by decide))
  have whole : ((unit / 16 / 16 / 16 % 16 * 16 + unit / 16 / 16 % 16) * 16 + unit / 16 % 16) * 16 +
      unit % 16 = unit := by omega
  simp [hexDigits, takeUnit, digit, whole]

/-- No character is half of a surrogate pair. -/
theorem not_isSurrogate (character : Char) :
    isHighSurrogate character.toNat = false ∧ isLowSurrogate character.toNat = false := by
  have scalar : character.toNat < 0xD800 ∨ 0xDFFF < character.toNat ∧ character.toNat < 0x110000 :=
    character.valid
  simp only [isHighSurrogate, isLowSurrogate, Bool.and_eq_false_iff, decide_eq_false_iff_not]
  omega

theorem charOfUnit_toNat (character : Char) : charOfUnit character.toNat = character := by
  obtain ⟨high, low⟩ := not_isSurrogate character
  simp [charOfUnit, high, low, Char.ofNat_toNat]

/-- A character of the first plane is read from its one unit. -/
theorem readUnicode_unit (atMark : List Char) (character : Char)
    (small : character.toNat < 0x10000) {after : List Char} (more : after ≠ []) :
    readUnicode atMark (hexDigits 4 character.toNat ++ after) = .ok (character, after) := by
  rw [readUnicode, takeUnit_hexDigits small more]
  -- What follows may be another escape, but only a high surrogate takes it along.
  simp only [(not_isSurrogate character).1, Bool.false_and, charOfUnit_toNat]
  split <;> rfl

/-- A character beyond the first plane is read from its two units. -/
theorem readUnicode_surrogates (atMark : List Char) (character : Char)
    (large : 0x10000 ≤ character.toNat) {after : List Char} (more : after ≠ []) :
    readUnicode atMark (hexDigits 4 (0xD800 + (character.toNat - 0x10000) / 0x400) ++
      (unitEscape (0xDC00 + (character.toNat - 0x10000) % 0x400) ++ after)) =
      .ok (character, after) := by
  have bounded : character.toNat < 0x110000 := by
    have scalar : character.toNat < 0xD800 ∨
        0xDFFF < character.toNat ∧ character.toNat < 0x110000 := character.valid
    omega
  generalize offsetEq : character.toNat - 0x10000 = offset
  have high : isHighSurrogate (0xD800 + offset / 0x400) = true := by
    simp only [isHighSurrogate, Bool.and_eq_true, decide_eq_true_eq]
    omega
  have low : isLowSurrogate (0xDC00 + offset % 0x400) = true := by
    simp only [isLowSurrogate, Bool.and_eq_true, decide_eq_true_eq]
    omega
  have joined : joinSurrogates (0xD800 + offset / 0x400) (0xDC00 + offset % 0x400) = character := by
    have code : 0x10000 + (0xD800 + offset / 0x400 - 0xD800) * 0x400 +
        (0xDC00 + offset % 0x400 - 0xDC00) = character.toNat := by omega
    rw [joinSurrogates, code, Char.ofNat_toNat]
  have enough : 5 ≤ (hexDigits 4 (0xDC00 + offset % 0x400) ++ after).length := by
    have := List.length_pos_iff.mpr more
    simp only [hexDigits, List.length_append, List.length_cons, List.length_nil]
    omega
  rw [readUnicode, takeUnit_hexDigits (by omega) (by simp [unitEscape])]
  simp only [unitEscape, List.cons_append, high, enough, takeUnit_hexDigits
    (show 0xDC00 + offset % 0x400 < 0x10000 by omega) more, low, joined, decide_true,
    Bool.and_self, if_true]

/-! ### Characters and strings -/

/-- The reader takes one step over a written character, whatever it is written as. -/
theorem readStringTail_writeChar (opening : List Char) (fuel : Nat) (reversed : List Char)
    (character : Char) {after : List Char} (more : after ≠ []) :
    readStringTail opening (fuel + 1) reversed (writeChar character ++ after) =
      readStringTail opening fuel (character :: reversed) after := by
  have named {code : Nat} {other : Char} (same : character.toNat = code)
      (known : other.toNat = code) : character = other :=
    Char.toNat_inj.mp (same.trans known.symm)
  simp only [writeChar, beq_iff_eq, Bool.and_eq_true, decide_eq_true_eq]
  split
  case isTrue quote => rw [named quote (by decide : '\x22'.toNat = 34)]; rfl
  split
  case isTrue backslash => rw [named backslash (by decide : '\\'.toNat = 92)]; rfl
  split
  case isTrue newline => rw [named newline (by decide : '\n'.toNat = 10)]; rfl
  split
  case isTrue carriage => rw [named carriage (by decide : '\r'.toNat = 13)]; rfl
  split
  case isTrue tab => rw [named tab (by decide : '\t'.toNat = 9)]; rfl
  split
  case isTrue feed => rw [named feed (by decide : '\x0c'.toNat = 12)]; rfl
  split
  case isTrue back => rw [named back (by decide : '\x08'.toNat = 8)]; rfl
  case isFalse noQuote noBackslash _ _ _ _ _ =>
    split
    case isTrue plain =>
      have notQuote : character ≠ '\x22' := by rintro rfl; exact noQuote rfl
      have notBackslash : character ≠ '\\' := by rintro rfl; exact noBackslash rfl
      have notControl : ¬character.toNat ≤ 0x1F := by omega
      simp [readStringTail, notQuote, notBackslash, notControl]
    split
    case isTrue small =>
      simp [unitEscape, readStringTail, readUnicode_unit _ character small more]
    case isFalse large =>
      have read (atMark : List Char) :=
        readUnicode_surrogates atMark character (Nat.le_of_not_lt large) more
      rw [List.append_assoc, unitEscape]
      simp [readStringTail, read]

theorem readStringTail_flatMap (opening : List Char) (fuel : Nat) (reversed characters : List Char)
    (rest : List Char) (enough : characters.length < fuel) :
    readStringTail opening fuel reversed (characters.flatMap writeChar ++ '\x22' :: rest) =
      .ok (reversed.reverse ++ characters, rest) := by
  induction characters generalizing fuel reversed with
  | nil =>
    cases fuel with
    | zero => cases enough
    | succ fuel => simp [readStringTail]
  | cons character others inductionHypothesis =>
    cases fuel with
    | zero => cases enough
    | succ fuel =>
      have fits : others.length < fuel := Nat.lt_of_succ_lt_succ enough
      rw [List.flatMap_cons, List.append_assoc,
        readStringTail_writeChar _ _ _ _ (List.append_ne_nil_of_right_ne_nil _ (by simp)),
        inductionHypothesis _ _ fits]
      simp

theorem writeChar_ne_nil (character : Char) : writeChar character ≠ [] := by
  simp only [writeChar, unitEscape]
  repeat' split
  all_goals simp

theorem length_le_flatMap_writeChar (characters : List Char) :
    characters.length ≤ (characters.flatMap writeChar).length := by
  induction characters with
  | nil => exact Nat.le_refl 0
  | cons character others inductionHypothesis =>
    have positive := List.length_pos_iff.mpr (writeChar_ne_nil character)
    rw [List.flatMap_cons, List.length_append, List.length_cons]
    omega

/-- The string of a text is read as that text, and what stands behind it is left. -/
theorem readString_writeString (characters rest : List Char) :
    readString (writeString characters ++ rest) = .ok (characters, rest) := by
  have shape : writeString characters ++ rest =
      '\x22' :: (characters.flatMap writeChar ++ '\x22' :: rest) := by
    simp [writeString]
  have enough := length_le_flatMap_writeChar characters
  rw [shape, readString, List.drop_one, List.tail_cons, readStringTail_flatMap]
  · rfl
  · simp only [List.length_cons, List.length_append]
    omega

end TableGateway.Json
