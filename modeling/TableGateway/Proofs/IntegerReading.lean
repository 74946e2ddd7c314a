/-
This file shows that integers are read back from their texts. The digits of a number are
in the form that the reader brings texts to: no zero in front that could go, no fraction
and no underscore. What is written between blanks is trimmed to what was written, in any
of the spellings of a text, so that a key that is kept as a text is found again by the
number it stands for.
-/

import TableGateway.Proofs.Spelling

namespace TableGateway

open Number Text

/-! ### Blanks around a text -/

namespace Text

/-- A text of blanks only. -/
def IsBlankText (text : String) : Prop :=
  ∀ character ∈ text.toList, isBlank character = true

instance (text : String) : Decidable (IsBlankText text) :=
  inferInstanceAs (Decidable (∀ character ∈ text.toList, isBlank character = true))

theorem rdropWhile_append_of_all {drops : Char → Bool} {dropped : List Char}
    (all : ∀ character ∈ dropped, drops character = true) (front : List Char) :
    (front ++ dropped).rdropWhile drops = front.rdropWhile drops := by
  have reversed : ∀ character ∈ dropped.reverse, drops character = true :=
    fun character member => all character (List.mem_reverse.mp member)
  rw [List.rdropWhile, List.reverse_append, List.dropWhile_append_of_pos reversed, List.rdropWhile]

/-- Characters that are dropped anyway may stand at both ends. What is behind is reached from the
front only if nothing else stays. -/
theorem trimBy_surrounded {drops : Char → Bool} {before after : List Char}
    (atFront : ∀ character ∈ before, drops character = true)
    (behind : ∀ character ∈ after, drops character = true) (characters : List Char) :
    trimBy drops (before ++ characters ++ after) = trimBy drops characters := by
  have trimmed (others : List Char) :
      trimBy drops others = (others.dropWhile drops).rdropWhile drops := rfl
  rw [trimmed, trimmed, List.append_assoc, List.dropWhile_append_of_pos atFront,
    List.dropWhile_append]
  split
  case isTrue nothing =>
    have tail : after.dropWhile drops = [] := List.dropWhile_eq_nil_iff.mpr behind
    rw [tail, List.isEmpty_iff.mp nothing]
  case isFalse => exact rdropWhile_append_of_all behind _

theorem trim_surrounded {before after : String} (atFront : IsBlankText before)
    (behind : IsBlankText after) (text : String) : trim (before ++ text ++ after) = trim text := by
  rw [trim, String.toList_append, String.toList_append, trimChars,
    trimBy_surrounded atFront behind, trim, trimChars]

end Text

/-! ### Digits in the form that is read -/

namespace Number

theorem isDigit_ne {character other : Char} (digit : isDigit character = true)
    (noDigit : isDigit other = false) : character ≠ other := by
  rintro rfl
  exact Bool.false_ne_true (noDigit.symm.trans digit)

theorem not_mem_digits {mark : Char} (noDigit : isDigit mark = false) (value : Nat) :
    mark ∉ digits value :=
  fun member => Bool.false_ne_true (noDigit.symm.trans (isDigit_of_mem_digits value mark member))

/-- No zero in front of a number can go: the only one that stands there is zero itself. -/
theorem withoutLeadingZeros?_digits (value : Nat) :
    withoutLeadingZeros? (digits value) = some (digits value) := by
  obtain ⟨first, more, shape, digit, onlyZero⟩ := exists_digits value
  by_cases zero : first = '0'
  · rw [onlyZero zero, digits_zero]
    rfl
  · rw [shape, withoutLeadingZeros?.eq_def]
    split
    case h_1 same => exact absurd (List.cons.inj same).1 zero
    case h_2 same =>
      obtain ⟨rfl, rfl⟩ := List.cons.inj same
      rw [digit, Bool.true_or, if_pos rfl]
    case h_3 same => cases same

theorem withoutZeroFraction_of_not_mem {characters : List Char} (noPoint : '.' ∉ characters) :
    withoutZeroFraction characters = characters := by
  have whole : characters.dropWhile (· != '.') = [] := by
    refine List.dropWhile_eq_nil_iff.mpr fun character member => ?_
    exact bne_iff_ne.mpr fun point => noPoint (point ▸ member)
  rw [withoutZeroFraction, whole]

/-- Where there are no underscores, none are taken out. -/
theorem getD_withoutUnderscores?_of_not_mem {characters : List Char} (none : '_' ∉ characters) :
    (withoutUnderscores? characters).getD characters = characters := by
  have kept : characters.filter (· != '_') = characters := by
    refine List.filter_eq_self.mpr fun character member => ?_
    exact bne_iff_ne.mpr fun mark => none (mark ▸ member)
  rw [withoutUnderscores?]
  split
  · rfl
  · rw [kept]
    rfl

/-- The digits of a number, with or without a minus. -/
def signed (negative : Bool) (value : Nat) : List Char :=
  if negative then '-' :: digits value else digits value

theorem length_signed (negative : Bool) (value : Nat) :
    (signed negative value).length = (digits value).length + if negative then 1 else 0 := by
  cases negative <;> rfl

theorem spanSigns?_signed (negative : Bool) (value : Nat) :
    spanSigns? (signed negative value) = some (negative, digits value) := by
  obtain ⟨first, more, shape, digit, -⟩ := exists_digits value
  cases negative with
  | true => rfl
  | false =>
    show spanSigns? (digits value) = _
    rw [shape, spanSigns?.eq_def]
    split
    case h_4 => rfl
    all_goals
      rename_i same
      exact absurd (List.cons.inj same).1 (isDigit_ne digit rfl)

/-- The digits of a number are in the form that texts are brought to. -/
theorem normalize?_signed (negative : Bool) (value : Nat) :
    normalize? (signed negative value) = some (signed negative value) := by
  rw [normalize?, spanSigns?_signed]
  simp only [bind, Option.bind, withoutLeadingZeros?_digits,
    withoutZeroFraction_of_not_mem (not_mem_digits rfl value),
    getD_withoutUnderscores?_of_not_mem (not_mem_digits rfl value)]
  rfl

/-- A run of digits that is not too long is read as its number. Zero is read by a case of its own,
as is every other run that begins with a zero. -/
theorem readWritten_signed {negative : Bool} {value : Nat}
    (fits : (signed negative value).length ≤ longestRun) :
    readWritten (signed negative value) = .ok (if negative then -(value : Int) else value) := by
  obtain ⟨first, more, shape, digit, onlyZero⟩ := exists_digits value
  have whole : spanDigits (digits value) = (digits value, []) := by
    have nothing : ∀ next ∈ ([] : List Char).head?, isDigit next = false := nofun
    have alone := spanDigits_append (isDigit_of_mem_digits value) nothing
    rwa [List.append_nil] at alone
  by_cases zero : first = '0'
  · rw [signed, onlyZero zero, digits_zero]
    cases negative <;> rfl
  · have noMinus : first ≠ '-' := isDigit_ne digit rfl
    have number : valueOf (first :: more) = value := by rw [← shape, valueOf_digits]
    rw [length_signed, shape] at fits
    rw [shape] at whole
    cases negative with
    | false =>
      rw [signed, if_neg Bool.false_ne_true, shape]
      simpa [readWritten, noMinus, zero, whole, number] using fits
    | true =>
      rw [signed, if_pos rfl, shape]
      simpa [readWritten, zero, whole, number] using fits

theorem readInteger_signed {negative : Bool} {value : Nat}
    (fits : (signed negative value).length ≤ longestRun) :
    readInteger (signed negative value) = .ok (if negative then -(value : Int) else value) := by
  rw [readInteger, normalize?_signed]
  exact readWritten_signed fits

/-- What is written of an integer is read as it, unless it is too long. -/
theorem readInteger_integerText {number : Int}
    (fits : (integerText number).toList.length ≤ longestRun) :
    readInteger (integerText number).toList = .ok number := by
  cases number with
  | ofNat magnitude =>
    have text : (integerText (.ofNat magnitude)).toList = signed false magnitude :=
      String.toList_ofList
    rw [text] at fits ⊢
    exact readInteger_signed fits
  | negSucc less =>
    have text : (integerText (.negSucc less)).toList = signed true (less + 1) :=
      String.toList_ofList
    rw [text] at fits ⊢
    exact readInteger_signed fits

end Number

/-! ### Integers that are kept as texts -/

namespace Formatter

variable {number : Int}

/-- An integer is written in a text field as its digits, whether texts are trimmed there or not. -/
theorem format_string_int (strip : Bool) (number : Int) :
    (string strip).format (.int number) = .ok (.text (integerText number)) :=
  rfl

theorem format_integer_of_written {source : String} {raw : Value}
    (fits : (integerText number).toList.length ≤ longestRun)
    (written : trim source = integerText number) (spelled : raw.Spells source) :
    integer.format raw = .ok (.int number) := by
  obtain ⟨isNumber, noMember, present⟩ := spelled.isPresent
  have read : integerOf (.text (trim source)) = .ok number := by
    rw [written, integerOf, readInteger_integerText fits]
    rfl
  rw [format, present, if_neg Bool.false_ne_true, convert, convertInteger, isNumber,
    if_neg Bool.false_ne_true, noMember, spelled.prepared_eq]
  simp only [bind, Except.bind, read]
  rfl

/-- An integer that is written as a text is read back from it by an integer field, and by whatever
takes a value that is no integer for an undefined one. Any blanks may stand around the text, and it
may be given as its bytes. Only numbers whose text goes beyond the longest run are set aside, where
the minus counts as a digit. -/
theorem integer_reads_written (strip : Bool) (number : Int)
    (fits : (integerText number).toList.length ≤ longestRun) :
    ∃ written, (string strip).format (.int number) = .ok (.text written) ∧
      ∀ before after : String, IsBlankText before → IsBlankText after →
        ∀ raw, raw.Spells (before ++ written ++ after) →
          integer.format raw = .ok (.int number) ∧ integerOrUndefined raw = .ok (.int number) := by
  refine ⟨integerText number, format_string_int strip number, ?_⟩
  intro before after atFront behind raw spelled
  have trimmed : trim (before ++ integerText number ++ after) = integerText number := by
    rw [trim_surrounded atFront behind, trim_integerText]
  have formatted := format_integer_of_written fits trimmed spelled
  refine ⟨formatted, ?_⟩
  rw [integerOrUndefined, formatted]

/-- A negative number is read from the bytes of its text, with a line end behind it. -/
theorem integer_reads_written_bytes :
    (integerText (-120)).toList.length ≤ longestRun ∧
    integer.format (.bytes (encode "\t-120\r\n")) = .ok (.int (-120)) ∧
    integerOrUndefined (.bytes (encode "\t-120\r\n")) = .ok (.int (-120)) := by
  have fits : (integerText (-120)).toList.length ≤ longestRun := by decide +kernel
  obtain ⟨written, formatted, reads⟩ := integer_reads_written true (-120) fits
  have same : written = integerText (-120) :=
    Value.text.inj (Except.ok.inj (formatted.symm.trans (format_string_int true (-120))))
  have text : integerText (-120) = "-120" := by decide +kernel
  rw [same, text] at reads
  have tab : IsBlankText "\t" := by simp [IsBlankText, isBlank]
  have lineEnd : IsBlankText "\r\n" := by simp [IsBlankText, isBlank]
  exact ⟨fits, reads "\t" "\r\n" tab lineEnd (.bytes (encode "\t-120\r\n")) .bytes⟩

end Formatter

end TableGateway
