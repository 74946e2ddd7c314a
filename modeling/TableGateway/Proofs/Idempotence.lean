/-
This file shows that formatting a value twice is formatting it once: where the second
time gives a value at all, it is that of the first. A held value is of the field's own
type, and the formatter of that type leaves it as it is. For trimmed texts that takes two
facts: a trimmed text has no blanks at its ends, and the texts of numbers and dates have
none at all.
-/

import Mathlib.Data.List.DropRight
import TableGateway.Formatter.Conversion
import TableGateway.Proofs.DigitRuns
import TableGateway.Proofs.Run

namespace TableGateway

open Calendar Number Text

/-! ### Trimming -/

namespace Text

theorem trimBy_trimBy (drops : Char → Bool) (characters : List Char) :
    trimBy drops (trimBy drops characters) = trimBy drops characters := by
  let started := characters.dropWhile drops
  have trimmed : trimBy drops characters = started.rdropWhile drops := rfl
  have front : (started.rdropWhile drops).dropWhile drops = started.rdropWhile drops := by
    obtain ⟨tail, whole⟩ := List.rdropWhile_prefix drops started
    cases kept : started.rdropWhile drops with
    | nil => rfl
    | cons first rest =>
      have startedEq : started = first :: (rest ++ tail) := by
        rw [← whole, kept, List.cons_append]
      have visible : drops first = false := by
        have stopped := List.head?_dropWhile_not drops characters
        rw [show characters.dropWhile drops = first :: (rest ++ tail) from startedEq] at stopped
        exact stopped
      rw [List.dropWhile_cons, visible, if_neg Bool.false_ne_true]
  have again : trimBy drops (started.rdropWhile drops) =
      ((started.rdropWhile drops).dropWhile drops).rdropWhile drops := rfl
  rw [trimmed, again, front, List.rdropWhile_idempotent]

theorem trim_trim (text : String) : trim (trim text) = trim text := by
  rw [trim, trim, String.toList_ofList, trimChars, trimChars, trimBy_trimBy]

/-- A text without any blanks. -/
def IsSolid (characters : List Char) : Prop :=
  ∀ character ∈ characters, isBlank character = false

@[simp] theorem isSolid_nil : IsSolid [] :=
  fun _ member => absurd member List.not_mem_nil

@[simp] theorem isSolid_cons (character : Char) (rest : List Char) :
    IsSolid (character :: rest) ↔ isBlank character = false ∧ IsSolid rest :=
  List.forall_mem_cons

@[simp] theorem isSolid_append (first second : List Char) :
    IsSolid (first ++ second) ↔ IsSolid first ∧ IsSolid second :=
  List.forall_mem_append

theorem isSolid_of_all {characters : List Char}
    (visible : (characters.all fun character => !isBlank character) = true) :
    IsSolid characters := by
  intro character member
  simpa using List.all_eq_true.mp visible character member

theorem IsSolid.of_subset {characters others : List Char} (solid : IsSolid others)
    (subset : characters ⊆ others) : IsSolid characters :=
  fun character member => solid character (subset member)

theorem trim_of_isSolid {characters : List Char} (solid : IsSolid characters) :
    trim (String.ofList characters) = String.ofList characters := by
  have nothing {others : List Char} (visible : IsSolid others) :
      others.dropWhile isBlank = others := by
    cases others with
    | nil => rfl
    | cons first rest =>
      rw [List.dropWhile_cons, visible first List.mem_cons_self, if_neg Bool.false_ne_true]
  have backwards : IsSolid characters.reverse :=
    fun character member => solid character (List.mem_reverse.mp member)
  rw [trim, String.toList_ofList, trimChars, trimBy, nothing solid, nothing backwards,
    List.reverse_reverse]

end Text

/-! ### Texts of numbers and dates -/

namespace Number

theorem isBlank_of_isDigit {character : Char} (digit : isDigit character = true) :
    isBlank character = false := by
  simp only [isDigit, Bool.and_eq_true, decide_eq_true_eq] at digit
  obtain ⟨low, high⟩ := digit
  refine Bool.eq_false_iff.mpr fun blank => ?_
  simp only [isBlank, Bool.or_eq_true, Bool.and_eq_true, decide_eq_true_eq, beq_iff_eq] at blank
  omega

theorem isSolid_of_digits {characters : List Char}
    (digital : ∀ character ∈ characters, isDigit character = true) : IsSolid characters :=
  fun character member => isBlank_of_isDigit (digital character member)

@[simp] theorem isSolid_digits (value : Nat) : IsSolid (digits value) :=
  isSolid_of_digits (isDigit_of_mem_digits value)

@[simp] theorem isSolid_zeros (count : Nat) : IsSolid (List.replicate count '0') :=
  isSolid_of_digits (isDigit_of_mem_zeros count)

@[simp] theorem isSolid_padded (width value : Nat) : IsSolid (padded width value) := by
  simp [padded]

/-- The marks between digits are no blanks. -/
@[simp] theorem isBlank_mark :
    ∀ mark ∈ ['+', '-', '.', ':', '0', 'E', 'T', 'e'], isBlank mark = false :=
  isSolid_of_all rfl

theorem trim_integerText (value : Int) : trim (integerText value) = integerText value := by
  cases value with
  | ofNat magnitude => exact trim_of_isSolid (isSolid_digits magnitude)
  | negSucc less => exact trim_of_isSolid (by simp)

theorem Binary64.isSolid_layout {run : List Char} (solid : IsSolid run) (exponent : Int) :
    IsSolid (layout run exponent) := by
  unfold layout
  split
  · split
    · simpa using solid
    · have whole : IsSolid (run.take (exponent.toNat + 1)) :=
        solid.of_subset (List.take_subset _ _)
      have fraction : IsSolid (run.drop (exponent.toNat + 1)) :=
        solid.of_subset (List.drop_subset _ _)
      simp only [isSolid_append, isSolid_cons]
      refine ⟨⟨whole, isSolid_zeros _⟩, rfl, ?_⟩
      split
      · simp
      · exact fraction
  · cases run with
    | nil => exact isSolid_nil
    | cons first rest =>
      obtain ⟨visible, solidRest⟩ := (isSolid_cons first rest).mp solid
      simp only [exponentText, isSolid_append, isSolid_cons]
      refine ⟨⟨visible, ?_⟩, rfl, ?_, isSolid_padded _ _⟩
      · split
        · exact isSolid_nil
        · simpa using solidRest
      · split <;> rfl

theorem Binary64.trim_text (number : Binary64) : trim number.text = number.text := by
  cases number with
  | nan => rfl
  | infinity negative => cases negative <;> rfl
  | finite negative significand exponent =>
    have solid : IsSolid (magnitudeText significand exponent) := by
      rw [magnitudeText]
      split
      · simp
      · exact isSolid_layout ((isSolid_digits _).of_subset (List.take_subset _ _)) _
    refine trim_of_isSolid ?_
    cases negative <;> simpa using solid

theorem Decimal.isSolid_finiteText {coefficient : List Char} (solid : IsSolid coefficient)
    (exponent : Int) : IsSolid (finiteText coefficient exponent) := by
  unfold finiteText
  extract_lets left point written
  have solidWritten : IsSolid written := by
    unfold written
    split
    · simpa using solid
    · split
      · simpa using solid
      · have whole : IsSolid (coefficient.take point.toNat) :=
          solid.of_subset (List.take_subset _ _)
        have fraction : IsSolid (coefficient.drop point.toNat) :=
          solid.of_subset (List.drop_subset _ _)
        simp [whole, fraction]
  split
  · exact solidWritten
  · simp only [isSolid_append, isSolid_cons]
    refine ⟨solidWritten, rfl, ?_, isSolid_digits _⟩
    split <;> rfl

theorem Decimal.trim_text (number : Decimal) : trim number.text = number.text := by
  have run (some : DigitRun) : IsSolid some.characters := isSolid_of_digits some.digital
  cases number with
  | finite negative coefficient exponent =>
    have solid := isSolid_finiteText (run coefficient) exponent
    refine trim_of_isSolid ?_
    cases negative <;> simpa using solid
  | infinity negative => cases negative <;> rfl
  | nan negative signaling payload =>
    have name : IsSolid (if signaling then "sNaN" else "NaN").toList := by
      cases signaling <;> exact isSolid_of_all (by decide)
    have whole : IsSolid ((if negative then ['-'] else []) ++
        (if signaling then "sNaN" else "NaN").toList ++ payload.characters) := by
      cases negative <;> simp [name, run payload]
    have trimmed := trim_of_isSolid whole
    rw [String.ofList_append, String.ofList_append, String.ofList_toList] at trimmed
    exact trimmed

end Number

namespace Calendar

@[simp] theorem isSolid_date (date : Date) : IsSolid date.isoChars := by
  simp [Date.isoChars]

@[simp] theorem isSolid_time (time : TimeOfDay) : IsSolid time.isoChars := by
  unfold TimeOfDay.isoChars
  split <;> simp

@[simp] theorem isSolid_zone (zone : Option Zone) : IsSolid (zoneChars zone) := by
  cases zone with
  | none => exact isSolid_nil
  | some zone =>
    show IsSolid zone.isoChars
    unfold Zone.isoChars
    extract_lets size seconds fraction
    simp only [isSolid_append, isSolid_cons, isSolid_padded, and_true]
    refine ⟨⟨⟨?_, rfl⟩, ?_⟩, ?_⟩
    · split <;> rfl
    · split <;> simp
    · split <;> simp

theorem Date.trim_isoText (date : Date) : trim date.isoText = date.isoText :=
  trim_of_isSolid (isSolid_date date)

theorem DateTime.trim_isoText (moment : DateTime) : trim moment.isoText = moment.isoText :=
  trim_of_isSolid (by simp [isoChars])

end Calendar

/-! ### Formatting twice -/

namespace Formatter

/-- The texts of values that are no texts have no blanks at their ends. -/
theorem trim_textOf {value : Value} {characters : String}
    (written : textOf value = .ok characters) : trim characters = characters := by
  cases value with
  | bool truth =>
    cases written
    cases truth <;> rfl
  | int number =>
    cases written
    exact trim_integerText number
  | float number =>
    rw [textOf] at written
    split at written
    · cases written
    · cases written
      exact number.trim_text
  | decimal number =>
    rw [textOf] at written
    split at written
    · cases written
    · cases written
      exact number.trim_text
  | datetime moment =>
    cases written
    exact moment.trim_isoText
  | date day =>
    cases written
    exact day.trim_isoText
  | _ => cases written

/-- Decoding makes a text, or leaves the value as it is. -/
theorem decoded_cases {raw value : Value} (taken : decoded raw = .ok value) :
    (∃ source, value = .text source) ∨ value = raw := by
  have isText {known : Option String}
      (found : known.elim (Except.error Failure.undecodable) (Except.ok ∘ Value.text) = .ok value) :
      ∃ source, value = .text source := by
    cases known with
    | none => cases found
    | some characters => exact ⟨characters, (Except.ok.inj found).symm⟩
  cases raw with
  | bytes octets => exact .inl (isText taken)
  | byteArray octets => exact .inl (isText taken)
  | _ => exact .inr (Except.ok.inj taken).symm

/-- Decoding leaves no bytes to decode. -/
theorem decoded_decoded {raw value : Value} (once : decoded raw = .ok value) :
    decoded value = .ok value := by
  rcases decoded_cases once with ⟨source, rfl⟩ | rfl
  · rfl
  · exact once

/-- The name of a kind or of an operator is no integer. -/
theorem convertInteger_memberName {raw : Value} {name : String}
    (named : raw.memberName? = some name) :
    ∃ fault, convertInteger (.text name) = .error (.invalid fault) := by
  cases raw with
  | kind chosen =>
    cases named
    cases chosen <;> exact ⟨_, rfl⟩
  | operator chosen =>
    cases named
    cases chosen <;> exact ⟨_, rfl⟩
  | _ => cases named

/-- An integer field holds an integer, or the name that a member of a closed set gives. -/
theorem convertInteger_eq_ok {raw held : Value} (converted : convertInteger raw = .ok held) :
    (∃ number, held = .int number) ∨ ∃ name, raw.memberName? = some name ∧ held = .text name := by
  rw [convertInteger] at converted
  split at converted
  · cases converted
  · split at converted
    · rename_i name named
      cases converted
      exact .inr ⟨name, named, rfl⟩
    · obtain ⟨value, _, read⟩ := ok_of_bind converted
      split at read
      · rename_i number _
        cases read
        exact .inl ⟨number, rfl⟩
      · cases read

/-- A floating-point field holds a number. -/
theorem convertFloat_eq_ok {raw held : Value} (converted : convertFloat raw = .ok held) :
    ∃ number : Binary64, held = .float number ∧ number.isNaN = false := by
  obtain ⟨value, _, read⟩ := ok_of_bind converted
  split at read
  · rename_i number _
    split at read
    · cases read
    · rename_i isNumber
      cases read
      exact ⟨number, rfl, Bool.eq_false_iff.mpr isNumber⟩
  · cases read

/-- A text field holds a text, trimmed if it is to be. -/
theorem convertText_eq_ok {strip : Bool} {raw held : Value}
    (converted : convertText strip raw = .ok held) :
    ∃ characters, held = .text characters ∧ (strip = true → trim characters = characters) := by
  obtain ⟨value, _, read⟩ := ok_of_bind converted
  split at read
  · rename_i characters
    cases read
    refine ⟨_, rfl, fun strips => ?_⟩
    rw [strips, if_pos rfl, trim_trim]
  · split at read
    · rename_i characters written
      cases read
      exact ⟨characters, rfl, fun _ => trim_textOf written⟩
    · cases read

theorem convertDateTime_eq_ok {raw held : Value} (converted : convertDateTime raw = .ok held) :
    ∃ moment, held = .datetime moment := by
  unfold convertDateTime at converted
  split at converted
  · exact ⟨_, (Except.ok.inj converted).symm⟩
  · exact ⟨_, (Except.ok.inj converted).symm⟩
  · cases converted
  · split at converted
    · cases converted
    · obtain ⟨value, _, read⟩ := ok_of_bind converted
      split at read
      · exact ⟨_, (Except.ok.inj read).symm⟩
      · cases read

/-- A JSON field holds a value that has a JSON text. -/
theorem convertJson_eq_ok {raw held : Value} (converted : convertJson raw = .ok held) :
    decoded raw = .ok held ∧ ∃ text, Json.write held = .ok text := by
  obtain ⟨value, taken, read⟩ := ok_of_bind converted
  split at read
  · rename_i text written
    cases read
    exact ⟨taken, text, written⟩
  · cases read

theorem convertJson_of_written {raw value : Value} {text : List Char}
    (taken : decoded raw = .ok value) (written : Json.write value = .ok text) :
    convertJson raw = .ok value := by
  rw [convertJson, taken]
  simp only [Bind.bind, Except.bind, written]
  rfl

/-- What a formatter has converted, it converts to itself; but an integer field that was given a
member of a closed set holds its name, and refuses that. -/
theorem convert_held {formatter : Formatter} {raw held : Value}
    (once : formatter.convert raw = .ok held) :
    formatter.convert held = .ok held ∨ formatter = .integer ∧
      (∃ name, raw.memberName? = some name ∧ held = .text name) ∧
        ∃ failure, formatter.convert held = .error failure := by
  cases formatter with
  | integer =>
    rcases convertInteger_eq_ok once with ⟨number, rfl⟩ | ⟨name, named, rfl⟩
    · exact .inl rfl
    · obtain ⟨fault, refused⟩ := convertInteger_memberName named
      exact .inr ⟨rfl, ⟨name, named, rfl⟩, _, refused⟩
  | float =>
    obtain ⟨number, rfl, isNumber⟩ := convertFloat_eq_ok once
    left
    show (if number.isNaN = true then _ else _) = _
    rw [isNumber]
    rfl
  | boolean =>
    cases once
    left
    cases truthOf raw <;> rfl
  | string strip =>
    obtain ⟨characters, rfl, trimmed⟩ := convertText_eq_ok once
    left
    cases strip with
    | true => exact congrArg (Except.ok ∘ Value.text) (trimmed rfl)
    | false => rfl
  | datetime =>
    obtain ⟨moment, rfl⟩ := convertDateTime_eq_ok once
    exact .inl rfl
  | json =>
    obtain ⟨taken, text, written⟩ := convertJson_eq_ok once
    left
    exact convertJson_of_written (decoded_decoded taken) written
  | asIs => exact .inl rfl

/-- A held value is formatted as it stands; but an integer field that was given a member of a closed
set holds its name, and refuses that. -/
theorem format_held {formatter : Formatter} {raw held : Value}
    (once : formatter.format raw = .ok held) :
    formatter.format held = .ok held ∨ formatter = .integer ∧
      (∃ name, raw.memberName? = some name ∧ held = .text name) ∧
        ∃ failure, formatter.format held = .error failure := by
  by_cases absent : (held.isNull || held.isUndefined) = true
  · exact .inl (if_pos absent)
  · rw [format] at once
    split at once
    · cases once
      contradiction
    · rw [format, if_neg absent]
      exact convert_held once

/-- Formatting a value twice is formatting it once. -/
theorem format_format {formatter : Formatter} {raw held again : Value}
    (once : formatter.format raw = .ok held) (twice : formatter.format held = .ok again) :
    again = held := by
  rcases format_held once with kept | ⟨-, -, failure, refused⟩
  · exact (Except.ok.inj (kept.symm.trans twice)).symm
  · cases refused.symm.trans twice

end Formatter

end TableGateway
