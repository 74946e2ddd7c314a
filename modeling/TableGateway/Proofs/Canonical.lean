/-
This file shows that each formatter is a projection: what it gives for a value that is not
absent is canonical, which is to say of the formatter's own type, and the canonical values
are those that it leaves as they are. The one value that gets past an integer formatter
untyped is a member of a closed set of names, which its reader takes for the name.
-/

import TableGateway.Proofs.RoundTrip

namespace TableGateway

open Calendar Number Text

/-! ### Trimmed texts -/

namespace Text

/-- A text that neither starts nor ends with a blank. -/
structure IsTrimmed (text : String) : Prop where
  first : ∀ character ∈ text.toList.head?, isBlank character = false
  last : ∀ character ∈ text.toList.getLast?, isBlank character = false

theorem dropWhile_eq_self_iff_head? (drops : Char → Bool) (characters : List Char) :
    characters.dropWhile drops = characters ↔
      ∀ character ∈ characters.head?, drops character = false := by
  cases characters with
  | nil => simp
  | cons first rest => simp [List.dropWhile_eq_self_iff]

theorem rdropWhile_eq_self_iff_getLast? (drops : Char → Bool) (characters : List Char) :
    characters.rdropWhile drops = characters ↔
      ∀ character ∈ characters.getLast?, drops character = false := by
  rw [List.rdropWhile, List.reverse_eq_iff, dropWhile_eq_self_iff_head?, List.head?_reverse]

/-- Dropping at both ends leaves a run as it is if dropping at either end does: the run is no
shorter than what is left once its first characters are dropped. -/
theorem trimBy_eq_self_iff (drops : Char → Bool) (characters : List Char) :
    trimBy drops characters = characters ↔
      characters.dropWhile drops = characters ∧ characters.rdropWhile drops = characters := by
  have trimmed : trimBy drops characters = (characters.dropWhile drops).rdropWhile drops := rfl
  rw [trimmed]
  constructor
  · intro kept
    have started : characters.dropWhile drops = characters := by
      refine (List.dropWhile_suffix drops).eq_of_length_le ?_
      calc characters.length
          = ((characters.dropWhile drops).rdropWhile drops).length := by rw [kept]
        _ ≤ (characters.dropWhile drops).length := (List.rdropWhile_prefix drops _).length_le
    rw [started] at kept
    exact ⟨started, kept⟩
  · rintro ⟨started, ended⟩
    rw [started, ended]

/-- A text is trimmed when trimming leaves it as it is. -/
theorem trim_eq_self_iff (text : String) : trim text = text ↔ IsTrimmed text := by
  have listed : trim text = text ↔ trimBy isBlank text.toList = text.toList := by
    rw [← String.toList_inj, trim, String.toList_ofList, trimChars]
  rw [listed, trimBy_eq_self_iff, dropWhile_eq_self_iff_head?, rdropWhile_eq_self_iff_getLast?]
  exact ⟨fun both => ⟨both.1, both.2⟩, fun trimmed => ⟨trimmed.first, trimmed.last⟩⟩

end Text

/-! ### Canonical values -/

theorem jsonText_eq_ok_iff {value : Value} :
    (∃ text, jsonText value = .ok text) ↔ ∃ characters, Json.write value = .ok characters := by
  rw [jsonText]
  cases Json.write value with
  | ok characters => exact ⟨fun _ => ⟨_, rfl⟩, fun _ => ⟨_, rfl⟩⟩
  | error fault => simp

namespace Formatter

/-- The values of a formatter's own type. -/
def IsCanonical : Formatter → Value → Prop
  | .integer, value => ∃ number, value = .int number
  | .float, value => ∃ number : Binary64, value = .float number ∧ number.isNaN = false
  | .boolean, value => ∃ truth, value = .bool truth
  | .string strip, value =>
    ∃ characters, value = .text characters ∧ (strip = true → IsTrimmed characters)
  | .datetime, value => ∃ moment, value = .datetime moment
  | .json, value => ∃ text, jsonText value = .ok text
  | .asIs, _ => True

/-- What a formatter makes of a value that is not absent is canonical. -/
theorem isCanonical_convert {formatter : Formatter} {raw held : Value}
    (typed : formatter = .integer → raw.memberName? = none)
    (converted : formatter.convert raw = .ok held) : formatter.IsCanonical held := by
  cases formatter with
  | integer =>
    rcases convertInteger_eq_ok converted with number | ⟨name, named, -⟩
    · exact number
    · cases (typed rfl).symm.trans named
  | float => exact convertFloat_eq_ok converted
  | boolean => exact ⟨_, (Except.ok.inj converted).symm⟩
  | string strip =>
    obtain ⟨characters, rfl, trimmed⟩ := convertText_eq_ok converted
    exact ⟨characters, rfl, fun strips => (trim_eq_self_iff characters).mp (trimmed strips)⟩
  | datetime => exact convertDateTime_eq_ok converted
  | json => exact jsonText_eq_ok_iff.mpr (convertJson_eq_ok converted).2
  | asIs => trivial

/-- Values with a JSON text are no bytes. -/
theorem decoded_of_written {value : Value} {characters : List Char}
    (written : Json.write value = .ok characters) : decoded value = .ok value := by
  cases value with
  | bytes octets => cases written
  | byteArray octets => cases written
  | _ => rfl

/-- A formatter leaves its canonical values as they are. -/
theorem format_of_isCanonical {formatter : Formatter} {value : Value}
    (canonical : formatter.IsCanonical value) : formatter.format value = .ok value := by
  cases formatter with
  | integer =>
    obtain ⟨number, rfl⟩ := canonical
    rfl
  | float =>
    obtain ⟨number, rfl, isNumber⟩ := canonical
    show (if number.isNaN = true then _ else _) = _
    rw [isNumber]
    rfl
  | boolean =>
    obtain ⟨truth, rfl⟩ := canonical
    cases truth <;> rfl
  | string strip =>
    obtain ⟨characters, rfl, trimmed⟩ := canonical
    cases strip with
    | true =>
      have kept : trim characters = characters := (trim_eq_self_iff characters).mpr (trimmed rfl)
      exact congrArg (Except.ok ∘ Value.text) kept
    | false => rfl
  | datetime =>
    obtain ⟨moment, rfl⟩ := canonical
    rfl
  | json =>
    obtain ⟨characters, written⟩ := jsonText_eq_ok_iff.mp canonical
    rw [format]
    split
    · rfl
    · exact convertJson_of_written (decoded_of_written written) written
  | asIs => exact ite_self _

/-- Formatters are projections onto their canonical values. The absences pass unchanged; whatever a
formatter gives for another value is canonical, and is given back when it is formatted again; and
every canonical value is given for itself. The reader of integers is taken to give integers only, so
that the members of closed sets, for which it gives the name, are set aside. -/
theorem format_projects (formatter : Formatter) (raw : Value) :
    (raw = .null ∨ raw = .undefined → formatter.format raw = .ok raw) ∧
    (raw ≠ .null → raw ≠ .undefined → (formatter = .integer → raw.memberName? = none) →
      ∀ held, formatter.format raw = .ok held →
        formatter.IsCanonical held ∧ formatter.format held = .ok held) ∧
    (formatter.IsCanonical raw → formatter.format raw = .ok raw) := by
  refine ⟨?_, ?_, format_of_isCanonical⟩
  · rintro (rfl | rfl) <;> rfl
  · intro isValue isGiven typed held formatted
    have present : ¬ (raw.isNull || raw.isUndefined) = true := by
      intro absent
      rcases Value.eq_null_or_eq_undefined absent with rfl | rfl
      · exact isValue rfl
      · exact isGiven rfl
    rw [format, if_neg present] at formatted
    have canonical := isCanonical_convert typed formatted
    exact ⟨canonical, format_of_isCanonical canonical⟩

/-- A trimming formatter takes the blanks off once, and an integer formatter reads a number that it
then leaves as it is. -/
theorem format_projects_padded :
    (Formatter.string true).IsCanonical (.text "ada") ∧
    (Formatter.string true).format (.text "ada") = .ok (.text "ada") ∧
    Formatter.integer.IsCanonical (.int 12) ∧
    Formatter.integer.format (.int 12) = .ok (.int 12) := by
  have trims : (Formatter.string true).format (.text " ada\n") = .ok (.text "ada") := rfl
  have reads : Formatter.integer.format (.text " 12 ") = .ok (.int 12) := rfl
  obtain ⟨text, textKept⟩ := (format_projects (.string true) (.text " ada\n")).2.1
    (by nofun) (by nofun) (by nofun) (.text "ada") trims
  obtain ⟨number, numberKept⟩ := (format_projects .integer (.text " 12 ")).2.1
    (by nofun) (by nofun) (fun _ => rfl) (.int 12) reads
  exact ⟨text, textKept, number, numberKept⟩

end Formatter

end TableGateway
