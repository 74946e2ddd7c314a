/-
This file says what formatters make of the three spellings of a text: the text itself, the
bytes that encode it, and a byte array of them. Whatever decodes what it reads comes to the
same with each of them, to one value or to a refusal, which may show the spelling. A
formatter of truth values decodes bytes, but no byte arrays: it takes a byte array for a
collection, which is true unless it is empty, and so for true where it spells a word for
false.
-/

import TableGateway.Proofs.Undecodable

namespace TableGateway

open Text

/-! ### Spellings -/

/-- The values that spell a text. -/
inductive Value.Spells (source : String) : Value → Prop where
  | text : Spells source (.text source)
  | bytes : Spells source (.bytes (encode source))
  | byteArray : Spells source (.byteArray (encode source))

/-- Two readings agree: they give one value, or both refuse. Beyond a limit of the reader they may
fail otherwise, and then alike. -/
inductive Agree (beyond : Prop) : Except Failure Value → Except Failure Value → Prop where
  | values (held : Value) : Agree beyond (.ok held) (.ok held)
  | refusals (first second : Fault) :
    Agree beyond (.error (.invalid first)) (.error (.invalid second))
  | limits (exceeds : beyond) (failure : Failure) : Agree beyond (.error failure) (.error failure)

theorem agree_of_eq {beyond : Prop} {first second : Except Failure Value} (same : first = second)
    (within : beyond ∨ OnlyRefuses second) : Agree beyond first second := by
  rw [same]
  rcases within with exceeds | only
  · cases second with
    | ok held => exact .values held
    | error failure => exact .limits exceeds failure
  · cases only with
    | passes held => exact .values held
    | refuses fault => exact .refusals fault fault

theorem Agree.mono {beyond other : Prop} {first second : Except Failure Value}
    (agree : Agree beyond first second) (allowed : beyond → other) : Agree other first second := by
  cases agree with
  | values held => exact .values held
  | refusals fault other => exact .refusals fault other
  | limits exceeds failure => exact .limits (allowed exceeds) failure

namespace Value.Spells

variable {source : String} {raw : Value}

theorem decoded_eq (spelled : raw.Spells source) : decoded raw = .ok (.text source) := by
  cases spelled with
  | text => rfl
  | bytes => simp [decoded, decode?_encode]
  | byteArray => simp [decoded, decode?_encode]

theorem prepared_eq (spelled : raw.Spells source) : prepared raw = .ok (.text (trim source)) := by
  rw [prepared, spelled.decoded_eq]
  rfl

/-- A spelling is nothing that formatters settle before they decode. -/
theorem isPresent (spelled : raw.Spells source) :
    raw.isNaN = false ∧ raw.memberName? = none ∧ (raw.isNull || raw.isUndefined) = false := by
  cases spelled <;> exact ⟨rfl, rfl, rfl⟩

theorem convertInteger_eq (spelled : raw.Spells source) :
    Formatter.convertInteger raw = Formatter.convertInteger (.text source) := by
  obtain ⟨isNumber, noMember, -⟩ := spelled.isPresent
  have same : prepared raw = prepared (.text source) := by
    rw [spelled.prepared_eq, text.prepared_eq]
  rw [Formatter.convertInteger, Formatter.convertInteger, isNumber, noMember, same]
  rfl

/-- Only the refusal of a not-a-number shows what was given. -/
theorem agree_convertFloat (spelled : raw.Spells source) :
    Agree False (Formatter.convertFloat raw) (Formatter.convertFloat (.text source)) := by
  simp only [Formatter.convertFloat, spelled.prepared_eq, text.prepared_eq, bind, Except.bind]
  cases floatOf (.text (trim source)) with
  | error reason => exact .refusals _ _
  | ok number =>
    dsimp only
    split
    · exact .refusals _ _
    · exact .values _

theorem convertText_eq (spelled : raw.Spells source) (strip : Bool) :
    Formatter.convertText strip raw = Formatter.convertText strip (.text source) := by
  rw [Formatter.convertText, Formatter.convertText, spelled.decoded_eq, text.decoded_eq]

theorem convertDateTime_eq (spelled : raw.Spells source) :
    Formatter.convertDateTime raw = Formatter.convertDateTime (.text source) := by
  have same : prepared raw = prepared (.text source) := by
    rw [spelled.prepared_eq, text.prepared_eq]
  cases spelled with
  | text => rfl
  | _ => simp only [Formatter.convertDateTime, isNaN, Bool.false_eq_true, if_false, same]

theorem convertJson_eq (spelled : raw.Spells source) :
    Formatter.convertJson raw = Formatter.convertJson (.text source) := by
  rw [Formatter.convertJson, Formatter.convertJson, spelled.decoded_eq, text.decoded_eq]

theorem jsonValue_eq (spelled : raw.Spells source) :
    jsonValue raw = jsonValue (.text source) := by
  rw [jsonValue, jsonValue, spelled.decoded_eq, text.decoded_eq]

end Value.Spells

/-! ### Truth -/

theorem truthOf_bytes (source : String) :
    truthOf (.bytes (encode source)) = truthOfText source := by
  rw [truthOf, decodeLenient_encode]

/-- A byte array counts as true unless it is empty. -/
theorem truthOf_byteArray (source : String) :
    truthOf (.byteArray (encode source)) = decide (source ≠ "") := by
  have empty : (encode source).size = 0 ↔ source = "" := by simp [encode]
  show ((encode source).size != 0) = _
  rw [bne, beq_eq_decide, decide_eq_decide.mpr empty, ← decide_not]

/-- A formatter of truth values takes a byte array for true that spells a word for false. -/
def Formatter.Misjudges (formatter : Formatter) (source : String) (raw : Value) : Prop :=
  formatter = .boolean ∧ raw = .byteArray (encode source) ∧ source ≠ "" ∧
    truthOfText source = false

/-- A spelling is as true as its text, unless it is misjudged. -/
theorem Value.Spells.truthOf_eq {source : String} {raw : Value} (spelled : raw.Spells source)
    (judges : ¬Formatter.boolean.Misjudges source raw) : truthOf raw = truthOfText source := by
  cases spelled with
  | text => rfl
  | bytes => exact truthOf_bytes source
  | byteArray =>
    rw [truthOf_byteArray]
    by_cases empty : source = ""
    · have noWord : truthOfText "" = false := by decide +kernel
      rw [empty, noWord]
      rfl
    · have isTrue : truthOfText source = true := by
        by_contra isFalse
        exact judges ⟨rfl, rfl, empty, Bool.eq_false_iff.mpr isFalse⟩
      rw [isTrue, decide_eq_true empty]

/-! ### Formatters -/

namespace Formatter

variable {formatter : Formatter} {source : String} {raw : Value}

/-- A text is converted or refused: there is nothing in it to decode. -/
theorem onlyRefuses_convert_text (formatter : Formatter) (source : String) :
    OnlyRefuses (formatter.convert (.text source)) := by
  have outcome := formatter.refusesUnless_convert (.text source)
  generalize formatter.convert (.text source) = converted at outcome ⊢
  cases outcome with
  | readable clear only => exact only
  | unreadable balks => exact balks.isGarbled.elim

theorem agree_convert (decodes : formatter ≠ .asIs) (spelled : raw.Spells source)
    (judges : ¬formatter.Misjudges source raw) :
    Agree False (formatter.convert raw) (formatter.convert (.text source)) := by
  have only := onlyRefuses_convert_text formatter source
  cases formatter with
  | integer => exact agree_of_eq spelled.convertInteger_eq (.inr only)
  | float => exact spelled.agree_convertFloat
  | boolean =>
    rw [convert, spelled.truthOf_eq judges]
    exact .values _
  | string strip => exact agree_of_eq (spelled.convertText_eq strip) (.inr only)
  | datetime => exact agree_of_eq spelled.convertDateTime_eq (.inr only)
  | json => exact agree_of_eq spelled.convertJson_eq (.inr only)
  | asIs => exact absurd rfl decodes

theorem agree_format (decodes : formatter ≠ .asIs) (spelled : raw.Spells source)
    (judges : ¬formatter.Misjudges source raw) :
    Agree False (formatter.format raw) (formatter.format (.text source)) := by
  have ofText : formatter.format (.text source) = formatter.convert (.text source) := rfl
  rw [format, spelled.isPresent.2.2, if_neg Bool.false_ne_true, ofText]
  exact agree_convert decodes spelled judges

theorem agree_jsonValue (spelled : raw.Spells source) :
    Agree (Value.text source).ExceedsReader (jsonValue raw) (jsonValue (.text source)) := by
  refine agree_of_eq spelled.jsonValue_eq ?_
  by_cases exceeds : (Value.text source).ExceedsReader
  · exact .inl exceeds
  · have outcome := refusesUnless_jsonValue exceeds
    generalize jsonValue (.text source) = read at outcome ⊢
    cases outcome with
    | readable clear only => exact .inr only
    | unreadable garbled => exact garbled.elim

/-- Only JSON is read in a way of its own out of a row. -/
theorem load_eq_format (other : formatter ≠ .json) (raw : Value) :
    formatter.load raw = formatter.format raw := by
  cases formatter with
  | json => exact absurd rfl other
  | _ => rfl

theorem agree_load (decodes : formatter ≠ .asIs) (spelled : raw.Spells source)
    (judges : ¬formatter.Misjudges source raw) :
    Agree (formatter = .json ∧ (Value.text source).ExceedsReader) (formatter.load raw)
      (formatter.load (.text source)) := by
  by_cases json : formatter = .json
  · subst json
    have ofText : Formatter.json.load (.text source) = jsonValue (.text source) := rfl
    rw [load, spelled.isPresent.2.2, if_neg Bool.false_ne_true, ofText]
    exact (agree_jsonValue spelled).mono fun exceeds => ⟨rfl, exceeds⟩
  · rw [load_eq_format json, load_eq_format json]
    exact (agree_format decodes spelled judges).mono False.elim

/-- A text is read alike in each of its spellings, by every formatter that reads at all. Excepted is
a formatter of truth values that gets the byte array of a word for false, which it takes for true;
and a JSON text beyond the limits of the reader fails alike. -/
theorem reads_spellings (decodes : formatter ≠ .asIs) (spelled : raw.Spells source) :
    ¬formatter.Misjudges source raw ∧
        Agree False (formatter.format raw) (formatter.format (.text source)) ∧
        Agree (formatter = .json ∧ (Value.text source).ExceedsReader) (formatter.load raw)
          (formatter.load (.text source)) ∨
      formatter.Misjudges source raw ∧
        (formatter.format raw = .ok (.bool true) ∧
          formatter.format (.text source) = .ok (.bool false)) ∧
        (formatter.load raw = .ok (.bool true) ∧
          formatter.load (.text source) = .ok (.bool false)) := by
  by_cases judges : formatter.Misjudges source raw
  · obtain ⟨rfl, rfl, some, noWord⟩ := judges
    have taken : truthOf (.byteArray (encode source)) = true := by
      rw [truthOf_byteArray, decide_eq_true some]
    have ofArray : boolean.format (.byteArray (encode source)) = .ok (.bool true) := by
      rw [← taken]
      rfl
    have ofText : boolean.format (.text source) = .ok (.bool false) := by
      rw [← noWord]
      rfl
    rw [load_eq_format (by simp), load_eq_format (by simp)]
    exact .inr ⟨⟨rfl, rfl, some, noWord⟩, ⟨ofArray, ofText⟩, ofArray, ofText⟩
  · exact .inl ⟨judges, agree_format decodes spelled judges, agree_load decodes spelled judges⟩

/-- Bytes are read as the number they spell, and a byte array that spells false is taken for
true. -/
theorem reads_spellings_false :
    Agree False (integer.format (.bytes (encode " 12 "))) (integer.format (.text " 12 ")) ∧
    boolean.format (.byteArray (encode "false")) = .ok (.bool true) ∧
    boolean.format (.text "false") = .ok (.bool false) := by
  have noWord : truthOfText "false" = false := by decide +kernel
  have misjudged : boolean.Misjudges "false" (.byteArray (encode "false")) :=
    ⟨rfl, rfl, by decide, noWord⟩
  have number : Value.Spells " 12 " (.bytes (encode " 12 ")) := .bytes
  have array : Value.Spells "false" (.byteArray (encode "false")) := .byteArray
  have decodes : integer ≠ .asIs ∧ boolean ≠ .asIs := by simp
  refine ⟨?_, ?_⟩
  · rcases reads_spellings decodes.1 number with
      ⟨-, agree, -⟩ | ⟨⟨other, -⟩, -⟩
    · exact agree
    · cases other
  · rcases reads_spellings decodes.2 array with
      ⟨judges, -⟩ | ⟨-, formatted, -⟩
    · exact absurd misjudged judges
    · exact formatted

end Formatter

end TableGateway
