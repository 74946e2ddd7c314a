/-
This file says how formatting and loading fail. A formatter refuses what it cannot
convert, with one exception: bytes that are no text in UTF-8 come out of every formatter
that decodes them as a failure of decoding, which is no refusal, and so out of reading an
integer or undefined and out of a projection. Nothing else does, but for JSON texts beyond
the limits of their reader.
-/

import TableGateway.Proofs.Refusal
import TableGateway.Proofs.StrictForm

namespace TableGateway

open Text

/-! ### Bytes that are no text -/

/-- Bytes that encode no text. -/
def Value.IsGarbled : Value → Prop
  | .bytes octets => decode? octets = none
  | .byteArray octets => decode? octets = none
  | _ => False

/-- A value that a formatter tries to decode in vain. Truth is read out of bytes leniently, and
values that are held as they are are not read at all. -/
def Formatter.Balks : Formatter → Value → Prop
  | .boolean, _ => False
  | .asIs, _ => False
  | _, raw => raw.IsGarbled

/-- A JSON text that holds more digits in a row or nests more deeply than its reader takes. -/
def Value.ExceedsReader (raw : Value) : Prop :=
  ∃ source fault place, decoded raw = .ok (.text source) ∧
    Json.read source = .error (fault, place) ∧ (fault = .tooManyDigits ∨ fault = .tooDeep)

/-- What passes or refuses, unless it is given garbled bytes: then it fails to decode them. -/
inductive RefusesUnless {Result : Type} (garbled : Prop) : Except Failure Result → Prop where
  | readable {checked : Except Failure Result} (clear : ¬garbled) (only : OnlyRefuses checked) :
    RefusesUnless garbled checked
  | unreadable (unclear : garbled) : RefusesUnless garbled (.error .undecodable)

namespace RefusesUnless

variable {Result Next : Type} {garbled : Prop} {checked : Except Failure Result}

theorem eq_undecodable (first : RefusesUnless garbled checked) (unclear : garbled) :
    checked = .error .undecodable := by
  cases first with
  | readable clear only => exact absurd unclear clear
  | unreadable _ => rfl

theorem congr {other : Prop} (first : RefusesUnless garbled checked) (same : garbled ↔ other) :
    RefusesUnless other checked := by
  cases first with
  | readable clear only => exact .readable (fun unclear => clear (same.mpr unclear)) only
  | unreadable unclear => exact .unreadable (same.mp unclear)

/-- Where something goes on with what it has made, garbled bytes may also come up later. -/
theorem followed (first : RefusesUnless garbled checked) {later : Result → Prop}
    {next : Result → Except Failure Next}
    (rest : ∀ result, checked = .ok result → RefusesUnless (later result) (next result)) :
    RefusesUnless (garbled ∨ ∃ result, checked = .ok result ∧ later result) (checked >>= next) := by
  cases first with
  | unreadable unclear => exact .unreadable (.inl unclear)
  | readable clear only =>
    cases only with
    | refuses fault =>
      refine .readable ?_ (.refuses fault)
      rintro (unclear | ⟨result, made, -⟩)
      · exact clear unclear
      · cases made
    | passes result =>
      refine (rest result rfl).congr ?_
      constructor
      · exact fun unclear => .inr ⟨result, rfl, unclear⟩
      · rintro (unclear | ⟨other, made, unclear⟩)
        · exact absurd unclear clear
        · cases made
          exact unclear

/-- What is made of a decoded value may be refused, but has nothing left to decode. -/
theorem bind (first : RefusesUnless garbled checked) {next : Result → Except Failure Next}
    (rest : ∀ result, checked = .ok result → OnlyRefuses (next result)) :
    RefusesUnless garbled (checked >>= next) :=
  (first.followed fun result made => .readable id (rest result made)).congr (by simp)

end RefusesUnless

/-! ### Formatters -/

theorem refusesUnless_decoded (raw : Value) : RefusesUnless raw.IsGarbled (decoded raw) := by
  have ofOctets (octets : ByteArray) : RefusesUnless (decode? octets = none)
      ((decode? octets).elim (.error .undecodable) (.ok ∘ Value.text)) := by
    cases decode? octets with
    | none => exact .unreadable rfl
    | some characters => exact .readable (Option.some_ne_none characters) (.passes _)
  cases raw with
  | bytes octets => exact ofOctets octets
  | byteArray octets => exact ofOctets octets
  | _ => exact .readable id (.passes _)

theorem refusesUnless_prepared (raw : Value) : RefusesUnless raw.IsGarbled (prepared raw) := by
  refine (refusesUnless_decoded raw).bind fun value _ => ?_
  split <;> exact .passes _

/-- Garbled bytes are nothing that formatters settle before they decode: no not-a-number, no member
of a closed set and no absence. -/
theorem Value.IsGarbled.isPresent {raw : Value} (garbled : raw.IsGarbled) :
    raw.isNaN = false ∧ raw.memberName? = none ∧ (raw.isNull || raw.isUndefined) = false := by
  cases raw with
  | bytes octets => exact ⟨rfl, rfl, rfl⟩
  | byteArray octets => exact ⟨rfl, rfl, rfl⟩
  | _ => cases garbled

namespace Formatter

theorem Balks.isGarbled {formatter : Formatter} {raw : Value} (balks : formatter.Balks raw) :
    raw.IsGarbled := by
  cases formatter with
  | boolean => cases balks
  | asIs => cases balks
  | _ => exact balks

theorem not_balks_of_absent {formatter : Formatter} {raw : Value}
    (absent : (raw.isNull || raw.isUndefined) = true) : ¬formatter.Balks raw := fun balks =>
  Bool.false_ne_true (balks.isGarbled.isPresent.2.2.symm.trans absent)

theorem refusesUnless_convertInteger (raw : Value) :
    RefusesUnless raw.IsGarbled (convertInteger raw) := by
  unfold convertInteger
  split
  · rename_i isNaN
    refine .readable (fun garbled => ?_) (.refuses _)
    exact Bool.false_ne_true (garbled.isPresent.1.symm.trans isNaN)
  · split
    · rename_i name named
      refine .readable (fun garbled => ?_) (.passes _)
      cases garbled.isPresent.2.1.symm.trans named
    · refine (refusesUnless_prepared raw).bind fun value _ => ?_
      split
      · exact .passes _
      · exact .refuses _

theorem refusesUnless_convertFloat (raw : Value) :
    RefusesUnless raw.IsGarbled (convertFloat raw) := by
  refine (refusesUnless_prepared raw).bind fun value _ => ?_
  split
  · split
    · exact .refuses _
    · exact .passes _
  · exact .refuses _

theorem refusesUnless_convertText (strip : Bool) (raw : Value) :
    RefusesUnless raw.IsGarbled (convertText strip raw) := by
  refine (refusesUnless_decoded raw).bind fun value _ => ?_
  split
  · exact .passes _
  · split
    · exact .passes _
    · exact .refuses _

theorem refusesUnless_convertDateTime (raw : Value) :
    RefusesUnless raw.IsGarbled (convertDateTime raw) := by
  unfold convertDateTime
  split
  · exact .readable id (.passes _)
  · exact .readable id (.passes _)
  · exact .readable id (.refuses _)
  · split
    · rename_i isNaN
      refine .readable (fun garbled => ?_) (.refuses _)
      exact Bool.false_ne_true (garbled.isPresent.1.symm.trans isNaN)
    · refine (refusesUnless_prepared _).bind fun value _ => ?_
      split
      · exact .passes _
      · exact .refuses _

theorem refusesUnless_convertJson (raw : Value) :
    RefusesUnless raw.IsGarbled (convertJson raw) := by
  refine (refusesUnless_decoded raw).bind fun value _ => ?_
  split
  · exact .passes _
  · exact .refuses _

theorem refusesUnless_convert (formatter : Formatter) (raw : Value) :
    RefusesUnless (formatter.Balks raw) (formatter.convert raw) := by
  cases formatter with
  | integer => exact refusesUnless_convertInteger raw
  | float => exact refusesUnless_convertFloat raw
  | boolean => exact .readable id (.passes _)
  | string strip => exact refusesUnless_convertText strip raw
  | datetime => exact refusesUnless_convertDateTime raw
  | json => exact refusesUnless_convertJson raw
  | asIs => exact .readable id (.passes _)

theorem refusesUnless_format (formatter : Formatter) (raw : Value) :
    RefusesUnless (formatter.Balks raw) (formatter.format raw) := by
  rw [format]
  split
  · rename_i absent
    exact .readable (not_balks_of_absent absent) (.passes _)
  · exact refusesUnless_convert formatter raw

/-- Reading JSON refuses every text that is none, unless the text goes beyond its limits. -/
theorem refusesUnless_jsonValue {raw : Value} (within : ¬raw.ExceedsReader) :
    RefusesUnless raw.IsGarbled (jsonValue raw) := by
  refine (refusesUnless_decoded raw).bind fun value taken => ?_
  split
  · rename_i source
    split
    · exact .passes _
    · rename_i fault place unread
      unfold readFailure
      split
      · exact absurd ⟨source, _, place, taken, unread, .inl rfl⟩ within
      · exact absurd ⟨source, _, place, taken, unread, .inr rfl⟩ within
      · exact .refuses _
  · exact .passes _

theorem refusesUnless_load {formatter : Formatter} {raw : Value}
    (within : ¬(formatter = .json ∧ raw.ExceedsReader)) :
    RefusesUnless (formatter.Balks raw) (formatter.load raw) := by
  unfold load
  split
  · rename_i absent
    exact .readable (not_balks_of_absent absent) (.passes _)
  · split
    · exact refusesUnless_jsonValue fun exceeds => within ⟨rfl, exceeds⟩
    · exact refusesUnless_convert _ raw

end Formatter

/-- Reading an integer or undefined never refuses. -/
theorem Formatter.integerOrUndefined_eq (raw : Value) :
    (¬raw.IsGarbled ∧ ∃ number, integerOrUndefined raw = .ok number) ∨
      (raw.IsGarbled ∧ integerOrUndefined raw = .error .undecodable) := by
  unfold integerOrUndefined
  have first := refusesUnless_format .integer raw
  generalize format .integer raw = formatted at first
  cases first with
  | unreadable garbled => exact .inr ⟨garbled, rfl⟩
  | readable clear only =>
    cases only with
    | passes number => exact .inl ⟨clear, number, rfl⟩
    | refuses fault => exact .inl ⟨clear, .undefined, rfl⟩

/-! ### Projections -/

namespace Schema

/-- Of some fields, the first that does not take what a record has for it gets garbled bytes. -/
def ComesToGarbled (record : Record) : Entries FieldSpec → Prop
  | [] => False
  | (name, spec) :: rest =>
    spec.formatter.Balks (record.given name) ∨
      ∃ held, spec.formatter.format (record.given name) = .ok held ∧ held.isNaN = false ∧
        ComesToGarbled record rest

/-- Projecting onto some fields refuses or passes, unless it comes to garbled bytes first. -/
theorem refusesUnless_formatFields (record : Record) (fields : Entries FieldSpec) :
    RefusesUnless (ComesToGarbled record fields) (formatFields record fields) := by
  induction fields with
  | nil => exact .readable id (.passes _)
  | cons field rest inductionHypothesis =>
    obtain ⟨name, spec⟩ := field
    rw [formatFields_cons_eq, ComesToGarbled]
    refine (spec.formatter.refusesUnless_format _).followed fun held _ => ?_
    split
    · rename_i missing
      have isNumber := Value.isNaN_of_isUndefined missing
      exact inductionHypothesis.congr ⟨fun unclear => ⟨isNumber, unclear⟩, And.right⟩
    · split
      · rename_i isNaN
        refine .readable (fun ⟨isNumber, _⟩ => ?_) (.refuses _)
        exact Bool.false_ne_true (isNumber.symm.trans isNaN)
      · rename_i isNumber
        have isNumber := Bool.eq_false_iff.mpr isNumber
        refine (inductionHypothesis.bind fun others _ => .passes _).congr ?_
        exact ⟨fun unclear => ⟨isNumber, unclear⟩, And.right⟩

end Schema

/-- Formatting and loading pass or refuse, but for bytes that a formatter decodes in vain and JSON
texts beyond the limits of their reader; reading an integer or undefined never fails but for such
bytes; and projecting a mapping passes or refuses, unless it comes to such bytes under a declared
field whose formatter decodes them. -/
theorem fails_only_on_garbled (formatter : Formatter) (raw : Value) (schema : Schema)
    (record : Record) :
    RefusesUnless (formatter.Balks raw) (formatter.format raw) ∧
    (RefusesUnless (formatter.Balks raw) (formatter.load raw) ∨
      formatter = .json ∧ raw.ExceedsReader) ∧
    ((¬raw.IsGarbled ∧ ∃ number, Formatter.integerOrUndefined raw = .ok number) ∨
      (raw.IsGarbled ∧ Formatter.integerOrUndefined raw = .error .undecodable)) ∧
    RefusesUnless (Schema.ComesToGarbled record schema.fields)
      (schema.strictForm (.dict record)) := by
  refine ⟨formatter.refusesUnless_format raw, ?_, Formatter.integerOrUndefined_eq raw,
    Schema.refusesUnless_formatFields record schema.fields⟩
  by_cases exceeds : formatter = .json ∧ raw.ExceedsReader
  · exact .inr exceeds
  · exact .inl (Formatter.refusesUnless_load exceeds)

/-- An octet that starts no character is not refused, be it read by a formatter, as an integer or
undefined, or under a declared field. -/
theorem fails_only_on_garbled_octet :
    Formatter.integer.format (.bytes ⟨#[0xFF]⟩) = .error .undecodable ∧
    Formatter.json.load (.bytes ⟨#[0xFF]⟩) = .error .undecodable ∧
    Formatter.integerOrUndefined (.bytes ⟨#[0xFF]⟩) = .error .undecodable ∧
    Schema.users.strictForm (.dict [(.text "id", .bytes ⟨#[0xFF]⟩)]) = .error .undecodable := by
  have garbled : (Value.bytes ⟨#[0xFF]⟩).IsGarbled := by rfl
  have given : Formatter.integer.Balks
      (Record.given [(.text "id", .bytes ⟨#[0xFF]⟩)] (.text "id")) := garbled
  obtain ⟨formatted, -, read, projected⟩ := fails_only_on_garbled .integer (.bytes ⟨#[0xFF]⟩)
    Schema.users [(.text "id", .bytes ⟨#[0xFF]⟩)]
  obtain ⟨-, loaded, -⟩ := fails_only_on_garbled .json (.bytes ⟨#[0xFF]⟩) Schema.users []
  refine ⟨formatted.eq_undecodable garbled, ?_, ?_, projected.eq_undecodable (.inl given)⟩
  · refine (loaded.resolve_right ?_).eq_undecodable garbled
    rintro ⟨-, source, fault, place, taken, -⟩
    cases taken
  · exact (read.resolve_left fun clear => clear.1 garbled).2

end TableGateway
