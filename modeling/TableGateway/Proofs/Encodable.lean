/-
This file says which values have a JSON text. Every part has to be one that the writer
knows, and a number among them has to be finite; of the keys fewer kinds are known than of
the parts. A JSON field takes a value exactly if it has a text, and keeps it as it is. The
text is always one that the reader takes, though not always as the same value: tuples come
back as lists, and points in time, dates, decimals and keys as their texts.
-/

import TableGateway.Proofs.Canonical
import TableGateway.Proofs.JsonDocument
import TableGateway.Proofs.JsonFloat

namespace TableGateway

open Calendar Number

namespace Value

/-- The keys that are known to the writer. -/
inductive IsEncodableKey : Value → Prop where
  | null : IsEncodableKey .null
  | bool (truth : Bool) : IsEncodableKey (.bool truth)
  | int (number : Int) : IsEncodableKey (.int number)
  | float {number : Binary64} (finite : number.isFinite = true) : IsEncodableKey (.float number)
  | text (characters : String) : IsEncodableKey (.text characters)

/-- The values that have a JSON text. -/
inductive IsEncodable : Value → Prop where
  | null : IsEncodable .null
  | bool (truth : Bool) : IsEncodable (.bool truth)
  | int (number : Int) : IsEncodable (.int number)
  | float {number : Binary64} (finite : number.isFinite = true) : IsEncodable (.float number)
  | text (characters : String) : IsEncodable (.text characters)
  | datetime (moment : DateTime) : IsEncodable (.datetime moment)
  | date (day : Date) : IsEncodable (.date day)
  | decimal (number : Decimal) : IsEncodable (.decimal number)
  | list {items : List Value} (each : ∀ item ∈ items, IsEncodable item) : IsEncodable (.list items)
  | tuple {items : List Value} (each : ∀ item ∈ items, IsEncodable item) :
      IsEncodable (.tuple items)
  | dict {entries : List (Value × Value)} (keys : ∀ entry ∈ entries, entry.1.IsEncodableKey)
      (each : ∀ entry ∈ entries, IsEncodable entry.2) : IsEncodable (.dict entries)

/-- A floating-point number stands somewhere in a value. -/
inductive Holds (number : Binary64) : Value → Prop where
  | float : Holds number (.float number)
  | list {items : List Value} {item : Value} (member : item ∈ items) (inside : Holds number item) :
      Holds number (.list items)
  | tuple {items : List Value} {item : Value} (member : item ∈ items) (inside : Holds number item) :
      Holds number (.tuple items)
  | dict {entries : List (Value × Value)} {entry : Value × Value} (member : entry ∈ entries)
      (inside : Holds number entry.2) : Holds number (.dict entries)

end Value

namespace Json

/-! ### What the writer takes -/

theorem writeFloat_iff {number : Binary64} :
    (∃ text, writeFloat number = .ok text) ↔ number.isFinite = true := by
  rw [writeFloat]
  split
  · exact ⟨fun _ => ‹_›, fun _ => ⟨_, rfl⟩⟩
  · exact ⟨by simp, fun finite => absurd finite ‹_›⟩

theorem writeKey_iff {key : Value} :
    (∃ name, writeKey key = .ok name) ↔ key.IsEncodableKey := by
  constructor
  · rintro writes
    cases key with
    | null => exact .null
    | bool truth => exact .bool truth
    | int number => exact .int number
    | float number => exact .float (writeFloat_iff.mp writes)
    | text characters => exact .text characters
    | _ =>
      obtain ⟨name, named⟩ := writes
      cases named
  · intro known
    cases known with
    | float finite => exact writeFloat_iff.mpr finite
    | _ => exact ⟨_, rfl⟩

theorem writeItems_iff {items : List Value} :
    (∃ text, writeItems items = .ok text) ↔ ∀ item ∈ items, ∃ text, write item = .ok text := by
  induction items with
  | nil => exact ⟨by simp, fun _ => ⟨_, rfl⟩⟩
  | cons item rest inductionHypothesis =>
    rw [List.forall_mem_cons, ← inductionHypothesis, writeItems]
    constructor
    · rintro ⟨text, written⟩
      obtain ⟨first, here, written⟩ := ok_of_bind written
      obtain ⟨others, later, -⟩ := ok_of_bind written
      exact ⟨⟨first, here⟩, others, later⟩
    · rintro ⟨⟨first, here⟩, others, later⟩
      rw [here, later]
      exact ⟨_, rfl⟩

theorem writeEntries_iff {entries : List (Value × Value)} :
    (∃ text, writeEntries entries = .ok text) ↔
      ∀ entry ∈ entries, entry.1.IsEncodableKey ∧ ∃ text, write entry.2 = .ok text := by
  induction entries with
  | nil => exact ⟨by simp, fun _ => ⟨_, rfl⟩⟩
  | cons entry rest inductionHypothesis =>
    obtain ⟨key, value⟩ := entry
    rw [List.forall_mem_cons, ← inductionHypothesis, writeEntries, ← writeKey_iff]
    constructor
    · rintro ⟨text, written⟩
      obtain ⟨name, named, written⟩ := ok_of_bind written
      obtain ⟨first, here, written⟩ := ok_of_bind written
      obtain ⟨others, later, -⟩ := ok_of_bind written
      exact ⟨⟨⟨name, named⟩, first, here⟩, others, later⟩
    · rintro ⟨⟨⟨name, named⟩, first, here⟩, others, later⟩
      rw [named, here, later]
      exact ⟨_, rfl⟩

/-- Brackets around a text are written if and only if the text is. -/
theorem bracketed_iff {result : Except WriteFault (List Char)} {around : List Char → List Char} :
    (∃ text, (do return around (← result)) = Except.ok text) ↔ ∃ text, result = .ok text := by
  constructor
  · rintro ⟨text, written⟩
    obtain ⟨inside, here, -⟩ := ok_of_bind written
    exact ⟨inside, here⟩
  · rintro ⟨inside, here⟩
    rw [here]
    exact ⟨_, rfl⟩

mutual
theorem isEncodable_of_write (value : Value) (writes : ∃ text, write value = .ok text) :
    value.IsEncodable := by
  cases value with
  | null => exact .null
  | bool truth => exact .bool truth
  | int number => exact .int number
  | float number => exact .float (writeFloat_iff.mp writes)
  | text characters => exact .text characters
  | datetime moment => exact .datetime moment
  | date day => exact .date day
  | decimal number => exact .decimal number
  | list items =>
    rw [write] at writes
    exact .list (areEncodable_of_write items (writeItems_iff.mp (bracketed_iff.mp writes)))
  | tuple items =>
    rw [write] at writes
    exact .tuple (areEncodable_of_write items (writeItems_iff.mp (bracketed_iff.mp writes)))
  | dict entries =>
    rw [write] at writes
    have each := writeEntries_iff.mp (bracketed_iff.mp writes)
    exact .dict (fun entry member => (each entry member).1)
      (entriesEncodable_of_write entries fun entry member => (each entry member).2)
  | _ =>
    obtain ⟨text, written⟩ := writes
    cases written
termination_by structural value

theorem areEncodable_of_write (items : List Value)
    (each : ∀ item ∈ items, ∃ text, write item = .ok text) : ∀ item ∈ items, item.IsEncodable := by
  cases items with
  | nil => exact fun _ member => absurd member List.not_mem_nil
  | cons item rest =>
    rw [List.forall_mem_cons] at each ⊢
    exact ⟨isEncodable_of_write item each.1, areEncodable_of_write rest each.2⟩
termination_by structural items

theorem entriesEncodable_of_write (entries : List (Value × Value))
    (each : ∀ entry ∈ entries, ∃ text, write entry.2 = .ok text) :
    ∀ entry ∈ entries, entry.2.IsEncodable := by
  cases entries with
  | nil => exact fun _ member => absurd member List.not_mem_nil
  | cons entry rest =>
    obtain ⟨key, value⟩ := entry
    rw [List.forall_mem_cons] at each ⊢
    exact ⟨isEncodable_of_write value each.1, entriesEncodable_of_write rest each.2⟩
termination_by structural entries
end

/-- The writer takes exactly the encodable values. -/
theorem write_iff {value : Value} : (∃ text, write value = .ok text) ↔ value.IsEncodable := by
  refine ⟨isEncodable_of_write value, fun encodable => ?_⟩
  induction encodable with
  | float finite => exact writeFloat_iff.mpr finite
  | list each inductionHypothesis =>
    rw [write]
    exact bracketed_iff.mpr (writeItems_iff.mpr inductionHypothesis)
  | tuple each inductionHypothesis =>
    rw [write]
    exact bracketed_iff.mpr (writeItems_iff.mpr inductionHypothesis)
  | dict keys each inductionHypothesis =>
    rw [write]
    exact bracketed_iff.mpr (writeEntries_iff.mpr fun entry member =>
      ⟨keys entry member, inductionHypothesis entry member⟩)
  | _ => exact ⟨_, rfl⟩

/-! ### What the reader takes of it -/

/-- A finite number is read as a number. -/
theorem exists_readsAs_float {number : Binary64} (finite : number.isFinite = true)
    (proper : number.IsProper) : ∃ again, ReadsAs (.float number) again := by
  cases number with
  | nan => cases finite
  | infinity negative => cases finite
  | finite negative significand exponent =>
    have numeral := Binary64.isNumeral_magnitudeText proper exponent
    obtain ⟨first, more, shape, digit⟩ := numeral.exists_head
    obtain ⟨again, read⟩ := readNumber_of_isNumeral numeral negative
    rw [shape] at read
    have written : write (.float (.finite negative significand exponent)) =
        .ok ((if negative then ['-'] else []) ++ first :: more) := by
      rw [write, writeFloat, if_pos finite, Binary64.text, String.toList_ofList, shape]
    refine ⟨.float again, readsAs_number written (by cases negative <;> simp) digit
      fun depth rest closed => ?_⟩
    rw [List.append_assoc, read rest closed]
    exact .content

theorem exists_forall₂ {First Second : Type} {related : First → Second → Prop} {items : List First}
    (each : ∀ item ∈ items, ∃ again, related item again) :
    ∃ agains, List.Forall₂ related items agains := by
  induction items with
  | nil => exact ⟨[], .nil⟩
  | cons item rest inductionHypothesis =>
    obtain ⟨⟨again, first⟩, others⟩ := List.forall_mem_cons.mp each
    obtain ⟨agains, laters⟩ := inductionHypothesis others
    exact ⟨again :: agains, .cons first laters⟩

/-- What is written for an encodable value is read as some value. -/
theorem exists_readsAs {value : Value} (encodable : value.IsEncodable)
    (proper : ∀ number, value.Holds number → number.IsProper) : ∃ again, ReadsAs value again := by
  induction encodable with
  | null => exact ⟨_, readsAs_null⟩
  | bool truth => exact ⟨_, readsAs_bool truth⟩
  | int number => exact ⟨_, readsAs_int number⟩
  | @float number finite => exact exists_readsAs_float finite (proper number .float)
  | text characters => exact ⟨_, readsAs_text characters⟩
  | datetime moment => exact ⟨_, readsAs_string rfl⟩
  | date day => exact ⟨_, readsAs_string rfl⟩
  | decimal number => exact ⟨_, readsAs_string rfl⟩
  | list each inductionHypothesis =>
    obtain ⟨agains, read⟩ := exists_forall₂ fun item member =>
      inductionHypothesis item member fun number inside => proper number (.list member inside)
    exact ⟨.list agains, readsAs_items rfl rfl read⟩
  | tuple each inductionHypothesis =>
    obtain ⟨agains, read⟩ := exists_forall₂ fun item member =>
      inductionHypothesis item member fun number inside => proper number (.tuple member inside)
    exact ⟨.list agains, readsAs_items rfl rfl read⟩
  | @dict entries keys each inductionHypothesis =>
    have member : ∀ entry ∈ entries, ∃ again, EntryReadsAs entry again := by
      intro entry member
      obtain ⟨name, named⟩ := writeKey_iff.mpr (keys entry member)
      obtain ⟨again, read⟩ := inductionHypothesis entry member
        fun number inside => proper number (.dict member inside)
      exact ⟨(.text (String.ofList name), again), ⟨name, named, rfl⟩, read⟩
    obtain ⟨agains, read⟩ := exists_forall₂ member
    exact ⟨_, readsAs_dict read⟩

end Json

/-! ### JSON fields -/

theorem jsonText_iff {value : Value} :
    (∃ source, jsonText value = .ok source) ↔ value.IsEncodable :=
  jsonText_eq_ok_iff.trans Json.write_iff

namespace Formatter

/-- A JSON field takes a value that is neither absent nor bytes exactly if it is encodable. -/
theorem format_json {value : Value} (notNull : value ≠ .null) (notUndefined : value ≠ .undefined)
    (notBytes : ∀ octets, value ≠ .bytes octets ∧ value ≠ .byteArray octets) :
    (value.IsEncodable ∧ json.format value = .ok value) ∨
      (¬value.IsEncodable ∧ ∃ fault, json.format value = .error (.invalid fault)) := by
  have present : (value.isNull || value.isUndefined) = false := by
    cases value with
    | null => exact absurd rfl notNull
    | undefined => exact absurd rfl notUndefined
    | _ => rfl
  have itself : decoded value = .ok value := by
    cases value with
    | bytes octets => exact absurd rfl (notBytes octets).1
    | byteArray octets => exact absurd rfl (notBytes octets).2
    | _ => rfl
  have formatted : json.format value = convertJson value := by
    rw [format, present]
    rfl
  rw [formatted]
  cases written : Json.write value with
  | ok text => exact .inl ⟨Json.write_iff.mp ⟨text, written⟩, convertJson_of_written itself written⟩
  | error fault =>
    refine .inr ⟨fun encodable => ?_, .refused .json value (.unwritable fault), ?_⟩
    · obtain ⟨text, other⟩ := Json.write_iff.mpr encodable
      rw [written] at other
      cases other
    · rw [convertJson, itself]
      simp only [bind, Except.bind, written]
      rfl

/-- What a JSON field holds that is encodable is written to a row, and read from there unless it
goes beyond a limit of the reader. -/
theorem exists_load_dump {value : Value} (encodable : value.IsEncodable)
    (proper : ∀ number, value.Holds number → number.IsProper) :
    ∃ dumped, json.dump value = .ok dumped ∧ ((∃ again, json.load dumped = .ok again) ∨
      value.listed.isReadable Json.deepestNesting = false ∧
        (json.load dumped = .error .tooDeep ∨ json.load dumped = .error .unreadableNumber)) := by
  by_cases absent : value = .null
  · subst absent
    exact ⟨.null, rfl, .inl ⟨.null, rfl⟩⟩
  · obtain ⟨again, reads⟩ := Json.exists_readsAs encodable proper
    obtain ⟨source, written, read⟩ := jsonValue_of_readsAs reads
    have present : (value.isNull || value.isUndefined) = false := by
      cases encodable <;> first | rfl | exact absurd rfl absent
    have dumped : json.dump value = .ok (.text source) := by
      rw [dump, present, written]
      rfl
    exact ⟨.text source, dumped, read.imp_left fun whole => ⟨again, whole⟩⟩

end Formatter

/-- Exactly the encodable values have a JSON text; the others are refused. A JSON field takes those
and refuses the others as well, absences and bytes aside, and keeps what it takes as it is. What is
written for an encodable value is always read, unless it goes beyond a limit of the reader; its
numbers are taken to have no more than their 53 bits, as all have that come from rounding. -/
theorem json_takes_encodable (value : Value) :
    ((value.IsEncodable ∧ ∃ source, jsonText value = .ok source) ∨
      (¬value.IsEncodable ∧ ∃ fault, jsonText value = .error fault)) ∧
    (value ≠ .null → value ≠ .undefined →
      (∀ octets, value ≠ .bytes octets ∧ value ≠ .byteArray octets) →
      (value.IsEncodable ∧ Formatter.json.format value = .ok value) ∨
        (¬value.IsEncodable ∧ ∃ fault, Formatter.json.format value = .error (.invalid fault))) ∧
    (value.IsEncodable → (∀ number, value.Holds number → number.IsProper) →
      ∃ dumped, Formatter.json.dump value = .ok dumped ∧
        ((∃ again, Formatter.json.load dumped = .ok again) ∨
          value.listed.isReadable Json.deepestNesting = false ∧
            (Formatter.json.load dumped = .error .tooDeep ∨
              Formatter.json.load dumped = .error .unreadableNumber))) := by
  refine ⟨?_, Formatter.format_json, Formatter.exists_load_dump⟩
  cases written : jsonText value with
  | ok source => exact .inl ⟨jsonText_iff.mp ⟨source, written⟩, source, rfl⟩
  | error fault =>
    refine .inr ⟨fun encodable => ?_, fault, rfl⟩
    obtain ⟨source, other⟩ := jsonText_iff.mpr encodable
    rw [written] at other
    cases other

/-- A half and a leap day in a tuple. -/
def Value.halfAndDay : Value :=
  .tuple [.float (.finite false (powerOfTwo 52) (-53)), .date ⟨2024, 2, 29⟩]

/-- The tuple is kept as it is, and what is written for it is read. -/
theorem json_takes_halfAndDay :
    Formatter.json.format Value.halfAndDay = .ok Value.halfAndDay ∧
      ∃ dumped again, Formatter.json.dump Value.halfAndDay = .ok dumped ∧
        Formatter.json.load dumped = .ok again := by
  have encodable : Value.halfAndDay.IsEncodable := by
    refine .tuple ?_
    simp only [List.forall_mem_cons, List.not_mem_nil, false_implies, implies_true, and_true]
    exact ⟨.float rfl, .date _⟩
  have proper : ∀ number, Value.halfAndDay.Holds number → number.IsProper := by
    intro number holds
    cases holds with
    | tuple member inside =>
      simp only [List.mem_cons, List.not_mem_nil, or_false] at member
      rcases member with rfl | rfl
      · cases inside
        exact Nat.pow_lt_pow_right (by decide) (by decide)
      · cases inside
  obtain ⟨-, formatted, loaded⟩ := json_takes_encodable Value.halfAndDay
  obtain ⟨dumped, written, ⟨again, read⟩ | ⟨beyond, -⟩⟩ := loaded encodable proper
  · obtain ⟨-, kept⟩ | ⟨other, -⟩ := formatted (by simp [Value.halfAndDay])
      (by simp [Value.halfAndDay]) (by simp [Value.halfAndDay])
    · exact ⟨kept, dumped, again, written, read⟩
    · exact absurd encodable other
  · cases beyond

end TableGateway
