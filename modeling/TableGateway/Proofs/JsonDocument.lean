/-
This file says what a reader takes written values as. A reader that arrives at the text
of a value takes it whole, whatever stands behind it, unless the value goes beyond a limit
of the reader, which then says so. Sequences are taken as lists, and keys as their texts.
So JSON fields keep every document, which is a value of absences, truth values, integers,
texts, lists and mappings from texts, nested in any way: it stays what it is on its way
through format, dump and load.
-/

import Mathlib.Data.List.Forall2
import TableGateway.Proofs.Entries
import TableGateway.Proofs.JsonNumber
import TableGateway.Proofs.JsonString

namespace TableGateway

open Number

/-! ### Documents -/

namespace Value

/-- The values that JSON texts without fractions stand for. -/
inductive IsDocument : Value → Prop where
  | null : IsDocument .null
  | bool (truth : Bool) : IsDocument (.bool truth)
  | int (number : Int) : IsDocument (.int number)
  | text (characters : String) : IsDocument (.text characters)
  | list {items : List Value} (each : ∀ item ∈ items, IsDocument item) : IsDocument (.list items)
  | dict {entries : List (Value × Value)} (named : ∀ entry ∈ entries, ∃ name, entry.1 = .text name)
      (distinct : Entries.AreDistinct entries) (each : ∀ entry ∈ entries, IsDocument entry.2) :
      IsDocument (.dict entries)

mutual
/-- A value with lists in place of its tuples, which is how they are written. -/
def listed : Value → Value
  | .list items => .list (listedItems items)
  | .tuple items => .list (listedItems items)
  | .dict entries => .dict (listedEntries entries)
  | value => value
termination_by structural value => value

def listedItems : List Value → List Value
  | [] => []
  | item :: rest => item.listed :: listedItems rest
termination_by structural items => items

def listedEntries : List (Value × Value) → List (Value × Value)
  | [] => []
  | (key, value) :: rest => (key, value.listed) :: listedEntries rest
termination_by structural entries => entries
end

theorem listedItems_eq {items : List Value} (each : ∀ item ∈ items, item.listed = item) :
    listedItems items = items := by
  induction items with
  | nil => rfl
  | cons item rest inductionHypothesis =>
    obtain ⟨first, others⟩ := List.forall_mem_cons.mp each
    rw [listedItems, first, inductionHypothesis others]

theorem listedEntries_eq {entries : List (Value × Value)}
    (each : ∀ entry ∈ entries, entry.2.listed = entry.2) : listedEntries entries = entries := by
  induction entries with
  | nil => rfl
  | cons entry rest inductionHypothesis =>
    obtain ⟨first, others⟩ := List.forall_mem_cons.mp each
    rw [listedEntries, first, inductionHypothesis others]

/-- No tuples stand in a document. -/
theorem IsDocument.listed_eq {value : Value} (document : value.IsDocument) :
    value.listed = value := by
  induction document with
  | list each inductionHypothesis => rw [listed, listedItems_eq inductionHypothesis]
  | dict named distinct each inductionHypothesis =>
    rw [listed, listedEntries_eq inductionHypothesis]
  | _ => rfl

end Value

namespace Json

/-! ### Values -/

theorem readValue_scalar (fuel depth : Nat) {first : Char} (more : List Char)
    (noQuote : first ≠ '\x22') (noBracket : first ≠ '[') (noBrace : first ≠ '\x7b') :
    readValue (fuel + 1) depth (first :: more) = readScalar (first :: more) := by
  rw [readValue] <;> intros <;> simp_all

/-- The writer takes a value, and a reader that arrives at the text takes it as another one. -/
def ReadsAs (value again : Value) : Prop :=
  ∃ text, write value = .ok text ∧ opens text = true ∧
    ∀ fuel depth rest, 2 * text.length ≤ fuel → closes rest = true →
      Recovers again rest (value.listed.isReadable depth) (readValue fuel depth (text ++ rest))

theorem readsAs_null : ReadsAs .null .null := by
  refine ⟨_, rfl, rfl, fun fuel depth rest enough closed => ?_⟩
  cases fuel with
  | zero => cases enough
  | succ fuel => exact .content

theorem readsAs_bool (truth : Bool) : ReadsAs (.bool truth) (.bool truth) := by
  refine ⟨_, rfl, by cases truth <;> rfl, fun fuel depth rest enough closed => ?_⟩
  cases fuel with
  | zero => cases truth <;> cases enough
  | succ fuel => cases truth <;> exact .content

theorem opens_of_isDigit {first : Char} (digit : isDigit first = true) (more : List Char) :
    opens (first :: more) = true := by
  refine (Bool.not_eq_true' _).mpr (Bool.eq_false_iff.mpr fun other => ?_)
  simp only [isSpace, Bool.or_eq_true, beq_iff_eq] at other
  rcases other with (((((same | same) | same) | same) | same) | same) | same <;>
    · rw [same] at digit
      cases digit

/-- A number is taken by a reader of values if its text begins with a digit, a minus aside, and a
reader of numbers takes it. -/
theorem readsAs_number {value again : Value} {sign more : List Char} {first : Char}
    (written : write value = .ok (sign ++ first :: more)) (isSign : sign = [] ∨ sign = ['-'])
    (digit : isDigit first = true)
    (read : ∀ depth rest, closes rest = true →
      Recovers again rest (value.listed.isReadable depth)
        (readNumber (sign ++ first :: more ++ rest))) : ReadsAs value again := by
  have digitNe {letter : Char} (noDigit : isDigit letter = false) : first ≠ letter := by
    rintro rfl
    rw [digit] at noDigit
    cases noDigit
  refine ⟨_, written, ?_, fun fuel depth rest enough closed => ?_⟩
  · rcases isSign with rfl | rfl
    · exact opens_of_isDigit digit more
    · rfl
  · have taken := read depth rest closed
    cases fuel with
    | zero =>
      simp at enough
    | succ fuel =>
      rw [List.append_assoc, List.cons_append] at taken ⊢
      rw [← readScalar_of_isDigit (by rcases isSign with rfl | rfl <;> simp) digit] at taken
      rcases isSign with rfl | rfl
      · rwa [List.nil_append, readValue_scalar _ _ _ (digitNe rfl) (digitNe rfl) (digitNe rfl)]
      · rwa [List.singleton_append,
          readValue_scalar _ _ _ (by decide) (by decide) (by decide)]

theorem readsAs_int (number : Int) : ReadsAs (.int number) (.int number) := by
  obtain ⟨sign, first, more, shape, isSign, digit⟩ := exists_integerText number
  have written : write (.int number) = .ok (sign ++ first :: more) := by rw [write, shape]
  refine readsAs_number written isSign digit fun depth rest closed => ?_
  rw [← shape]
  exact recovers_readNumber number depth closed

theorem opens_writeString (characters : List Char) : opens (writeString characters) = true :=
  rfl

/-- What is written as a string is read as its text. -/
theorem readsAs_string {value : Value} {characters : List Char}
    (written : write value = .ok (writeString characters)) :
    ReadsAs value (.text (String.ofList characters)) := by
  refine ⟨_, written, opens_writeString _, fun fuel depth rest enough closed => ?_⟩
  cases fuel with
  | zero =>
    simp [writeString] at enough
  | succ fuel =>
    have read := readString_writeString characters rest
    rw [writeString, List.cons_append, List.cons_append] at read ⊢
    rw [readValue, read]
    exact .content

theorem readsAs_text (characters : String) : ReadsAs (.text characters) (.text characters) := by
  have read : ReadsAs (.text characters) (.text (String.ofList characters.toList)) :=
    readsAs_string rfl
  rwa [String.ofList_toList] at read

/-! ### Lists and mappings -/

/-- Items are written with commas between them, and taken back up to the bracket behind them. -/
theorem exists_writeItems {items agains : List Value} (some : items ≠ [])
    (each : List.Forall₂ ReadsAs items agains) :
    ∃ text, writeItems items = .ok text ∧ opens text = true ∧
      ∀ fuel depth rest, 2 * text.length + 1 ≤ fuel →
        Recovers agains rest (Value.areReadable depth (Value.listedItems items))
          (readItems fuel depth (text ++ ']' :: rest)) := by
  induction each with
  | nil => exact absurd rfl some
  | @cons item again others laters first each inductionHypothesis =>
    obtain ⟨text, written, starts, read⟩ := first
    have beyond (depth : Nat) (first : item.listed.isReadable depth = false) :
        Value.areReadable depth (Value.listedItems (item :: others)) = false := by
      simp [Value.listedItems, Value.areReadable, first]
    cases each with
    | nil =>
      refine ⟨text, by rw [writeItems, written]; rfl, starts, fun fuel depth rest enough => ?_⟩
      obtain ⟨fuel, rfl⟩ := Nat.exists_add_one_eq.mpr (by omega : 0 < fuel)
      rw [readItems]
      exact (read fuel depth _ (by omega) rfl).bind (beyond depth) .content
    | cons second each =>
      obtain ⟨tail, writtenTail, startsTail, readTail⟩ := inductionHypothesis (by simp)
      refine ⟨text ++ ',' :: ' ' :: tail, by rw [writeItems, written, writtenTail]; rfl,
        opens_append starts _, fun fuel depth rest enough => ?_⟩
      obtain ⟨fuel, rfl⟩ := Nat.exists_add_one_eq.mpr (by omega : 0 < fuel)
      have size : (text ++ ',' :: ' ' :: tail).length = text.length + tail.length + 2 := by
        simp only [List.length_append, List.length_cons]
        omega
      have skipped : skipSpace (' ' :: tail ++ ']' :: rest) = tail ++ ']' :: rest :=
        skipSpace_of_opens startsTail _
      rw [readItems, List.append_assoc]
      refine (read fuel depth _ (by omega) rfl).bind (beyond depth) ?_
      show Recovers _ _ _ (readItems fuel depth (skipSpace (' ' :: tail ++ ']' :: rest)) >>= _)
      rw [skipped]
      refine (readTail fuel depth rest (by omega)).bind (fun later => ?_) .content
      rw [Value.listedItems, Value.areReadable, later, Bool.and_false]

theorem readValue_items (fuel depth : Nat) {text : List Char} (starts : opens text = true)
    (rest : List Char) :
    readValue (fuel + 1) (depth + 1) ('[' :: (text ++ rest)) = do
      let (items, after) ← readItems fuel depth (text ++ rest)
      return (.list items, after) := by
  rw [readValue, skipSpace_of_opens starts]
  split
  · rename_i after closing
    have closed := opens_append starts rest
    rw [closing] at closed
    cases closed
  · rfl

theorem readValue_entries (fuel depth : Nat) {text : List Char} (starts : opens text = true)
    (rest : List Char) :
    readValue (fuel + 1) (depth + 1) ('\x7b' :: (text ++ rest)) = do
      let (entries, after) ← readEntries fuel depth (text ++ rest)
      return (.dict (Record.ofPairs entries), after) := by
  rw [readValue, skipSpace_of_opens starts]
  split
  · rename_i after closing
    have closed := opens_append starts rest
    rw [closing] at closed
    cases closed
  · rfl

/-- A value between brackets is taken if the reader, past the first of them, takes it up to the
other. -/
theorem readsAs_bracketed {value again : Value} {first last : Char} {text : List Char}
    (written : write value = .ok (first :: text ++ [last])) (starts : opens [first] = true)
    (read : ∀ fuel depth rest, 2 * text.length + 1 ≤ fuel →
      Recovers again rest (value.listed.isReadable depth)
        (readValue (fuel + 1) depth (first :: (text ++ last :: rest)))) :
    ReadsAs value again := by
  refine ⟨_, written, starts, fun fuel depth rest enough closed => ?_⟩
  rw [List.length_append, List.length_cons, List.length_singleton] at enough
  obtain ⟨fuel, rfl⟩ := Nat.exists_add_one_eq.mpr (by omega : 0 < fuel)
  rw [List.append_assoc, List.cons_append, List.singleton_append]
  exact read fuel depth rest (by omega)

/-- A sequence that is written as a list is read as one. -/
theorem readsAs_items {value : Value} {items agains : List Value}
    (isWritten : write value = write (.list items))
    (isListed : value.listed = (Value.list items).listed)
    (each : List.Forall₂ ReadsAs items agains) : ReadsAs value (.list agains) := by
  cases each with
  | nil =>
    have written : write (.list []) = .ok ('[' :: [] ++ [']']) := rfl
    refine readsAs_bracketed (isWritten.trans written) rfl fun fuel depth rest _ => ?_
    rw [isListed]
    cases depth with
    | zero => exact .limit rfl (.inl rfl)
    | succ depth => exact .content
  | @cons item again others laters first each =>
    obtain ⟨text, writtenItems, starts, read⟩ := exists_writeItems (by simp) (.cons first each)
    have written : write (.list (item :: others)) = .ok ('[' :: text ++ [']']) := by
      rw [write, writtenItems]
      rfl
    refine readsAs_bracketed (isWritten.trans written) rfl fun fuel depth rest enough => ?_
    rw [isListed]
    cases depth with
    | zero => exact .limit rfl (.inl rfl)
    | succ depth =>
      rw [readValue_items fuel depth starts]
      refine (read fuel depth rest enough).bind (fun beyond => ?_) .content
      rw [Value.listed, Value.isReadable]
      exact beyond

/-- The first member of a written object: its name, and then its value. -/
theorem readEntries_writeString (fuel depth : Nat) (name more : List Char) :
    readEntries (fuel + 1) depth (writeString name ++ ':' :: more) = (do
      let (value, rest) ← readValue fuel depth (skipSpace more)
      match skipSpace rest with
      | '\x7d' :: after => return ([(.text (String.ofList name), value)], after)
      | ',' :: more =>
        let (entries, after) ← readEntries fuel depth (skipSpace more)
        return ((.text (String.ofList name), value) :: entries, after)
      | other => throw (.commaExpected, other)) := by
  have spelled := readString_writeString name (':' :: more)
  rw [writeString, List.cons_append, List.cons_append] at spelled ⊢
  rw [readEntries, spelled]
  rfl

/-- An entry is taken as another one, which has the text of its key. -/
structure EntryReadsAs (entry again : Value × Value) : Prop where
  key : ∃ name, writeKey entry.1 = .ok name ∧ again.1 = .text (String.ofList name)
  value : ReadsAs entry.2 again.2

/-- Members are written with commas between them, and taken back up to the brace behind them. -/
theorem exists_writeEntries {entries agains : List (Value × Value)} (some : entries ≠ [])
    (each : List.Forall₂ EntryReadsAs entries agains) :
    ∃ text, writeEntries entries = .ok text ∧ opens text = true ∧
      ∀ fuel depth rest, 2 * text.length + 1 ≤ fuel →
        Recovers agains rest (Value.entriesReadable depth (Value.listedEntries entries))
          (readEntries fuel depth (text ++ '\x7d' :: rest)) := by
  induction each with
  | nil => exact absurd rfl some
  | @cons entry again others laters first each inductionHypothesis =>
    obtain ⟨⟨name, named, key⟩, text, written, starts, read⟩ := first
    obtain ⟨own, value⟩ := entry
    obtain ⟨own', value'⟩ := again
    cases key
    have beyond (depth : Nat) (first : value.listed.isReadable depth = false) :
        Value.entriesReadable depth (Value.listedEntries ((own, value) :: others)) = false := by
      simp [Value.listedEntries, Value.entriesReadable, first]
    have skipped (behind : List Char) :
        skipSpace (' ' :: (text ++ behind)) = text ++ behind :=
      skipSpace_of_opens starts behind
    cases each with
    | nil =>
      refine ⟨writeString name ++ ':' :: ' ' :: text, by
        rw [writeEntries, named, written]; rfl, opens_append (opens_writeString _) _,
        fun fuel depth rest enough => ?_⟩
      obtain ⟨fuel, rfl⟩ := Nat.exists_add_one_eq.mpr (by omega : 0 < fuel)
      have size : (writeString name ++ ':' :: ' ' :: text).length =
          (writeString name).length + text.length + 2 := by
        simp only [List.length_append, List.length_cons]
        omega
      rw [List.append_assoc, List.cons_append, List.cons_append, readEntries_writeString, skipped]
      exact (read fuel depth _ (by omega) rfl).bind (beyond depth) .content
    | cons second each =>
      obtain ⟨tail, writtenTail, startsTail, readTail⟩ := inductionHypothesis (by simp)
      refine ⟨writeString name ++ ':' :: ' ' :: text ++ ',' :: ' ' :: tail, by
        rw [writeEntries, named, written, writtenTail]; rfl,
        opens_append (opens_append (opens_writeString _) _) _, fun fuel depth rest enough => ?_⟩
      obtain ⟨fuel, rfl⟩ := Nat.exists_add_one_eq.mpr (by omega : 0 < fuel)
      have size : (writeString name ++ ':' :: ' ' :: text ++ ',' :: ' ' :: tail).length =
          (writeString name).length + text.length + tail.length + 4 := by
        simp only [List.length_append, List.length_cons]
        omega
      have skippedTail : skipSpace (' ' :: tail ++ '\x7d' :: rest) = tail ++ '\x7d' :: rest :=
        skipSpace_of_opens startsTail _
      rw [List.append_assoc, List.append_assoc, List.cons_append, List.cons_append,
        List.cons_append, readEntries_writeString, skipped]
      refine (read fuel depth _ (by omega) rfl).bind (beyond depth) ?_
      show Recovers _ _ _
        (readEntries fuel depth (skipSpace (' ' :: tail ++ '\x7d' :: rest)) >>= _)
      rw [skippedTail]
      refine (readTail fuel depth rest (by omega)).bind (fun later => ?_) .content
      rw [Value.listedEntries, Value.entriesReadable, later, Bool.and_false]

/-- Of members with one name the reader keeps the first place and the last value. -/
theorem readsAs_dict {entries agains : List (Value × Value)}
    (each : List.Forall₂ EntryReadsAs entries agains) :
    ReadsAs (.dict entries) (.dict (Record.ofPairs agains)) := by
  cases each with
  | nil =>
    have written : write (.dict []) = .ok ('\x7b' :: [] ++ ['\x7d']) := rfl
    refine readsAs_bracketed written rfl fun fuel depth rest _ => ?_
    cases depth with
    | zero => exact .limit rfl (.inl rfl)
    | succ depth => exact .content
  | @cons entry again others laters first each =>
    obtain ⟨text, writtenEntries, starts, read⟩ := exists_writeEntries (by simp) (.cons first each)
    have written : write (.dict (entry :: others)) = .ok ('\x7b' :: text ++ ['\x7d']) := by
      rw [write, writtenEntries]
      rfl
    refine readsAs_bracketed written rfl fun fuel depth rest enough => ?_
    cases depth with
    | zero => exact .limit rfl (.inl rfl)
    | succ depth =>
      rw [readValue_entries fuel depth starts]
      refine (read fuel depth rest enough).bind (fun beyond => ?_) .content
      rw [Value.listed, Value.isReadable]
      exact beyond

/-- A document is read as it is. -/
theorem readsBack_of_isDocument {value : Value} (document : value.IsDocument) :
    ReadsAs value value := by
  induction document with
  | null => exact readsAs_null
  | bool truth => exact readsAs_bool truth
  | int number => exact readsAs_int number
  | text characters => exact readsAs_text characters
  | list each inductionHypothesis =>
    exact readsAs_items rfl rfl (List.forall₂_same.mpr inductionHypothesis)
  | @dict entries named distinct each inductionHypothesis =>
    have read : List.Forall₂ EntryReadsAs entries entries := by
      refine List.forall₂_same.mpr fun entry member => ⟨?_, inductionHypothesis entry member⟩
      obtain ⟨name, key⟩ := named entry member
      exact ⟨name.toList, by rw [key]; rfl, by rw [key, String.ofList_toList]⟩
    have whole := readsAs_dict read
    rwa [Record.ofPairs_of_areDistinct distinct] at whole

/-- A whole text is read as the value that a reader takes it as, unless it goes beyond a limit. -/
theorem recovers_readDocument {value again : Value} (reads : ReadsAs value again) :
    ∃ text, write value = .ok text ∧
      (readDocument text = .ok again ∨ value.listed.isReadable deepestNesting = false ∧
        ∃ stop : Stop, readDocument text = .error stop ∧
          (stop.1 = .tooDeep ∨ stop.1 = .tooManyDigits)) := by
  obtain ⟨text, written, starts, read⟩ := reads
  refine ⟨text, written, ?_⟩
  have recovered := read (2 * text.length + 2) deepestNesting [] (by omega) rfl
  have skipped := skipSpace_of_opens starts []
  have noMark : ∀ tail, text ≠ '\uFEFF' :: tail := by
    rintro tail rfl
    cases starts
  rw [List.append_nil] at recovered skipped
  rw [readDocument]
  · rw [skipped]
    generalize readValue (2 * text.length + 2) deepestNesting text = result at recovered ⊢
    cases recovered with
    | content => exact .inl rfl
    | limit beyond reason => exact .inr ⟨beyond, _, rfl, reason⟩
  · exact noMark

end Json

/-! ### JSON fields -/

namespace Value.IsDocument

variable {value : Value}

theorem decoded_eq (document : value.IsDocument) : decoded value = .ok value := by
  cases document <;> rfl

theorem isUndefined_eq (document : value.IsDocument) : value.isUndefined = false := by
  cases document <;> rfl

theorem isNull_eq_false (document : value.IsDocument) (present : value ≠ .null) :
    value.isNull = false := by
  cases document with
  | null => exact absurd rfl present
  | _ => rfl

end Value.IsDocument

theorem jsonValue_text (source : String) :
    jsonValue (.text source) = match Json.read source with
      | .ok value => .ok value
      | .error (fault, place) => .error (readFailure source fault place) :=
  rfl

/-- The text of a value is read as the value that a reader takes it as, unless it goes beyond a
limit. -/
theorem jsonValue_of_readsAs {value again : Value} (reads : Json.ReadsAs value again) :
    ∃ source, jsonText value = .ok source ∧
      (jsonValue (.text source) = .ok again ∨ value.listed.isReadable Json.deepestNesting = false ∧
        (jsonValue (.text source) = .error .tooDeep ∨
          jsonValue (.text source) = .error .unreadableNumber)) := by
  obtain ⟨text, written, read⟩ := Json.recovers_readDocument reads
  refine ⟨String.ofList text, by rw [jsonText, written], ?_⟩
  rw [jsonValue_text, Json.read, String.toList_ofList]
  rcases read with whole | ⟨beyond, ⟨fault, rest⟩, stopped, deep | long⟩
  · rw [whole]
    exact .inl rfl
  · rw [stopped]
    obtain rfl : fault = .tooDeep := deep
    exact .inr ⟨beyond, .inl rfl⟩
  · rw [stopped]
    obtain rfl : fault = .tooManyDigits := long
    exact .inr ⟨beyond, .inr rfl⟩

/-- The text of a document is read as that document, unless it goes beyond a limit. -/
theorem jsonValue_jsonText {value : Value} (document : value.IsDocument) :
    ∃ source, jsonText value = .ok source ∧
      (jsonValue (.text source) = .ok value ∨ value.isReadable Json.deepestNesting = false ∧
        (jsonValue (.text source) = .error .tooDeep ∨
          jsonValue (.text source) = .error .unreadableNumber)) := by
  have read := jsonValue_of_readsAs (Json.readsBack_of_isDocument document)
  rwa [document.listed_eq] at read

/-- A document stays itself on its way into a JSON field, and on its way from there into a row and
back, unless it goes beyond a limit of the reader, which then says so. All documents but the absence
are texts in the row. -/
theorem Formatter.load_dump_json {value : Value} (document : value.IsDocument) :
    Formatter.json.format value = .ok value ∧
      ∃ dumped, Formatter.json.dump value = .ok dumped ∧
        (value = .null ∧ dumped = .null ∨ value ≠ .null ∧ ∃ source, dumped = .text source) ∧
        (Formatter.json.load dumped = .ok value ∨
          value.isReadable Json.deepestNesting = false ∧
            (Formatter.json.load dumped = .error .tooDeep ∨
              Formatter.json.load dumped = .error .unreadableNumber)) := by
  by_cases absent : value = .null
  · subst absent
    exact ⟨rfl, .null, rfl, .inl ⟨rfl, rfl⟩, .inl rfl⟩
  · have noNull := document.isNull_eq_false absent
    have noUndefined := document.isUndefined_eq
    obtain ⟨text, written, -⟩ := Json.readsBack_of_isDocument document
    obtain ⟨source, dumped, read⟩ := jsonValue_jsonText document
    refine ⟨?_, .text source, ?_, .inr ⟨absent, source, rfl⟩, read⟩
    · have taken : convertJson value = .ok value := by
        simp only [convertJson, document.decoded_eq, bind, Except.bind, written, pure, Except.pure]
      simp [format, noNull, noUndefined, convert, taken]
    · simp [dump, noNull, noUndefined, dumped]

/-- A document with a text that looks like JSON, characters of all planes, zeros and empty
collections. -/
def Value.sampleDocument : Value :=
  .dict [(.text "", .list [.null, .bool false, .int 0, .int (-70)]), (.text "z", .dict []),
    (.text "\x22\\\n\x7f", .text "\x7b\x22é\x22: [1, 😀]\x7d"), (.text "a", .list [])]

theorem Value.isDocument_sample : sampleDocument.IsDocument := by
  have items : ∀ item ∈ [Value.null, .bool false, .int 0, .int (-70)], item.IsDocument := by
    simp only [List.forall_mem_cons, List.not_mem_nil, false_implies, implies_true, and_true]
    exact ⟨.null, .bool false, .int 0, .int (-70)⟩
  refine .dict ?_ (by decide) ?_
  · simp only [List.forall_mem_cons, List.not_mem_nil, false_implies, implies_true, and_true]
    exact ⟨⟨_, rfl⟩, ⟨_, rfl⟩, ⟨_, rfl⟩, ⟨_, rfl⟩⟩
  · simp only [List.forall_mem_cons, List.not_mem_nil, false_implies, implies_true, and_true]
    exact ⟨.list items, .dict (by simp) (by decide) (by simp), .text _, .list (by simp)⟩

theorem Formatter.load_dump_sample : Value.sampleDocument.IsDocument ∧
    ∃ source, Formatter.json.dump Value.sampleDocument = .ok (.text source) ∧
      Formatter.json.load (.text source) = .ok Value.sampleDocument := by
  refine ⟨Value.isDocument_sample, ?_⟩
  have readable : Value.sampleDocument.isReadable Json.deepestNesting = true := by
    simp [Value.sampleDocument, Value.isReadable, Value.areReadable, Value.entriesReadable,
      Json.deepestNesting, Number.digits, Number.longestRun]
  obtain ⟨-, dumped, written, shape, read⟩ := Formatter.load_dump_json Value.isDocument_sample
  obtain ⟨absent, -⟩ | ⟨-, source, rfl⟩ := shape
  · cases absent
  · obtain whole | ⟨beyond, -⟩ := read
    · exact ⟨source, written, whole⟩
    · rw [readable] at beyond
      cases beyond

end TableGateway
