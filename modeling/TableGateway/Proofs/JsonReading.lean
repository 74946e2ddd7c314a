/-
This file says what the JSON reader can come to, and which of it the writer takes. The
reader makes absences, truth values, numbers, texts, lists, and mappings from texts,
nested in any way. Of these the writer refuses exactly the ones with a number inside that
is not finite. The reader makes such numbers: it has words for them, and what is too large
for a floating-point number is read as infinite.
-/

import TableGateway.Formatter.Conversion
import TableGateway.Proofs.Entries
import TableGateway.Proofs.Run

namespace TableGateway

open Number

namespace Value

/-- The values that JSON texts stand for. -/
inductive IsJson : Value → Prop where
  | null : IsJson .null
  | bool (truth : Bool) : IsJson (.bool truth)
  | int (number : Int) : IsJson (.int number)
  | float (number : Binary64) : IsJson (.float number)
  | text (characters : String) : IsJson (.text characters)
  | list {items : List Value} (each : ∀ item ∈ items, IsJson item) : IsJson (.list items)
  | dict {entries : List (Value × Value)} (named : ∀ entry ∈ entries, ∃ name, entry.1 = .text name)
      (each : ∀ entry ∈ entries, IsJson entry.2) : IsJson (.dict entries)

/-- A floating-point number that is not finite stands somewhere in a value. -/
inductive HoldsNonFinite : Value → Prop where
  | float {number : Binary64} (nonFinite : number.isFinite = false) : HoldsNonFinite (.float number)
  | item {items : List Value} {item : Value} (member : item ∈ items)
      (inside : HoldsNonFinite item) : HoldsNonFinite (.list items)
  | entry {entries : List (Value × Value)} {entry : Value × Value} (member : entry ∈ entries)
      (inside : HoldsNonFinite entry.2) : HoldsNonFinite (.dict entries)

end Value

namespace Json

/-! ### What the reader takes -/

/-- Whatever a reader takes is of a kind. -/
def Takes {Content : Type} (kind : Content → Prop) (result : Except Stop (Content × List Char)) :
    Prop :=
  ∀ content rest, result = .ok (content, rest) → kind content

section Takes

variable {First Second : Type} {kind : First → Prop} {whole : Second → Prop}

theorem Takes.ok {content : First} {rest : List Char} (holds : kind content) :
    Takes kind (.ok (content, rest)) := by
  intro taken after same
  cases same
  exact holds

theorem Takes.error {stop : Stop} : Takes kind (.error stop) :=
  nofun

/-- A reader that goes on from what another took. -/
theorem Takes.bind {result : Except Stop (First × List Char)}
    {next : First × List Char → Except Stop (Second × List Char)} (first : Takes kind result)
    (goes : ∀ content rest, kind content → Takes whole (next (content, rest))) :
    Takes whole (result >>= next) := by
  intro content rest taken
  obtain ⟨⟨found, after⟩, part, taken⟩ := ok_of_bind taken
  exact goes found after (first found after part) content rest taken

theorem takes_anything (result : Except Stop (First × List Char)) : Takes (fun _ => True) result :=
  fun _ _ _ => trivial

end Takes

theorem takes_readNumber (characters : List Char) :
    Takes Value.IsJson (readNumber characters) := by
  unfold readNumber
  split
  split
  · exact .error
  · split
    · split
      · exact .error
      · exact .ok (.int _)
    · exact .ok (.float _)

theorem takes_readScalar (characters : List Char) :
    Takes Value.IsJson (readScalar characters) := by
  unfold readScalar
  extract_lets words
  have json : ∀ word ∈ words, word.2.IsJson := by
    simp only [words, List.forall_mem_cons, List.not_mem_nil, false_implies, implies_true, and_true]
    exact ⟨.null, .bool true, .bool false, .float _, .float _, .float _⟩
  split
  · rename_i found known
    obtain ⟨⟨word, value⟩, member, spelled⟩ := List.exists_of_findSome?_eq_some known
    obtain ⟨rest, _, rfl⟩ := Option.map_eq_some_iff.mp spelled
    exact .ok (json _ member)
  · exact takes_readNumber characters

/-- The values of JSON texts, as a reader with some fuel takes them. -/
structure TakesJson (fuel : Nat) : Prop where
  value : ∀ depth characters, Takes Value.IsJson (readValue fuel depth characters)
  items : ∀ depth characters,
    Takes (fun items => ∀ item ∈ items, item.IsJson) (readItems fuel depth characters)
  entries : ∀ depth characters,
    Takes (fun entries => ∀ entry ∈ entries, (∃ name, entry.1 = Value.text name) ∧ entry.2.IsJson)
      (readEntries fuel depth characters)

theorem TakesJson.value_succ {fuel : Nat} (takes : TakesJson fuel) (depth : Nat)
    (characters : List Char) : Takes Value.IsJson (readValue (fuel + 1) depth characters) := by
  unfold readValue
  split
  · exact (takes_anything _).bind fun read rest _ => .ok (.text _)
  · exact .error
  · exact .error
  · split
    · exact .ok (.list fun item member => absurd member List.not_mem_nil)
    · exact (takes.items _ _).bind fun items after each => .ok (.list each)
  · split
    · exact .ok (.dict (fun entry member => absurd member List.not_mem_nil)
        fun entry member => absurd member List.not_mem_nil)
    · refine (takes.entries _ _).bind fun entries after each => .ok ?_
      have all := Record.mem_overlay (fun key => ∃ name, key = Value.text name) Value.IsJson
        (fun entry member => absurd member List.not_mem_nil) each
      exact .dict (fun entry member => (all entry member).1)
        fun entry member => (all entry member).2
  · exact takes_readScalar _

theorem TakesJson.items_succ {fuel : Nat} (takes : TakesJson fuel) (depth : Nat)
    (characters : List Char) :
    Takes (fun items => ∀ item ∈ items, item.IsJson) (readItems (fuel + 1) depth characters) := by
  rw [readItems]
  refine (takes.value depth characters).bind fun item rest json => ?_
  dsimp only
  split
  · refine .ok ?_
    exact List.forall_mem_singleton.mpr json
  · refine (takes.items _ _).bind fun items after each => .ok ?_
    exact List.forall_mem_cons.mpr ⟨json, each⟩
  · exact .error

theorem TakesJson.entries_succ {fuel : Nat} (takes : TakesJson fuel) (depth : Nat)
    (characters : List Char) :
    Takes (fun entries => ∀ entry ∈ entries, (∃ name, entry.1 = Value.text name) ∧ entry.2.IsJson)
      (readEntries (fuel + 1) depth characters) := by
  unfold readEntries
  split
  · refine (takes_anything _).bind fun name rest _ => ?_
    dsimp only
    split
    · refine (takes.value _ _).bind fun value rest json => ?_
      dsimp only
      have entry : (∃ own, Value.text (String.ofList name) = .text own) ∧ value.IsJson :=
        ⟨⟨_, rfl⟩, json⟩
      split
      · refine .ok ?_
        exact List.forall_mem_singleton.mpr entry
      · refine (takes.entries _ _).bind fun entries after each => .ok ?_
        exact List.forall_mem_cons.mpr ⟨entry, each⟩
      · exact .error
    · exact .error
  · exact .error

theorem takesJson (fuel : Nat) : TakesJson fuel := by
  -- each reader calls the others with less fuel, so one induction serves all three
  induction fuel with
  | zero =>
    refine ⟨fun depth characters => ?_, fun depth characters => ?_, fun depth characters => ?_⟩
    · rw [readValue]
      exact .error
    · rw [readItems]
      exact .error
    · rw [readEntries]
      exact .error
  | succ fuel inductionHypothesis =>
    exact ⟨inductionHypothesis.value_succ, inductionHypothesis.items_succ,
      inductionHypothesis.entries_succ⟩

theorem isJson_of_readDocument {characters : List Char} {value : Value}
    (taken : readDocument characters = .ok value) : value.IsJson := by
  unfold readDocument at taken
  split at taken
  · cases taken
  · obtain ⟨⟨found, rest⟩, part, taken⟩ := ok_of_bind taken
    dsimp only at taken
    split at taken
    · cases taken
      exact (takesJson _).value _ _ _ _ part
    · cases taken

/-- What a text is read as is a value that JSON texts stand for. -/
theorem isJson_of_read {source : String} {value : Value} (taken : read source = .ok value) :
    value.IsJson := by
  unfold read at taken
  dsimp only at taken
  split at taken
  · rename_i found document
    cases taken
    exact isJson_of_readDocument document
  · cases taken

/-! ### What the writer refuses -/

/-- What a writer gives that refuses nothing but numbers that are not finite: a text where there are
none of them, and else their refusal. -/
inductive Judges (nonFinite : Prop) : Except WriteFault (List Char) → Prop where
  | text {text : List Char} (finite : ¬nonFinite) : Judges nonFinite (.ok text)
  | notFinite (holds : nonFinite) : Judges nonFinite (.error .notFinite)

theorem Judges.bind {part rest whole : Prop} {result : Except WriteFault (List Char)}
    {next : List Char → Except WriteFault (List Char)} (first : Judges part result)
    (splits : whole ↔ part ∨ rest) (goes : ∀ text, Judges rest (next text)) :
    Judges whole (result >>= next) := by
  cases first with
  | text finite =>
    have same : whole = rest := by rw [splits, or_iff_right finite]
    exact same ▸ goes _
  | notFinite holds => exact .notFinite (splits.mpr (.inl holds))

/-- What is added around a text does not change whether there is one. -/
theorem Judges.map {nonFinite whole : Prop} {result : Except WriteFault (List Char)}
    (judged : Judges nonFinite result) (same : whole ↔ nonFinite) (around : List Char → List Char) :
    Judges whole (result >>= fun text => .ok (around text)) := by
  cases judged with
  | text finite => exact .text (mt same.mp finite)
  | notFinite holds => exact .notFinite (same.mpr holds)

theorem judges_writeFloat (number : Binary64) :
    Judges (Value.float number).HoldsNonFinite (writeFloat number) := by
  rw [writeFloat]
  split
  · rename_i finite
    refine .text fun holds => ?_
    cases holds with
    | float nonFinite => exact Bool.false_ne_true (nonFinite.symm.trans finite)
  · rename_i nonFinite
    exact .notFinite (.float (Bool.eq_false_iff.mpr nonFinite))

theorem judges_writeItems {items : List Value}
    (each : ∀ item ∈ items, Judges item.HoldsNonFinite (write item)) :
    Judges (∃ item ∈ items, item.HoldsNonFinite) (writeItems items) := by
  induction items with
  | nil => exact .text (by simp)
  | cons item rest inductionHypothesis =>
    obtain ⟨here, later⟩ := List.forall_mem_cons.mp each
    have splits : (∃ other ∈ item :: rest, other.HoldsNonFinite) ↔
        item.HoldsNonFinite ∨ ∃ other ∈ rest, other.HoldsNonFinite := by
      simp only [List.mem_cons, exists_eq_or_imp]
    rw [writeItems]
    refine here.bind splits fun text => ?_
    exact (inductionHypothesis later).map Iff.rfl _

theorem judges_writeEntries {entries : List (Value × Value)}
    (named : ∀ entry ∈ entries, ∃ name, entry.1 = .text name)
    (each : ∀ entry ∈ entries, Judges entry.2.HoldsNonFinite (write entry.2)) :
    Judges (∃ entry ∈ entries, entry.2.HoldsNonFinite) (writeEntries entries) := by
  induction entries with
  | nil => exact .text (by simp)
  | cons entry rest inductionHypothesis =>
    obtain ⟨key, value⟩ := entry
    obtain ⟨⟨name, isName⟩, namedLater⟩ := List.forall_mem_cons.mp named
    obtain ⟨here, later⟩ := List.forall_mem_cons.mp each
    simp only at isName
    subst isName
    have splits : (∃ other ∈ (Value.text name, value) :: rest, other.2.HoldsNonFinite) ↔
        value.HoldsNonFinite ∨ ∃ other ∈ rest, other.2.HoldsNonFinite := by
      simp only [List.mem_cons, exists_eq_or_imp]
    rw [writeEntries]
    show Judges _ (write value >>= _)
    refine here.bind splits fun text => ?_
    exact (inductionHypothesis namedLater later).map Iff.rfl _

/-- The writer refuses a value that JSON texts stand for exactly if a number in it is not finite. -/
theorem judges_write {value : Value} (json : value.IsJson) :
    Judges value.HoldsNonFinite (write value) := by
  induction json with
  | null => exact .text nofun
  | bool truth => exact .text nofun
  | int number => exact .text nofun
  | float number => exact judges_writeFloat number
  | text characters => exact .text nofun
  | list each inductionHypothesis =>
    rw [write]
    refine (judges_writeItems inductionHypothesis).map ⟨fun holds => ?_, fun holds => ?_⟩ _
    · cases holds with
      | item member inside => exact ⟨_, member, inside⟩
    · obtain ⟨item, member, inside⟩ := holds
      exact .item member inside
  | dict named each inductionHypothesis =>
    rw [write]
    refine (judges_writeEntries named inductionHypothesis).map
      ⟨fun holds => ?_, fun holds => ?_⟩ _
    · cases holds with
      | entry member inside => exact ⟨_, member, inside⟩
    · obtain ⟨entry, member, inside⟩ := holds
      exact .entry member inside

/-- The reader has a word for what is not a number, and the writer does not take it. -/
example : (read "[1, NaN]").toOption.map (fun value => (write value).isOk) = some false := by
  decide +kernel

end Json

end TableGateway
