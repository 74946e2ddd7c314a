/-
This file says what becomes of a value on its way into a comparison of records. A value
that was given holds no copies made for the moment. Mappings, models, and objects that
offer their fields in an older way or as attributes hand out what they hold; only objects
with declared fields, and the orderings and field specifications that are such objects,
hand out copies. A formatter makes copies of nothing.
-/

import TableGateway.Proofs.Entries
import TableGateway.Proofs.EqualValues
import TableGateway.Proofs.Idempotence
import TableGateway.Value.Fields

namespace TableGateway

namespace Value

/-! ### Given values -/

/-- The values right inside a value, whether they are compared or not. -/
def contents : Value → List Value
  | .list items => items
  | .tuple items => items
  | .set items => items
  | .frozenSet items => items
  | .dict entries => entries.map Prod.fst ++ entries.map Prod.snd
  | .order key descending => [key, descending]
  | .fieldSpec chosen identity default => [.formatter chosen identity, default]
  | .record _ fields => fields.map fun field => field.2.2
  | _ => []

/-- A value that was given: nothing in it is a copy made for the moment. -/
def IsGiven (value : Value) : Prop :=
  Throughout contents (fun part => part.identity? ≠ some .fresh) value

theorem IsGiven.inside {value part : Value} (given : value.IsGiven)
    (member : part ∈ value.contents) : part.IsGiven := by
  obtain ⟨-, each⟩ := given
  exact each part member

theorem isGiven_text (characters : String) : (text characters).IsGiven :=
  .made nofun nofun

theorem dumpedItems_eq (items : List Value) : dumpedItems items = items.map dumped := by
  induction items with
  | nil => rfl
  | cons item rest inductionHypothesis => rw [dumpedItems, inductionHypothesis, List.map_cons]

theorem dumpedEntries_eq (entries : List (Value × Value)) :
    dumpedEntries entries = entries.map fun entry => (entry.1, entry.2.dumped) := by
  induction entries with
  | nil => rfl
  | cons entry rest inductionHypothesis => rw [dumpedEntries, inductionHypothesis, List.map_cons]

theorem dumpedFields_eq (fields : List (String × Option String × Value)) :
    dumpedFields fields =
      fields.map fun field => (.text (field.2.1.getD field.1), field.2.2.dumped) := by
  induction fields with
  | nil => rfl
  | cons field rest inductionHypothesis => rw [dumpedFields, inductionHypothesis, List.map_cons]

/-- A mapping is given if its keys and values are. -/
theorem isGiven_dict {entries : List (Value × Value)}
    (each : ∀ entry ∈ entries, entry.1.IsGiven ∧ entry.2.IsGiven) : (dict entries).IsGiven := by
  refine .made nofun fun part member => ?_
  rcases List.mem_append.mp member with isKey | isValue
  · obtain ⟨entry, among, rfl⟩ := List.mem_map.mp isKey
    exact (each entry among).1
  · obtain ⟨entry, among, rfl⟩ := List.mem_map.mp isValue
    exact (each entry among).2

/-- What a model hands out of a given value is the value, or taken apart. -/
theorem IsGiven.dumped {value : Value} (given : value.IsGiven) : value.dumped.IsGiven := by
  induction given with
  | @made value here each inductionHypothesis =>
    have whole : IsGiven value := .made here each
    have ofItems {items : List Value} (isInside : ∀ item ∈ items, item ∈ value.contents) :
        ∀ part ∈ dumpedItems items, part.IsGiven := by
      rw [dumpedItems_eq]
      exact List.forall_mem_map.mpr fun item member =>
        inductionHypothesis item (isInside item member)
    have ofFields {fields : List (String × Option String × Value)}
        (isInside : ∀ field ∈ fields, field.2.2 ∈ value.contents) :
        (dict (dumpedFields fields)).IsGiven := by
      rw [dumpedFields_eq]
      exact isGiven_dict (List.forall_mem_map.mpr fun field member =>
        ⟨isGiven_text _, inductionHypothesis _ (isInside field member)⟩)
    cases value with
    | list items => exact .made nofun (ofItems fun _ member => member)
    | tuple items => exact .made nofun (ofItems fun _ member => member)
    | dict entries =>
      rw [Value.dumped, dumpedEntries_eq]
      refine isGiven_dict (List.forall_mem_map.mpr fun entry member => ?_)
      have isKey : entry.1 ∈ entries.map Prod.fst := List.mem_map_of_mem member
      have isValue : entry.2 ∈ entries.map Prod.snd := List.mem_map_of_mem member
      exact ⟨each _ (List.mem_append_left _ isKey),
        inductionHypothesis _ (List.mem_append_right _ isValue)⟩
    | order key descending =>
      refine isGiven_dict (List.forall_mem_cons.mpr ⟨⟨isGiven_text _, ?_⟩,
        List.forall_mem_cons.mpr ⟨⟨isGiven_text _, ?_⟩, nofun⟩⟩)
      · exact inductionHypothesis key List.mem_cons_self
      · exact inductionHypothesis descending (List.mem_cons_of_mem _ List.mem_cons_self)
    | fieldSpec chosen identity default =>
      refine isGiven_dict (List.forall_mem_cons.mpr ⟨⟨isGiven_text _, ?_⟩,
        List.forall_mem_cons.mpr ⟨⟨isGiven_text _, ?_⟩, nofun⟩⟩)
      · exact each _ List.mem_cons_self
      · exact inductionHypothesis default (List.mem_cons_of_mem _ List.mem_cons_self)
    | record shape fields =>
      have isInside : ∀ field ∈ fields, field.2.2 ∈ (record shape fields).contents :=
        fun _ member => List.mem_map_of_mem member
      cases shape with
      | declared => exact ofFields isInside
      | model => exact ofFields isInside
      | _ => exact whole
    | _ => exact whole

/-- Whether a value hands out copies of what it holds. -/
def isCopiedOut : Value → Bool
  | .order .. => true
  | .fieldSpec .. => true
  | .record .declared _ => true
  | _ => false

/-- What holds of the values of some pairs holds of those of their record. -/
theorem forall_mem_ofPairs {kind : Value → Prop} {pairs : List (Value × Value)}
    (each : ∀ pair ∈ pairs, kind pair.2) : ∀ entry ∈ Record.ofPairs pairs, kind entry.2 := by
  intro entry member
  have before : ∀ entry ∈ ([] : Record), True ∧ kind entry.2 := fun _ among => nomatch among
  exact (Record.mem_overlay (fun _ => True) kind before
    (fun pair among => ⟨trivial, each pair among⟩) entry member).2

/-- A given value that does not hand out copies offers a record of given values. -/
theorem IsGiven.toRecord {value : Value} {record : Record} (given : value.IsGiven)
    (asHeld : value.isCopiedOut = false) (offers : value.toRecord = .ok record) :
    ∀ entry ∈ record, entry.2.IsGiven := by
  have fieldGiven {shape : RecordShape} {fields : List (String × Option String × Value)}
      (isRecord : value = .record shape fields) : ∀ field ∈ fields, field.2.2.IsGiven := by
    rintro field member
    subst isRecord
    exact given.inside (List.mem_map_of_mem member)
  cases value with
  | null =>
    cases offers
    nofun
  | undefined =>
    cases offers
    nofun
  | dict entries =>
    cases offers
    exact fun entry member => given.inside (List.mem_append_right _ (List.mem_map_of_mem member))
  | formatter chosen identity =>
    cases chosen with
    | string strip =>
      cases offers
      exact List.forall_mem_cons.mpr ⟨.made nofun nofun, nofun⟩
    | _ =>
      cases offers
      nofun
  | kind chosen =>
    cases offers
    nofun
  | operator chosen =>
    cases offers
    nofun
  | typeName name =>
    cases offers
    nofun
  | order key descending => cases asHeld
  | fieldSpec chosen identity default => cases asHeld
  | record shape fields =>
    have each := fieldGiven rfl
    cases shape with
    | declared => cases asHeld
    | model =>
      cases offers
      rw [dumpedFields_eq]
      exact forall_mem_ofPairs (List.forall_mem_map.mpr fun field member =>
        (each field member).dumped)
    | dictionary identity =>
      cases offers
      exact forall_mem_ofPairs (List.forall_mem_map.mpr each)
    | attributes identity =>
      rw [Value.toRecord, attributesRecord] at offers
      split at offers
      · cases offers
      · cases offers
        refine forall_mem_ofPairs (List.forall_mem_map.mpr fun field member => ?_)
        exact each field (List.mem_of_mem_filter member)
  | _ => cases offers

/-! ### Copies handed out -/

section

variable {holds : Value → Prop}

mutual
/-- What holds of every value holds throughout each, so that values can be gone through by what is
compared of them. -/
theorem throughout_of_forall (each : ∀ value, holds value) (value : Value) :
    Throughout parts holds value := by
  refine .made (each value) ?_
  cases value with
  | list items => exact throughoutItems_of_forall each items
  | tuple items => exact throughoutItems_of_forall each items
  | set items => exact throughoutItems_of_forall each items
  | frozenSet items => exact throughoutItems_of_forall each items
  | dict entries => exact throughoutEntries_of_forall each entries
  | order key descending =>
    exact List.forall_mem_cons.mpr ⟨throughout_of_forall each key,
      List.forall_mem_cons.mpr ⟨throughout_of_forall each descending, nofun⟩⟩
  | fieldSpec chosen identity default =>
    exact List.forall_mem_cons.mpr ⟨.made (each _) nofun,
      List.forall_mem_cons.mpr ⟨throughout_of_forall each default, nofun⟩⟩
  | record shape fields =>
    cases shape
    case declared | model => exact List.forall_mem_map.mpr (throughoutFields_of_forall each fields)
    case dictionary | attributes => exact nofun
  | _ => exact nofun
termination_by structural value

theorem throughoutItems_of_forall (each : ∀ value, holds value) (items : List Value) :
    ∀ item ∈ items, Throughout parts holds item := by
  cases items with
  | nil => exact nofun
  | cons item rest =>
    exact List.forall_mem_cons.mpr ⟨throughout_of_forall each item,
      throughoutItems_of_forall each rest⟩
termination_by structural items

theorem throughoutEntries_of_forall (each : ∀ value, holds value)
    (entries : List (Value × Value)) : ∀ part ∈ entries.map pair, Throughout parts holds part := by
  cases entries with
  | nil => exact nofun
  | cons entry rest =>
    obtain ⟨key, value⟩ := entry
    have here : Throughout parts holds (pair (key, value)) :=
      .made (each _) (List.forall_mem_cons.mpr ⟨throughout_of_forall each key,
        List.forall_mem_cons.mpr ⟨throughout_of_forall each value, nofun⟩⟩)
    exact List.forall_mem_cons.mpr ⟨here, throughoutEntries_of_forall each rest⟩
termination_by structural entries

theorem throughoutFields_of_forall (each : ∀ value, holds value)
    (fields : List (String × Option String × Value)) :
    ∀ field ∈ fields, Throughout parts holds field.2.2 := by
  cases fields with
  | nil => exact nofun
  | cons field rest =>
    obtain ⟨name, other, value⟩ := field
    exact List.forall_mem_cons.mpr ⟨throughout_of_forall each value,
      throughoutFields_of_forall each rest⟩
termination_by structural fields
end

end

end Value

/-! ### Formatting -/

namespace Formatter

section

variable {holds : Value → Prop} (leaves : ∀ value : Value, value.identity? = none → holds value)

include leaves

end

variable {formatter : Formatter} {raw held : Value}

end Formatter

end TableGateway
