/-
This file says what becomes of records that are to be written together. Their forms are
put together if there is at least one, with at least one field, and all have the fields of
the first, in whatever order; otherwise they are refused. Put together, the values of all
forms come row by row, and in each row in the order of the first form's fields.
-/

import TableGateway.Proofs.Compilation
import TableGateway.Proofs.Entries
import TableGateway.Proofs.Refusal
import TableGateway.Proofs.StrictForm

namespace TableGateway

/-! ### Rows one after another -/

/-- In rows of one width, one after another, each value stands at the place that its row and its
column give it. -/
theorem getElem?_flatten_of_width {Content : Type} {rows : List (List Content)} {width : Nat}
    (even : ∀ row ∈ rows, row.length = width) {row column : Nat} (within : column < width) :
    rows.flatten[row * width + column]? = rows[row]?.bind (·[column]?) := by
  induction rows generalizing row with
  | nil => rfl
  | cons first rest inductionHypothesis =>
    obtain ⟨evenHere, evenLater⟩ := List.forall_mem_cons.mp even
    rw [List.flatten_cons]
    cases row with
    | zero =>
      rw [Nat.zero_mul, Nat.zero_add, List.getElem?_append_left (evenHere ▸ within)]
      rfl
    | succ row =>
      have later : (row + 1) * width + column - first.length = row * width + column := by
        rw [evenHere, Nat.succ_mul]
        omega
      have past : first.length ≤ (row + 1) * width + column := by
        rw [evenHere, Nat.succ_mul]
        omega
      rw [List.getElem?_append_right past, later, inductionHypothesis evenLater]
      rfl

theorem length_flatten_of_width {Content : Type} {rows : List (List Content)} {width : Nat}
    (even : ∀ row ∈ rows, row.length = width) : rows.flatten.length = rows.length * width := by
  rw [List.length_flatten, List.map_congr_left even, List.map_const', List.sum_replicate_nat]

namespace Endpoint

variable {keys : List Value} {records : List Record}

theorem length_of_mem_valuesUnder :
    ∀ row ∈ valuesUnder keys records, row.length = keys.length := by
  intro row member
  obtain ⟨record, _, rfl⟩ := List.mem_map.mp member
  exact List.length_map _

/-- Values that are taken row by row stand at the place of their record and their key. -/
theorem getElem?_flatten_valuesUnder {row column : Nat} {record : Record} {key : Value}
    (recordAt : records[row]? = some record) (keyAt : keys[column]? = some key) :
    (valuesUnder keys records).flatten[row * keys.length + column]? =
      some ((record.get? key).getD .null) := by
  obtain ⟨within, _⟩ := List.getElem?_eq_some_iff.mp keyAt
  rw [getElem?_flatten_of_width length_of_mem_valuesUnder within, valuesUnder, List.getElem?_map,
    recordAt]
  show (keys.map fun key => (record.get? key).getD .null)[column]? = _
  rw [List.getElem?_map, keyAt, Option.map_some]

end Endpoint

/-! ### Keys that are texts -/

/-- Keys that are texts. -/
def AreTexts (keys : List Value) : Prop :=
  ∀ key ∈ keys, ∃ name, key = Value.text name

theorem areTexts_map (names : List String) : AreTexts (names.map Value.text) := by
  intro key member
  obtain ⟨name, _, rfl⟩ := List.mem_map.mp member
  exact ⟨name, rfl⟩

/-- Texts have an order. -/
theorem exists_sortedKeys {keys : List Value} (texts : AreTexts keys) :
    ∃ sorted, sortedKeys keys = .ok sorted := by
  have ordered : Value.areOrdered keys = true := by
    induction keys with
    | nil => rfl
    | cons key rest inductionHypothesis =>
      obtain ⟨⟨name, rfl⟩, textsRest⟩ := List.forall_mem_cons.mp texts
      rw [Value.areOrdered, inductionHypothesis textsRest, Bool.and_true, List.all_eq_true]
      intro other member
      obtain ⟨name', rfl⟩ := textsRest other member
      rfl
  exact ⟨_, by rw [sortedKeys, Value.sorted?, if_pos ordered]; rfl⟩

theorem any_equal_text_iff {keys : List Value} {name : String} :
    (keys.any fun key => key.equal (.text name)) = true ↔ .text name ∈ keys := by
  simp [List.any_eq_true, Value.equal_text_iff]

/-- Of texts, the same keys are the same members. -/
theorem sameKeys_iff {first second : List Value} (texts : AreTexts first)
    (textsToo : AreTexts second) :
    sameKeys first second = true ↔ ∀ key, key ∈ first ↔ key ∈ second := by
  rw [sameKeys, Bool.and_eq_true, List.all_eq_true, List.all_eq_true]
  constructor
  · rintro ⟨forth, back⟩ key
    constructor
    · intro member
      obtain ⟨name, rfl⟩ := texts key member
      exact any_equal_text_iff.mp (forth _ member)
    · intro member
      obtain ⟨name, rfl⟩ := textsToo key member
      exact any_equal_text_iff.mp (back _ member)
  · intro same
    constructor
    · intro key member
      obtain ⟨name, rfl⟩ := texts key member
      exact any_equal_text_iff.mpr ((same _).mp member)
    · intro key member
      obtain ⟨name, rfl⟩ := textsToo key member
      exact any_equal_text_iff.mpr ((same _).mpr member)

namespace Gateway

variable {gateway : Gateway}

/-! ### Forms -/

/-- The form of a record whose keys are texts has texts for keys. -/
theorem areTexts_formOf {item : Value} {strict : Bool} {form : Record}
    (texts : ∀ record, item.toRecord = .ok record → AreTexts record.keys)
    (written : gateway.formOf item strict = .ok form) : AreTexts form.keys := by
  obtain ⟨record, offered, written⟩ := ok_of_bind written
  cases strict with
  | false =>
    cases written
    exact texts _ offered
  | true =>
    obtain ⟨projected, taken, dumped⟩ := ok_of_bind written
    rw [Schema.keys_toRow dumped]
    intro key member
    obtain ⟨⟨own, held⟩, among, rfl⟩ := List.mem_map.mp member
    obtain ⟨spec, raw, -, given, -⟩ := (Schema.formatFields_eq_ok taken).2 _ among
    obtain ⟨other, equal, otherIn⟩ := Entries.exists_mem_of_get? given
    obtain ⟨name, rfl⟩ := texts record offered other (List.mem_map_of_mem otherIn)
    exact ⟨name, (Value.text_equal_iff name own).mp equal⟩

/-- The forms of some records can be put together: there is one, it has a field, and the others have
the same fields. -/
def SharesFields : List Record → Prop
  | [] => False
  | first :: rest => first ≠ [] ∧ ∀ form ∈ rest, ∀ key, key ∈ form.keys ↔ key ∈ first.keys

/-- The fields of the first of some forms. -/
def firstFields : List Record → List Value
  | [] => []
  | first :: _ => first.keys

/-- Forms put together, or refused. -/
def gathered (model : Value) (write : BulkWrite) (forms : List Record) :
    Except Failure (List Value × List Record) :=
  match forms with
  | [] => refuse (.noRecords model write)
  | first :: rest =>
    if first.isEmpty then refuse (.noFields model write)
    else do
      checkFields model write first.keys rest
      return (first.keys, first :: rest)

/-- Where all forms have texts for keys, the check of their fields passes if they are the same, and
refuses if not. -/
theorem checkFields_cases (model : Value) (write : BulkWrite) {fields : List Value}
    (texts : AreTexts fields) {forms : List Record}
    (textsToo : ∀ form ∈ forms, AreTexts (Entries.keys form)) :
    (∀ form ∈ forms, ∀ key, key ∈ Entries.keys form ↔ key ∈ fields) ∧
        checkFields model write fields forms = .ok () ∨
      ¬(∀ form ∈ forms, ∀ key, key ∈ Entries.keys form ↔ key ∈ fields) ∧
        ∃ fault, checkFields model write fields forms = .error (.invalid fault) := by
  induction forms with
  | nil => exact .inl ⟨by simp, rfl⟩
  | cons form rest inductionHypothesis =>
    obtain ⟨textsHere, textsLater⟩ := List.forall_mem_cons.mp textsToo
    rw [checkFields, List.forall_mem_cons]
    by_cases same : sameKeys form.keys fields = true
    · have sameMembers := (sameKeys_iff textsHere texts).mp same
      rw [if_pos same]
      rcases inductionHypothesis textsLater with ⟨shared, passed⟩ | ⟨apart, refused⟩
      · exact .inl ⟨⟨sameMembers, shared⟩, passed⟩
      · exact .inr ⟨fun shared => apart shared.2, refused⟩
    · obtain ⟨own, sortedOwn⟩ := exists_sortedKeys textsHere
      obtain ⟨others, sortedOthers⟩ := exists_sortedKeys texts
      rw [if_neg same, sortedOwn, sortedOthers]
      exact .inr ⟨fun shared => same ((sameKeys_iff textsHere texts).mpr shared.1), _, rfl⟩

/-- Forms with texts for keys are put together if they share their fields, and refused if not. -/
theorem gathered_cases (model : Value) (write : BulkWrite) {forms : List Record}
    (texts : ∀ form ∈ forms, AreTexts (Entries.keys form)) :
    SharesFields forms ∧ gathered model write forms = .ok (firstFields forms, forms) ∨
      ¬SharesFields forms ∧ ∃ fault, gathered model write forms = .error (.invalid fault) := by
  cases forms with
  | nil => exact .inr ⟨id, _, rfl⟩
  | cons first rest =>
    obtain ⟨textsHere, textsLater⟩ := List.forall_mem_cons.mp texts
    rw [gathered]
    cases first with
    | nil => exact .inr ⟨fun shares => shares.1 rfl, _, rfl⟩
    | cons entry others =>
      rw [List.isEmpty_cons, if_neg Bool.false_ne_true]
      rcases checkFields_cases model write textsHere textsLater with
        ⟨shared, passed⟩ | ⟨apart, fault, refused⟩
      · rw [passed]
        exact .inl ⟨⟨List.cons_ne_nil _ _, shared⟩, rfl⟩
      · rw [refused]
        exact .inr ⟨fun shares => apart shares.2, fault, rfl⟩

/-! ### From records to forms -/

/-- The forms of some records put together, once all has been checked. -/
def bulkOf (gateway : Gateway) (items : List Value) (strict : Bool) (write : BulkWrite) :
    Except Failure (List Value × List Record) := do
  gathered gateway.model write (← items.mapM fun item => gateway.formOf item strict)

theorem silent_writeForms (gateway : Gateway) (strict : Bool) (items : List Value) :
    (gateway.writeForms strict items).silent =
      Plan.ofExcept (items.mapM fun item => gateway.formOf item strict) := by
  induction items with
  | nil => rfl
  | cons item rest inductionHypothesis =>
    rw [writeForms, Plan.silent_bind, silent_writeForm, List.mapM_cons, Plan.ofExcept_bind]
    refine bind_congr fun form => ?_
    rw [Plan.silent_bind, inductionHypothesis, Plan.ofExcept_bind]
    rfl

/-- Putting together what a list or a tuple holds says what the forms say, and no more. -/
theorem silent_bulkForms {records : Value} {items : List Value}
    (listed : records = .list items ∨ records = .tuple items) (strict : Bool)
    (write : BulkWrite) :
    (gateway.bulkForms records strict write).silent =
      Plan.ofExcept (gateway.bulkOf items strict write) := by
  have taken : gateway.bulkForms records strict write =
      if items.isEmpty then Plan.refuse (.noRecords gateway.model write)
      else gateway.writeForms strict items >>= fun forms =>
        match forms with
        | [] => Plan.refuse (.noRecords gateway.model write)
        | first :: rest =>
          if first.isEmpty then Plan.refuse (.noFields gateway.model write)
          else do
            Plan.ofExcept (checkFields gateway.model write first.keys rest)
            return (first.keys, first :: rest) := by
    rcases listed with rfl | rfl <;> rfl
  rw [taken]
  split
  · rename_i empty
    rw [List.isEmpty_iff.mp empty]
    rfl
  · rw [Plan.silent_bind, silent_writeForms, bulkOf, Plan.ofExcept_bind]
    refine bind_congr fun forms => ?_
    unfold gathered
    split
    · rfl
    · split
      · rfl
      · rw [Plan.silent_bind, Plan.silent_ofExcept, Plan.ofExcept_bind]
        rfl

end Gateway

end TableGateway
