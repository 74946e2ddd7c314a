/-
This file says what becomes of a form that goes through the schema again. A form is
settled once each of its fields is declared, in its place, and has a value that the
field's formatter has made. A settled form is its own projection, except where an integer
field was given a member of a closed set: it holds the name of the member, and the second
projection refuses the name.
-/

import TableGateway.Proofs.StrictForm

namespace TableGateway

namespace Schema

/-- The entry has a value that the formatter of a declared field has made of something. -/
def Holds (fields : Entries FieldSpec) (entry : Value × Value) : Prop :=
  ∃ spec raw, (entry.1, spec) ∈ fields ∧ raw.isUndefined = false ∧
    spec.formatter.format raw = .ok entry.2 ∧ entry.2.isNaN = false

/-- The fields of a form are declared, in their order, and each has a value that the formatter of
the field has made of something. -/
structure IsSettled (fields : Entries FieldSpec) (form : Record) : Prop where
  ordered : form.keys.Sublist fields.keys
  held : ∀ entry ∈ form, Holds fields entry

variable {schema : Schema} {form : Record}

theorem isSettled_of_strictRecord {record : Record}
    (taken : schema.strictRecord record = .ok form) : IsSettled schema.fields form := by
  obtain ⟨ordered, each⟩ := formatFields_eq_ok taken
  refine ⟨ordered, fun entry member => ?_⟩
  obtain ⟨spec, raw, declared, -, present, formatted, isNumber⟩ := each entry member
  exact ⟨spec, raw, declared, present, formatted, isNumber⟩

theorem IsSettled.erase (settled : IsSettled schema.fields form) (key : Value) :
    IsSettled schema.fields (form.erase key) where
  ordered := (List.filter_sublist.map Prod.fst).trans settled.ordered
  held entry member := settled.held entry (List.mem_filter.mp member).1

theorem IsSettled.areDistinct (settled : IsSettled schema.fields form) :
    Entries.AreDistinct form := by
  rw [Entries.areDistinct_iff]
  exact ((Entries.areDistinct_iff _).mp schema.distinct).sublist settled.ordered

/-- The row of a settled form has its keys, which are distinct. -/
theorem IsSettled.areDistinct_toRow (settled : IsSettled schema.fields form) {row : Record}
    (dumped : schema.toRow form = .ok row) : Entries.AreDistinct row := by
  rw [Entries.areDistinct_iff, keys_toRow dumped, ← Entries.areDistinct_iff]
  exact settled.areDistinct

/-- What is held in a field other than the first is held in one of the others. -/
theorem Holds.of_cons {key : Value} {spec : FieldSpec} {rest : Entries FieldSpec}
    {entry : Value × Value} (holds : Holds ((key, spec) :: rest) entry) (other : entry.1 ≠ key) :
    Holds rest entry := by
  obtain ⟨own, raw, declared, facts⟩ := holds
  rcases List.mem_cons.mp declared with here | among
  · exact absurd (congrArg Prod.fst here) other
  · exact ⟨own, raw, among, facts⟩

/-- A settled form does not have the first field, or has it first. -/
theorem IsSettled.cons_cases {name : String} {spec : FieldSpec} {rest : Entries FieldSpec}
    (distinct : Entries.AreDistinct ((.text name, spec) :: rest))
    (settled : IsSettled ((.text name, spec) :: rest) form) :
    form.get? (.text name) = none ∧ IsSettled rest form ∨
      ∃ raw value others, form = (.text name, value) :: others ∧ IsSettled rest others ∧
        raw.isUndefined = false ∧ spec.formatter.format raw = .ok value ∧ value.isNaN = false := by
  have notLater := Entries.not_mem_keys_of_areDistinct distinct
  have heldLater {others : Record} (later : others.keys.Sublist rest.keys)
      (held : ∀ entry ∈ others, Holds ((.text name, spec) :: rest) entry) :
      IsSettled rest others := by
    refine ⟨later, fun entry member => (held entry member).of_cons fun isName => notLater ?_⟩
    exact isName ▸ later.subset (List.mem_map_of_mem member)
  rcases List.sublist_cons_iff.mp settled.ordered with skipped | ⟨keys, split, later⟩
  · refine .inl ⟨?_, heldLater skipped settled.held⟩
    cases found : form.named? name with
    | none => exact found
    | some value =>
      have member := skipped.subset (List.mem_map_of_mem (Entries.mem_of_named? found))
      exact absurd member notLater
  · obtain ⟨⟨own, value⟩, others, rfl, isName, rfl⟩ := List.map_eq_cons_iff.mp split
    simp only at isName
    subst isName
    obtain ⟨heldHere, heldOthers⟩ := List.forall_mem_cons.mp settled.held
    obtain ⟨other, raw, declared, present, formatted, isNumber⟩ := heldHere
    have sameSpec : other = spec := by
      rcases List.mem_cons.mp declared with here | among
      · exact congrArg Prod.snd here
      · exact absurd (List.mem_map_of_mem among) notLater
    subst sameSpec
    exact .inr ⟨raw, value, others, rfl, heldLater later heldOthers, present, formatted, isNumber⟩

/-- A field that a record does not have is skipped. -/
theorem formatFields_cons_of_absent {record : Record} {name : Value} {spec : FieldSpec}
    {rest : Entries FieldSpec} (missing : record.get? name = none) :
    formatFields record ((name, spec) :: rest) = formatFields record rest := by
  rw [formatFields, missing]
  rfl

/-- A field that has a value which its formatter leaves as it is comes first, with this value. -/
theorem formatFields_cons_of_kept {record : Record} {name value : Value} {spec : FieldSpec}
    {rest : Entries FieldSpec} (given : record.get? name = some value)
    (present : value.isUndefined = false) (isNumber : value.isNaN = false)
    (kept : spec.formatter.format value = .ok value) :
    formatFields record ((name, spec) :: rest) =
      formatFields record rest >>= fun others => .ok ((name, value) :: others) := by
  rw [formatFields, given, Option.getD_some, present, if_neg Bool.false_ne_true, kept]
  show (if value.isUndefined = true then _ else if value.isNaN = true then _ else _) = _
  rw [present, isNumber, if_neg Bool.false_ne_true, if_neg Bool.false_ne_true]
  rfl

/-- An integer field of a form holds a name. -/
def HoldsName (fields : Entries FieldSpec) (form : Record) : Prop :=
  ∃ entry ∈ form, ∃ spec name, (entry.1, spec) ∈ fields ∧ spec.formatter = .integer ∧
    entry.2 = .text name

theorem HoldsName.cons {fields : Entries FieldSpec} (holds : HoldsName fields form)
    (field : Value × FieldSpec) : HoldsName (field :: fields) form := by
  obtain ⟨entry, member, spec, name, declared, facts⟩ := holds
  exact ⟨entry, member, spec, name, List.mem_cons_of_mem _ declared, facts⟩

/-- A record that has for some fields what a settled form has, and nothing else, is projected to the
form, or refused for a name in an integer field. -/
theorem formatFields_of_isSettled {fields : Entries FieldSpec} {whole : Record}
    (distinct : fields.AreDistinct) (named : ∀ key ∈ fields.keys, ∃ name, key = Value.text name)
    (same : ∀ key ∈ fields.keys, whole.get? key = form.get? key)
    (settled : IsSettled fields form) :
    formatFields whole fields = .ok form ∨
      (∃ failure, formatFields whole fields = .error failure) ∧ HoldsName fields form := by
  induction fields generalizing form with
  | nil =>
    have empty : form = [] := List.map_eq_nil_iff.mp (List.sublist_nil.mp settled.ordered)
    exact .inl (empty ▸ rfl)
  | cons field rest inductionHypothesis =>
    obtain ⟨key, spec⟩ := field
    obtain ⟨apart, distinctRest⟩ := List.pairwise_cons.mp distinct
    obtain ⟨⟨name, isName⟩, namedRest⟩ := List.forall_mem_cons.mp named
    obtain ⟨sameHere, sameRest⟩ := List.forall_mem_cons.mp same
    simp only at isName sameHere
    subst isName
    rcases settled.cons_cases distinct with ⟨missing, later⟩ |
      ⟨raw, value, others, rfl, later, present, formatted, isNumber⟩
    · rw [formatFields_cons_of_absent (sameHere.trans missing)]
      rcases inductionHypothesis distinctRest namedRest sameRest later with
        kept | ⟨refused, holds⟩
      · exact .inl kept
      · exact .inr ⟨refused, holds.cons _⟩
    have given : whole.get? (.text name) = some value :=
      sameHere.trans (Entries.named?_cons_self name value others)
    have somePresent := Formatter.isUndefined_format present formatted
    rcases Formatter.format_held formatted with
      kept | ⟨isInteger, ⟨member, -, isText⟩, failure, refused⟩
    · -- past its first field, the form has what the others have
      have sameLater : ∀ key ∈ Entries.keys rest, whole.get? key = Entries.get? others key := by
        intro key member
        obtain ⟨field, among, rfl⟩ := List.mem_map.mp member
        rw [sameRest _ member, Entries.get?, apart field among, if_neg Bool.false_ne_true]
      rw [formatFields_cons_of_kept given somePresent isNumber kept]
      rcases inductionHypothesis distinctRest namedRest sameLater later with
        keptLater | ⟨⟨failure, refused⟩, holds⟩
      · rw [keptLater]
        exact .inl rfl
      · rw [refused]
        obtain ⟨entry, among, facts⟩ := holds.cons (.text name, spec)
        exact .inr ⟨⟨failure, rfl⟩, entry, List.mem_cons_of_mem _ among, facts⟩
    · refine .inr ⟨⟨failure, ?_⟩, _, List.mem_cons_self, spec, member, List.mem_cons_self,
        isInteger, isText⟩
      rw [formatFields, given, Option.getD_some, somePresent, if_neg Bool.false_ne_true, refused]
      rfl

/-- A settled form that is projected again has no name in an integer field. -/
theorem not_holdsName_of_strictRecord {again : Record}
    (named : ∀ key ∈ schema.fieldNames, ∃ name, key = Value.text name)
    (settled : IsSettled schema.fields form) (taken : schema.strictRecord form = .ok again) :
    ¬HoldsName schema.fields form := by
  rintro ⟨⟨key, value⟩, member, spec, name, declared, isInteger, isText⟩
  simp only at isText declared
  subst isText
  obtain ⟨own, raw, among, present, formatted, -⟩ := settled.held _ member
  obtain ⟨column, isName⟩ := named key (List.mem_map_of_mem declared)
  subst isName
  have sameSpec : own = spec := Option.some.inj
    ((Entries.named?_of_mem schema.distinct among).symm.trans
      (Entries.named?_of_mem schema.distinct declared))
  rw [sameSpec, isInteger] at formatted
  obtain ⟨held, twice, -⟩ :=
    mem_of_formatFields taken declared (Entries.named?_of_mem settled.areDistinct member) rfl
  rw [isInteger] at twice
  rw [Formatter.format_format formatted twice] at twice
  have converted : Formatter.convertInteger (.text name) = .ok (.text name) := twice
  rcases Formatter.convertInteger_eq_ok converted with ⟨number, same⟩ | ⟨other, isMember, -⟩
  · cases same
  · cases isMember

/-- A settled form is its own projection, unless an integer field holds a name: then it is
refused. -/
theorem strictRecord_of_isSettled
    (named : ∀ key ∈ schema.fieldNames, ∃ name, key = Value.text name)
    (settled : IsSettled schema.fields form) :
    schema.strictRecord form = .ok form ∧ ¬HoldsName schema.fields form ∨
      (∃ failure, schema.strictRecord form = .error failure) ∧ HoldsName schema.fields form := by
  rcases formatFields_of_isSettled schema.distinct named (fun _ _ => rfl) settled with
    kept | refused
  · exact .inl ⟨kept, not_holdsName_of_strictRecord named settled kept⟩
  · exact .inr refused

end Schema

end TableGateway
