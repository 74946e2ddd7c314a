/-
This file collects the laws of entries: what a name has after something was put or taken
out, which keys there are, and what can be said where no two keys are equal.
-/

import TableGateway.Record

namespace TableGateway

/-- Only a text is equal to a text. -/
theorem Value.text_equal_iff (name : String) (value : Value) :
    (Value.text name).equal value = true ↔ value = .text name := by
  cases value with
  | text characters =>
    simp only [Value.equal, Value.same, Value.sameLeaf, Value.magnitude?, beq_iff_eq,
      Value.text.injEq]
    exact eq_comm
  | float number =>
    cases number <;> simp [Value.equal, Value.same, Value.sameLeaf, Value.magnitude?]
  | decimal number =>
    cases number <;>
      simp [Value.equal, Value.same, Value.sameLeaf, Value.magnitude?, Number.Decimal.ratio?]
  | _ => simp [Value.equal, Value.same, Value.sameLeaf, Value.magnitude?]

theorem Value.text_equal_self (name : String) : (Value.text name).equal (.text name) = true :=
  (Value.equal_text_iff (.text name) name).mpr rfl

namespace Entries

variable {Content : Type}

/-! ### What a name has -/

@[simp] theorem named?_cons_self (name : String) (content : Content) (rest : Entries Content) :
    Entries.named? ((.text name, content) :: rest) name = some content :=
  if_pos (Value.text_equal_self name)

theorem named?_cons_of_ne {own : Value} {name : String} (other : own ≠ .text name)
    (content : Content) (rest : Entries Content) :
    Entries.named? ((own, content) :: rest) name = rest.named? name :=
  if_neg fun same => other ((Value.equal_text_iff own name).mp same)

/-- What a name has after something was put under a key. -/
theorem named?_put_key (entries : Entries Content) (key : Value) (content : Content)
    (name : String) :
    (entries.put key content).named? name =
      if key.equal (.text name) then some content else entries.named? name := by
  by_cases about : key.equal (.text name) = true
  · rw [(Value.equal_text_iff key name).mp about, Entries.named?_put, if_pos]
    exact Value.text_equal_self name
  · rw [if_neg about]
    induction entries with
    | nil => simp [put, named?, get?, about]
    | cons entry rest inductionHypothesis =>
      obtain ⟨own, old⟩ := entry
      simp only [named?] at inductionHypothesis ⊢
      by_cases same : own.equal key = true
      · have other : ¬own.equal (.text name) = true := by
          intro isName
          rw [(Value.equal_text_iff own name).mp isName] at same
          rw [(Value.text_equal_iff name key).mp same] at about
          exact about (Value.text_equal_self name)
        simp only [put, if_pos same, get?, if_neg other]
      · simp only [put, if_neg same, get?, inductionHypothesis]

variable {entries : Entries Content} {name : String} {content : Content}

/-- What a name has stands under it. -/
theorem mem_of_named? (found : entries.named? name = some content) :
    (Value.text name, content) ∈ entries := by
  induction entries with
  | nil => cases found
  | cons entry rest inductionHypothesis =>
    obtain ⟨own, old⟩ := entry
    by_cases same : own = .text name
    · subst same
      rw [named?_cons_self] at found
      cases found
      exact List.mem_cons_self
    · rw [named?_cons_of_ne same] at found
      exact List.mem_cons_of_mem _ (inductionHypothesis found)

/-- What is found under a key stands under one that is equal to it. -/
theorem exists_mem_of_get? {key : Value} (found : entries.get? key = some content) :
    ∃ own, own.equal key = true ∧ (own, content) ∈ entries := by
  induction entries with
  | nil => cases found
  | cons entry rest inductionHypothesis =>
    obtain ⟨own, old⟩ := entry
    rw [get?] at found
    split at found
    · rename_i same
      cases found
      exact ⟨own, same, List.mem_cons_self⟩
    · obtain ⟨other, equal, member⟩ := inductionHypothesis found
      exact ⟨other, equal, List.mem_cons_of_mem _ member⟩

/-- Nothing is found under a key that no key equals. -/
theorem get?_eq_none {key : Value} (missing : ∀ own ∈ entries.keys, own.equal key = false) :
    entries.get? key = none := by
  induction entries with
  | nil => rfl
  | cons entry rest inductionHypothesis =>
    obtain ⟨own, old⟩ := entry
    obtain ⟨other, others⟩ := List.forall_mem_cons.mp missing
    rw [get?, other, if_neg Bool.false_ne_true, inductionHypothesis others]

/-- A name that is among the keys has something. -/
theorem exists_named? (present : Value.text name ∈ entries.keys) :
    ∃ content, entries.named? name = some content := by
  induction entries with
  | nil => cases present
  | cons entry rest inductionHypothesis =>
    obtain ⟨own, old⟩ := entry
    by_cases same : own = .text name
    · subst same
      exact ⟨old, named?_cons_self name old rest⟩
    · rw [named?_cons_of_ne same]
      exact inductionHypothesis ((List.mem_cons.mp present).resolve_left (Ne.symm same))

/-- What a name has where a key is taken out, it has. -/
theorem named?_of_erase {key : Value} (found : (entries.erase key).named? name = some content) :
    entries.named? name = some content := by
  induction entries with
  | nil => cases found
  | cons entry rest inductionHypothesis =>
    obtain ⟨own, old⟩ := entry
    have kept := (List.mem_filter.mp (mem_of_named? found)).2
    rw [erase, List.filter_cons] at found
    by_cases same : own = .text name
    · subst same
      rw [if_pos kept, named?_cons_self] at found
      rw [named?_cons_self, found]
    · rw [named?_cons_of_ne same]
      refine inductionHypothesis ?_
      split at found
      · rwa [named?_cons_of_ne same] at found
      · exact found

@[simp] theorem named?_erase_self (entries : Entries Content) (name : String) :
    (entries.erase (.text name)).named? name = none := by
  refine get?_eq_none fun own member => ?_
  obtain ⟨entry, kept, rfl⟩ := List.mem_map.mp member
  exact Bool.not_eq_true' _ ▸ (List.mem_filter.mp kept).2

theorem named?_erase_of_ne {other : String} (different : other ≠ name)
    (entries : Entries Content) :
    (entries.erase (.text name)).named? other = entries.named? other := by
  induction entries with
  | nil => rfl
  | cons entry rest inductionHypothesis =>
    obtain ⟨own, old⟩ := entry
    rw [erase, List.filter_cons]
    by_cases same : own = .text other
    · subst same
      have apart : ¬(Value.text other).equal (.text name) = true := fun equal =>
        different (Value.text.inj ((Value.equal_text_iff _ name).mp equal))
      rw [if_pos ((Bool.not_eq_true' _).mpr (Bool.eq_false_iff.mpr apart)), named?_cons_self,
        named?_cons_self]
    · rw [named?_cons_of_ne same]
      split
      · rw [named?_cons_of_ne same]
        exact inductionHypothesis
      · exact inductionHypothesis

/-- An entry after something was put is one from before, or has what was put: under the key it was
put under, or under one that was there. -/
theorem mem_put {key : Value} {entry : Value × Content} (member : entry ∈ entries.put key content) :
    entry ∈ entries ∨ entry.2 = content ∧ (entry.1 = key ∨ entry.1 ∈ entries.keys) := by
  induction entries with
  | nil =>
    obtain rfl := List.mem_singleton.mp member
    exact .inr ⟨rfl, .inl rfl⟩
  | cons first rest inductionHypothesis =>
    obtain ⟨own, old⟩ := first
    rw [put] at member
    split at member
    · rcases List.mem_cons.mp member with rfl | later
      · exact .inr ⟨rfl, .inr List.mem_cons_self⟩
      · exact .inl (List.mem_cons_of_mem _ later)
    · rcases List.mem_cons.mp member with rfl | later
      · exact .inl List.mem_cons_self
      · rcases inductionHypothesis later with old | ⟨put, here | among⟩
        · exact .inl (List.mem_cons_of_mem _ old)
        · exact .inr ⟨put, .inl here⟩
        · exact .inr ⟨put, .inr (List.mem_cons_of_mem _ among)⟩

/-! ### Other contents -/

section

variable {Other : Type} (change : Content → Other)

/-- The same keys, with what each content becomes. -/
def mapContents (entries : Entries Content) : Entries Other :=
  entries.map fun entry => (entry.1, change entry.2)

theorem get?_mapContents (entries : Entries Content) (key : Value) :
    (entries.mapContents change).get? key = (entries.get? key).map change := by
  induction entries with
  | nil => rfl
  | cons entry rest inductionHypothesis =>
    obtain ⟨own, content⟩ := entry
    rw [mapContents, List.map_cons, get?, get?]
    split
    · rfl
    · exact inductionHypothesis

theorem put_mapContents (entries : Entries Content) (key : Value) (content : Content) :
    (entries.mapContents change).put key (change content) =
      (entries.put key content).mapContents change := by
  induction entries with
  | nil => rfl
  | cons entry rest inductionHypothesis =>
    obtain ⟨own, old⟩ := entry
    rw [mapContents, List.map_cons, put, put]
    split
    · rfl
    · exact congrArg (List.cons _) inductionHypothesis

end

/-! ### The keys -/

theorem areDistinct_iff (entries : Entries Content) :
    entries.AreDistinct ↔
      entries.keys.Pairwise fun first second => first.equal second = false := by
  rw [keys, List.pairwise_map]
  rfl

/-- A key that is put is there already, or comes last. -/
theorem keys_put (entries : Entries Content) (key : Value) (content : Content) :
    (entries.put key content).keys = entries.keys ∧ (∃ own ∈ entries.keys, own.equal key = true) ∨
      (entries.put key content).keys = entries.keys ++ [key] ∧
        ∀ own ∈ entries.keys, own.equal key = false := by
  induction entries with
  | nil => exact .inr ⟨rfl, by simp [keys]⟩
  | cons entry rest inductionHypothesis =>
    obtain ⟨own, old⟩ := entry
    by_cases same : own.equal key = true
    · left
      simp only [put, if_pos same, keys, List.map_cons]
      exact ⟨trivial, own, List.mem_cons_self, same⟩
    · simp only [put, if_neg same, keys, List.map_cons] at inductionHypothesis ⊢
      rcases inductionHypothesis with ⟨kept, other, member, equal⟩ | ⟨added, different⟩
      · exact .inl ⟨congrArg _ kept, other, List.mem_cons_of_mem _ member, equal⟩
      · refine .inr ⟨congrArg _ added, fun other member => ?_⟩
        rcases List.mem_cons.mp member with rfl | later
        · exact Bool.eq_false_iff.mpr same
        · exact different other later

/-- A key that is put is among the keys afterwards, or one equal to it is. -/
theorem exists_mem_keys_put (entries : Entries Content) (key : Value) (content : Content) :
    ∃ own ∈ (entries.put key content).keys, own = key ∨ own.equal key = true := by
  rcases entries.keys_put key content with ⟨kept, own, member, equal⟩ | ⟨added, _⟩
  · exact ⟨own, kept ▸ member, .inr equal⟩
  · exact ⟨key, added ▸ List.mem_append_right _ List.mem_cons_self, .inl rfl⟩

theorem keys_subset_put (entries : Entries Content) (key : Value) (content : Content) :
    entries.keys ⊆ (entries.put key content).keys := by
  rcases entries.keys_put key content with ⟨kept, _⟩ | ⟨added, _⟩
  · rw [kept]
    exact List.Subset.refl _
  · rw [added]
    exact List.subset_append_left _ _

/-! ### Distinct keys -/

theorem areDistinct_put (distinct : entries.AreDistinct) (key : Value) (content : Content) :
    (entries.put key content).AreDistinct := by
  rw [areDistinct_iff] at distinct ⊢
  rcases entries.keys_put key content with ⟨kept, _⟩ | ⟨added, different⟩
  · rw [kept]
    exact distinct
  · rw [added, List.pairwise_append]
    refine ⟨distinct, List.pairwise_singleton _ _, fun own member other last => ?_⟩
    rw [List.mem_singleton.mp last]
    exact different own member

theorem areDistinct_erase (distinct : entries.AreDistinct) (key : Value) :
    (entries.erase key).AreDistinct :=
  distinct.sublist List.filter_sublist

/-- Among distinct keys, a name that comes first does not come again. -/
theorem not_mem_keys_of_areDistinct {rest : Entries Content}
    (distinct : Entries.AreDistinct ((.text name, content) :: rest)) :
    .text name ∉ rest.keys := by
  intro member
  obtain ⟨other, among, isName⟩ := List.mem_map.mp member
  have different := (List.pairwise_cons.mp distinct).1 other among
  rw [isName, Value.text_equal_self] at different
  cases different

/-- Among distinct keys, what stands under a name is what the name has. -/
theorem named?_of_mem (distinct : entries.AreDistinct)
    (member : (Value.text name, content) ∈ entries) : entries.named? name = some content := by
  induction entries with
  | nil => exact absurd member List.not_mem_nil
  | cons entry rest inductionHypothesis =>
    obtain ⟨own, old⟩ := entry
    obtain ⟨apart, distinctRest⟩ := List.pairwise_cons.mp distinct
    rcases List.mem_cons.mp member with here | later
    · cases here
      exact named?_cons_self name content rest
    · have different : own ≠ .text name := by
        rintro rfl
        exact Bool.false_ne_true ((apart _ later).symm.trans (Value.text_equal_self name))
      rw [named?_cons_of_ne different]
      exact inductionHypothesis distinctRest later

/-- What is put under a new key comes last. -/
theorem put_of_new {key : Value} (new : ∀ entry ∈ entries, entry.1.equal key = false) :
    entries.put key content = entries ++ [(key, content)] := by
  induction entries with
  | nil => rfl
  | cons entry rest inductionHypothesis =>
    obtain ⟨own, old⟩ := entry
    obtain ⟨other, others⟩ := List.forall_mem_cons.mp new
    rw [put, other, if_neg Bool.false_ne_true, inductionHypothesis others, List.cons_append]

end Entries

namespace Record

/-- A name that changes do not mention keeps what it has. -/
theorem named?_overlay (record : Record) {changes : Record} {name : String}
    (unchanged : changes.named? name = none) :
    (record.overlay changes).named? name = record.named? name := by
  induction changes generalizing record with
  | nil => rfl
  | cons change rest inductionHypothesis =>
    obtain ⟨key, value⟩ := change
    have other : key.equal (.text name) = false := by
      refine Bool.eq_false_iff.mpr fun same => ?_
      rw [(Value.equal_text_iff key name).mp same, Entries.named?_cons_self] at unchanged
      cases unchanged
    have later : Entries.named? rest name = none := by
      rwa [Entries.named?_cons_of_ne fun same => ?_] at unchanged
      rw [same, Value.text_equal_self] at other
      cases other
    rw [overlay, List.foldl_cons]
    refine (inductionHypothesis (record.put key value) later).trans ?_
    rw [Entries.named?_put_key, other, if_neg Bool.false_ne_true]

/-- The keys and values of a record with changes are of the kinds that those of both are. -/
theorem mem_overlay {record changes : Record} (keyKind valueKind : Value → Prop)
    (before : ∀ entry ∈ record, keyKind entry.1 ∧ valueKind entry.2)
    (each : ∀ entry ∈ changes, keyKind entry.1 ∧ valueKind entry.2) :
    ∀ entry ∈ record.overlay changes, keyKind entry.1 ∧ valueKind entry.2 := by
  induction changes generalizing record with
  | nil => exact before
  | cons change rest inductionHypothesis =>
    obtain ⟨here, later⟩ := List.forall_mem_cons.mp each
    show ∀ entry ∈ overlay (record.put change.1 change.2) rest, _
    refine inductionHypothesis (fun entry member => ?_) later
    rcases Entries.mem_put member with old | ⟨put, isKey | among⟩
    · exact before entry old
    · exact ⟨isKey ▸ here.1, put ▸ here.2⟩
    · obtain ⟨other, old, isKey⟩ := List.mem_map.mp among
      exact ⟨isKey ▸ (before other old).1, put ▸ here.2⟩

/-- Changes whose keys are new and distinct come behind a record, as they are. -/
theorem overlay_of_areDistinct {record changes : Record}
    (distinct : Entries.AreDistinct (record ++ changes)) :
    record.overlay changes = record ++ changes := by
  induction changes generalizing record with
  | nil => exact (List.append_nil record).symm
  | cons change rest inductionHypothesis =>
    have new : ∀ entry ∈ record, entry.1.equal change.1 = false := fun entry member =>
      (List.pairwise_append.mp distinct).2.2 entry member change List.mem_cons_self
    rw [List.append_cons] at distinct ⊢
    rw [overlay, List.foldl_cons, Entries.put_of_new new]
    exact inductionHypothesis distinct

/-- Pairs with distinct keys are the record of themselves. -/
theorem ofPairs_of_areDistinct {pairs : List (Value × Value)}
    (distinct : Entries.AreDistinct pairs) : Record.ofPairs pairs = pairs :=
  overlay_of_areDistinct distinct

end Record

end TableGateway
