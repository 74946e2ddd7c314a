/-
This file works on entries, which are things under keys, and on records, whose things
are values: looking a key up, putting something under a key, taking a key out, and laying
one record over another. A key put again keeps its place. What a name has is what was
last put under it, and putting something under one name leaves all others alone.
-/

import TableGateway.Value.Equality

namespace TableGateway

/-- A text equals the same text and nothing else. -/
theorem Value.equal_text_iff (value : Value) (name : String) :
    value.equal (.text name) = true ↔ value = .text name := by
  cases value with
  | float number =>
    cases number <;> simp [Value.equal, Value.same, Value.sameLeaf, Value.magnitude?]
  | decimal number =>
    cases number <;>
      simp [Value.equal, Value.same, Value.sameLeaf, Value.magnitude?, Number.Decimal.ratio?]
  | _ => simp [Value.equal, Value.same, Value.sameLeaf, Value.magnitude?]

namespace Entries

variable {Content : Type}

/-- What is under a key. -/
def get? (entries : Entries Content) (key : Value) : Option Content :=
  match entries with
  | [] => none
  | (own, content) :: rest => if own.equal key then some content else get? rest key

/-- Whether a key is present. -/
def contains (entries : Entries Content) (key : Value) : Bool :=
  (entries.get? key).isSome

/-- Puts something under a key: in the key's place if it is present, else at the end. -/
def put (entries : Entries Content) (key : Value) (content : Content) : Entries Content :=
  match entries with
  | [] => [(key, content)]
  | (own, old) :: rest =>
    if own.equal key then (own, content) :: rest else (own, old) :: put rest key content

/-- The entries without a key. -/
def erase (entries : Entries Content) (key : Value) : Entries Content :=
  entries.filter fun entry => !entry.1.equal key

/-- The keys in order. -/
def keys (entries : Entries Content) : List Value :=
  entries.map Prod.fst

/-- What is under a name. -/
def named? (entries : Entries Content) (name : String) : Option Content :=
  entries.get? (.text name)

/-- No two keys are equal. -/
def AreDistinct (entries : Entries Content) : Prop :=
  entries.Pairwise fun first second => first.1.equal second.1 = false

instance (entries : Entries Content) : Decidable entries.AreDistinct :=
  inferInstanceAs (Decidable (List.Pairwise _ entries))

theorem named?_put (entries : Entries Content) (name : String) (content : Content) :
    (entries.put (.text name) content).named? name = some content := by
  have itself : (Value.text name).equal (.text name) = true := by simp [Value.equal_text_iff]
  induction entries with
  | nil => simp [put, named?, get?, itself]
  | cons entry rest inductionHypothesis =>
    obtain ⟨own, old⟩ := entry
    simp only [named?] at inductionHypothesis ⊢
    by_cases same : own.equal (.text name) = true
    · simp [put, get?, same]
    · simp [put, get?, same, inductionHypothesis]

theorem named?_put_of_ne (entries : Entries Content) {name other : String} (content : Content)
    (different : other ≠ name) :
    (entries.put (.text name) content).named? other = entries.named? other := by
  have unequal : ¬(Value.text name).equal (.text other) = true := by
    simp [Value.equal_text_iff, different.symm]
  induction entries with
  | nil => simp [put, named?, get?, unequal]
  | cons entry rest inductionHypothesis =>
    obtain ⟨own, old⟩ := entry
    simp only [named?] at inductionHypothesis ⊢
    by_cases same : own.equal (.text name) = true
    · have isName := (Value.equal_text_iff own name).mp same
      subst isName
      simp [put, get?, same, unequal]
    · simp only [put, if_neg same, get?, inductionHypothesis]

end Entries

namespace Record

/-- One record laid over another: its keys win, new ones come last. -/
def overlay (record changes : Record) : Record :=
  changes.foldl (fun merged entry => merged.put entry.1 entry.2) record

/-- The record of some pairs, a key given twice keeping its first place and its last value. -/
def ofPairs (pairs : List (Value × Value)) : Record :=
  overlay [] pairs

/-- The values in the order of their keys. -/
def values (record : Record) : List Value :=
  record.map Prod.snd

end Record

end TableGateway
