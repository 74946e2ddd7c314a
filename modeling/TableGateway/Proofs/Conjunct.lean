/-
This file turns what buckets say into the conjuncts of a statement. Buckets become one
predicate for each thing they say, in order; a predicate has the operator and the name of
what it says, and its text and its argument follow from it.
-/

import Mathlib.Data.List.Forall2
import TableGateway.Proofs.Assertion

namespace TableGateway

/-- A value that can be quoted as a name is the text of the name. -/
theorem Identifier.ofValue?_eq_ok {value : Value} {identifier : Identifier}
    (quotable : Identifier.ofValue? value = .ok identifier) : value = .text identifier.name := by
  cases value with
  | text name =>
    rw [Identifier.ofValue?] at quotable
    split at quotable
    · cases quotable
    · split at quotable
      · cases quotable
      · cases quotable
        rfl
  | _ => cases quotable

/-- Lists that are related member by member are split at the same place. -/
theorem forall₂_split {First Second : Type} {related : First → Second → Prop}
    {before after : List First} {member : First} {others : List Second}
    (same : List.Forall₂ related (before ++ member :: after) others) :
    ∃ earlier other later, others = earlier ++ other :: later ∧
      List.Forall₂ related before earlier ∧ related member other ∧
      List.Forall₂ related after later := by
  induction before generalizing others with
  | nil =>
    obtain ⟨other, later, here, rest, rfl⟩ := List.forall₂_cons_left_iff.mp same
    exact ⟨[], other, later, rfl, .nil, here, rest⟩
  | cons first before inductionHypothesis =>
    obtain ⟨next, others, here, rest, rfl⟩ := List.forall₂_cons_left_iff.mp same
    obtain ⟨earlier, other, later, rfl, early, at_, late⟩ := inductionHypothesis rest
    exact ⟨next :: earlier, other, later, rfl, .cons here early, at_, late⟩

/-- Whatever stands on the right of related lists is related to something on the left. -/
theorem exists_of_mem_forall₂ {First Second : Type} {related : First → Second → Prop}
    {members : List First} {others : List Second} (same : List.Forall₂ related members others)
    {other : Second} (among : other ∈ others) : ∃ member ∈ members, related member other := by
  obtain ⟨before, after, rfl⟩ := List.append_of_mem among
  obtain ⟨earlier, member, later, rfl, _, here, _⟩ := forall₂_split same.flip
  exact ⟨member, List.mem_append_right _ List.mem_cons_self, here⟩

/-- Whatever stands on the left of related lists is related to something on the right. -/
theorem exists_of_mem_left_forall₂ {First Second : Type} {related : First → Second → Prop}
    {members : List First} {others : List Second} (same : List.Forall₂ related members others)
    {member : First} (among : member ∈ members) : ∃ other ∈ others, related member other :=
  exists_of_mem_forall₂ same.flip among

/-- Whether an argument is a collection. -/
def Argument.isCollection : Argument → Bool
  | .single _ => false
  | .members _ => true

/-! ### One predicate for each thing said -/

namespace Assertion

/-- What a bucket given as a value says under the operator that its mark names. -/
def ofBucket (mark fields : Value) : List Assertion :=
  match Operator.ofValue? mark, fields with
  | .ok operator, .dict fields => ofFields operator fields
  | _, _ => []

/-- What buckets given as values say. -/
def ofBuckets (buckets : List (Value × Value)) : List Assertion :=
  buckets.flatMap fun bucket => ofBucket bucket.1 bucket.2

/-- Something said becomes a predicate. -/
def Becomes (assertion : Assertion) (predicate : Predicate) : Prop :=
  Predicate.ofField assertion.operator assertion.key assertion.value = .ok predicate

theorem ofBuckets_toRecord (buckets : Buckets) :
    ofBuckets buckets.toRecord = buckets.assertions := by
  rw [ofBuckets, Buckets.toRecord, List.flatMap_map, Buckets.assertions]
  refine congrArg (List.flatMap · buckets) (funext fun bucket => ?_)
  simp only [ofBucket, Operator.ofValue?, Operator.ofName?_name, Option.elim_some]

theorem forall₂_becomes_ofFields {operator : Operator} {fields : List (Value × Value)}
    {predicates : List Predicate}
    (passed : Predicate.ofFields operator fields = .ok predicates) :
    List.Forall₂ Becomes (ofFields operator fields) predicates := by
  induction fields generalizing predicates with
  | nil =>
    cases passed
    exact .nil
  | cons field rest inductionHypothesis =>
    obtain ⟨predicate, first, passed⟩ := ok_of_bind passed
    obtain ⟨others, later, same⟩ := ok_of_bind passed
    cases same
    exact .cons first (inductionHypothesis later)

theorem forall₂_becomes_ofBucket {mark fields : Value} {predicates : List Predicate}
    (passed : Predicate.ofBucket mark fields = .ok predicates) :
    List.Forall₂ Becomes (ofBucket mark fields) predicates := by
  obtain ⟨operator, marked, passed⟩ := ok_of_bind passed
  unfold ofBucket
  rw [orRefuse_eq_ok marked]
  cases fields with
  | dict fields => exact forall₂_becomes_ofFields passed
  | _ => cases passed

/-- Buckets become one predicate for each thing they say, in order. -/
theorem forall₂_becomes_ofBuckets {buckets : List (Value × Value)} {predicates : List Predicate}
    (passed : Predicate.ofBuckets buckets = .ok predicates) :
    List.Forall₂ Becomes (ofBuckets buckets) predicates := by
  induction buckets generalizing predicates with
  | nil =>
    cases passed
    exact .nil
  | cons bucket rest inductionHypothesis =>
    obtain ⟨first, passedFirst, passed⟩ := ok_of_bind passed
    obtain ⟨others, later, same⟩ := ok_of_bind passed
    cases same
    exact List.rel_append (forall₂_becomes_ofBucket passedFirst) (inductionHypothesis later)

/-- Classified buckets become one predicate for each thing they say. -/
theorem forall₂_becomes_toRecord {buckets : Buckets} {predicates : List Predicate}
    (passed : Predicate.ofBuckets buckets.toRecord = .ok predicates) :
    List.Forall₂ Becomes buckets.assertions predicates := by
  rw [← ofBuckets_toRecord]
  exact forall₂_becomes_ofBuckets passed

/-! ### What a predicate has of what was said -/

/-- A predicate has the operator that was said, and compares the column that the key names. -/
theorem Becomes.names {assertion : Assertion} {predicate : Predicate}
    (becomes : assertion.Becomes predicate) :
    predicate.operator = assertion.operator ∧ assertion.key = .text predicate.column.name := by
  obtain ⟨column, named, rest⟩ := ok_of_bind becomes
  have isName := Identifier.ofValue?_eq_ok (orRefuse_eq_ok named)
  obtain ⟨value, _, rest⟩ := ok_of_bind rest
  obtain ⟨_, _, rest⟩ := ok_of_bind rest
  split at rest
  · obtain ⟨argument, _, assembled⟩ := ok_of_bind rest
    cases assembled
    exact ⟨rfl, isName⟩
  · cases rest
    exact ⟨rfl, isName⟩

/-- Whatever has become predicates is said of names. -/
theorem exists_name_of_ofBuckets {buckets : Buckets} {predicates : List Predicate}
    (became : Predicate.ofBuckets buckets.toRecord = .ok predicates) :
    ∀ assertion ∈ buckets.assertions, ∃ name, assertion.key = .text name := by
  intro assertion member
  obtain ⟨predicate, _, becomes⟩ :=
    exists_of_mem_left_forall₂ (forall₂_becomes_toRecord became) member
  exact ⟨_, becomes.names.2⟩

/-- Unless null checks are negated, a field is compared with the value that was said. -/
theorem comparedValue_eq_ok {key said value : Value} {operator : Operator}
    (positive : operator ≠ .isNot) (compared : comparedValue key operator said = .ok value) :
    value = said := by
  rw [comparedValue, if_neg positive] at compared
  split at compared
  · cases compared
  · exact (Except.ok.inj compared).symm

/-- What is said is bound as it was said, apart from memberships and negated null checks. -/
theorem Becomes.argument_eq_single {assertion : Assertion} {predicate : Predicate}
    (becomes : assertion.Becomes predicate) (single : assertion.operator.isMembership = false)
    (positive : assertion.operator ≠ .isNot) : predicate.argument = .single assertion.value := by
  obtain ⟨column, _, rest⟩ := ok_of_bind becomes
  obtain ⟨value, compared, rest⟩ := ok_of_bind rest
  obtain ⟨_, _, rest⟩ := ok_of_bind rest
  rw [single, if_neg Bool.false_ne_true] at rest
  cases rest
  rw [comparedValue_eq_ok positive compared]

/-- What is said to be equal is bound as it was said. -/
theorem Becomes.argument_eq {assertion : Assertion} {predicate : Predicate}
    (becomes : assertion.Becomes predicate) (equality : assertion.operator = .eq) :
    predicate.argument = .single assertion.value :=
  becomes.argument_eq_single (by rw [equality]; rfl) (by rw [equality]; decide)

/-- The argument of a membership is a collection exactly if a collection is given. -/
theorem isCollection_of_membershipArgument {key value : Value} {operator : Operator}
    {argument : Argument} (chosen : membershipArgument key operator value = .ok argument) :
    argument.isCollection = (membershipItems? value).isSome := by
  unfold membershipArgument at chosen
  cases items : membershipItems? value with
  | none =>
    rw [items] at chosen
    cases chosen
    rfl
  | some members =>
    rw [items] at chosen
    cases members with
    | nil => cases chosen
    | cons first others =>
      obtain ⟨_, _, taken⟩ := ok_of_bind chosen
      cases taken
      rfl

theorem Becomes.isCollection_eq {assertion : Assertion} {predicate : Predicate}
    (becomes : assertion.Becomes predicate)
    (membership : assertion.operator.isMembership = true) :
    predicate.argument.isCollection = (membershipItems? assertion.value).isSome := by
  have positive : assertion.operator ≠ .isNot := by
    intro negated
    rw [negated] at membership
    cases membership
  obtain ⟨column, _, rest⟩ := ok_of_bind becomes
  obtain ⟨value, compared, rest⟩ := ok_of_bind rest
  obtain ⟨_, _, rest⟩ := ok_of_bind rest
  rw [if_pos membership] at rest
  obtain ⟨argument, chosen, assembled⟩ := ok_of_bind rest
  cases assembled
  rw [comparedValue_eq_ok positive compared] at chosen
  exact isCollection_of_membershipArgument chosen

end Assertion

/-! ### The conjuncts of a statement -/

theorem whereText_cons (style : ParamStyle) (first : Predicate) (rest : List Predicate) :
    whereText style (first :: rest) =
      " WHERE " ++ Text.joinWith " AND " ((first :: rest).map (Predicate.sql style)) := rfl

/-- The columns that are compared, each with its argument, from left to right. -/
def compared (predicates : List Predicate) : List (Identifier × Value) :=
  predicates.map fun predicate => (predicate.column, predicate.argument.toValue)

/-- What the conjuncts bring are the arguments of the columns that are compared. -/
theorem predicateArguments_eq (predicates : List Predicate) :
    predicateArguments predicates = (compared predicates).map Prod.snd := by
  simp [predicateArguments, compared, Function.comp_def]

namespace Statement

section Text

variable (dialect : Dialect) (table : Identifier)

theorem sql_select (projection : Projection) (clause : Clause) :
    sql dialect (.select projection table clause) =
      "SELECT " ++ projection.sql ++ " FROM " ++ table.quoted ++ clause.sql dialect.style := rfl

theorem sql_insert (columns : List Identifier) (rows : List (List Value))
    (onDuplicate : Option DuplicateUpdate) :
    sql dialect (.insert table columns rows onDuplicate) =
      "INSERT INTO " ++ table.quoted ++ " " ++ valuesText dialect.style columns rows ++
        (onDuplicate.map (duplicateText dialect)).getD "" := by
  cases onDuplicate <;> rfl

theorem sql_replace (columns : List Identifier) (rows : List (List Value)) :
    sql dialect (.replace table columns rows) =
      "REPLACE INTO " ++ table.quoted ++ " " ++ valuesText dialect.style columns rows := rfl

theorem sql_update (assignments : List (Identifier × Value)) (predicates : List Predicate) :
    sql dialect (.update table assignments predicates) =
      "UPDATE " ++ table.quoted ++ " SET " ++ assignmentsText dialect.style assignments ++
        whereText dialect.style predicates := rfl

theorem sql_delete (predicates : List Predicate) :
    sql dialect (.delete table predicates) =
      "DELETE FROM " ++ table.quoted ++ whereText dialect.style predicates := rfl

theorem sql_raw (text : String) (arguments : List Value) :
    sql dialect (.raw text arguments) = text := rfl

end Text

/-- The predicates of a statement that has some rows to choose. -/
def predicates? : Statement → Option (List Predicate)
  | .select _ _ clause => some clause.predicates
  | .update _ _ predicates => some predicates
  | .delete _ predicates => some predicates
  | _ => none

/-- The values that a statement writes. -/
def written : Statement → List Value
  | .insert _ _ rows _ => rows.flatten
  | .replace _ _ rows => rows.flatten
  | .update _ assignments _ => assignments.map Prod.snd
  | _ => []

/-- The conjuncts of a statement stand together in its text, and their arguments come last. -/
theorem sql_of_predicates? {statement : Statement} {predicates : List Predicate}
    (chooses : statement.predicates? = some predicates) (dialect : Dialect) :
    ∃ head tail,
      statement.sql dialect = head ++ whereText dialect.style predicates ++ tail ∧
      statement.arguments = statement.written ++ predicateArguments predicates := by
  cases statement with
  | select projection table clause =>
    cases chooses
    refine ⟨"SELECT " ++ projection.sql ++ " FROM " ++ table.quoted,
      clause.ordering.sql ++ clause.limit.sql, ?_, rfl⟩
    rw [sql_select]
    generalize "SELECT " ++ projection.sql ++ " FROM " ++ table.quoted = head
    rw [Clause.sql, String.append_assoc, String.append_assoc]
  | update table assignments predicates =>
    cases chooses
    exact ⟨_, "", (String.append_empty).symm, rfl⟩
  | delete table predicates =>
    cases chooses
    exact ⟨_, "", (String.append_empty).symm, rfl⟩
  | insert table columns rows onDuplicate => cases chooses
  | replace table columns rows => cases chooses
  | raw sql arguments => cases chooses

end Statement

end TableGateway
