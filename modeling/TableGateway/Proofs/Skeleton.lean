/-
This file shows that the text of a clause depends on nothing but its skeleton, and shows
all of it: which fields are compared under which operators, by what rows are sorted, and
how many are asked for. Values never reach the text, and names cannot forge any of it: a
quoted name tells where it ends, the texts behind a name are no prefixes of each other,
and what follows the conjuncts or the order begins in its own way.
-/

import TableGateway.Proofs.Compilation
import TableGateway.Proofs.Conjunct
import TableGateway.Proofs.Joined

namespace TableGateway

/-- What a conjunct compares, whatever the value: a key under an operator. In the style in which
collections bring their own parentheses, it also shows whether there is a collection. -/
structure Comparison where
  key : Value
  operator : Operator
  collection : Bool

/-- A clause without its values. An order by nothing is none. -/
structure Skeleton where
  comparisons : List Comparison
  order : Option (List Value × Bool)
  limit : Limit

/-- The skeleton of what is said. -/
def Assertion.comparison (style : ParamStyle) (assertion : Assertion) : Comparison where
  key := assertion.key
  operator := assertion.operator
  collection := style = .format && assertion.operator.isMembership &&
    (membershipItems? assertion.value).isSome

/-- The skeleton of buckets, an order and a limit given as values. -/
def Skeleton.ofValues (style : ParamStyle) (buckets order limit : Value) :
    Except Failure Skeleton := do
  let entries ← buckets.entriesOrNone
  let request ← orRefuse (OrderRequest.ofValue? order)
  let keys ← request.keys
  let limit ← orRefuse (Limit.ofValue? limit)
  return {
    comparisons := (Assertion.ofBuckets entries).map (Assertion.comparison style)
    order := if keys.isEmpty then none else some (keys, request.descending.isTruthy)
    limit := limit }

/-! ### The skeleton of a clause -/

def Predicate.comparison (style : ParamStyle) (predicate : Predicate) : Comparison where
  key := .text predicate.column.name
  operator := predicate.operator
  collection := style = .format && predicate.operator.isMembership &&
    predicate.argument.isCollection

def Ordering.skeleton (ordering : Ordering) : Option (List Value × Bool) :=
  if ordering.columns.isEmpty then none
  else some (ordering.columns.map fun column => .text column.name, ordering.descending)

/-- The skeleton of a compiled clause. -/
def Clause.skeleton (style : ParamStyle) (clause : Clause) : Skeleton where
  comparisons := clause.predicates.map (Predicate.comparison style)
  order := clause.ordering.skeleton
  limit := clause.limit

theorem Assertion.Becomes.comparison_eq {assertion : Assertion} {predicate : Predicate}
    (becomes : assertion.Becomes predicate) (style : ParamStyle) :
    predicate.comparison style = assertion.comparison style := by
  obtain ⟨sameOperator, named⟩ := becomes.names
  rw [Predicate.comparison, Assertion.comparison, sameOperator, named]
  cases membership : assertion.operator.isMembership with
  | false => simp only [Bool.and_false, Bool.false_and]
  | true => rw [becomes.isCollection_eq membership]

theorem Assertion.comparisons_eq {said : List Assertion} {predicates : List Predicate}
    (related : List.Forall₂ Becomes said predicates) (style : ParamStyle) :
    predicates.map (Predicate.comparison style) = said.map (Assertion.comparison style) := by
  induction related with
  | nil => rfl
  | cons becomes _ inductionHypothesis =>
    rw [List.map_cons, List.map_cons, becomes.comparison_eq style, inductionHypothesis]

/-- Names that were quoted before can be quoted. -/
theorem Identifier.ofValues?_names (identifiers : List Identifier) :
    ofValues? (identifiers.map fun identifier => .text identifier.name) = .ok identifiers := by
  induction identifiers with
  | nil => rfl
  | cons identifier rest inductionHypothesis =>
    have first : ofValue? (.text identifier.name) = .ok identifier := ofName?_name identifier
    rw [List.map_cons, ofValues?, first, inductionHypothesis]
    rfl

/-- Values that can be quoted as names are the texts of the names. -/
theorem Identifier.ofValues?_eq_ok {values : List Value} {identifiers : List Identifier}
    (quotable : Identifier.ofValues? values = .ok identifiers) :
    values = identifiers.map fun identifier => .text identifier.name := by
  induction values generalizing identifiers with
  | nil =>
    cases quotable
    rfl
  | cons value rest inductionHypothesis =>
    obtain ⟨identifier, first, later⟩ := ok_of_bind quotable
    obtain ⟨others, passed, assembled⟩ := ok_of_bind later
    cases assembled
    rw [List.map_cons, ← inductionHypothesis passed, ofValue?_eq_ok first]

theorem Ordering.skeleton_of_ofValue? {value : Value} {ordering : Ordering}
    (compiled : Ordering.ofValue? value = .ok ordering) :
    ∃ request keys, orRefuse (OrderRequest.ofValue? value) = .ok request ∧
      request.keys = .ok keys ∧
      ordering.skeleton =
        if keys.isEmpty then none else some (keys, request.descending.isTruthy) := by
  obtain ⟨request, asked, rest⟩ := ok_of_bind compiled
  obtain ⟨keys, listed, rest⟩ := ok_of_bind rest
  obtain ⟨columns, named, assembled⟩ := ok_of_bind rest
  cases assembled
  refine ⟨request, keys, asked, listed, ?_⟩
  rw [Identifier.ofValues?_eq_ok (orRefuse_eq_ok named), skeleton, List.isEmpty_map]

/-- A clause has the skeleton of the values that it was compiled from. -/
theorem Skeleton.ofValues_of_compiled {styleName buckets order limit : Value}
    {style : ParamStyle} {clause : Clause}
    (compiled : Clause.ofValues styleName buckets order limit = .ok (style, clause)) :
    Skeleton.ofValues style buckets order limit = .ok (clause.skeleton style) := by
  obtain ⟨_, entries, listed, compiling, _⟩ := Clause.compile_of_ofValues compiled
  obtain ⟨predicates, became, rest⟩ := ok_of_bind compiling
  obtain ⟨ordering, ordered, rest⟩ := ok_of_bind rest
  obtain ⟨bound, limited, assembled⟩ := ok_of_bind rest
  cases assembled
  obtain ⟨request, keys, asked, keyed, sorted⟩ := Ordering.skeleton_of_ofValue? ordered
  have compared := Assertion.comparisons_eq (Assertion.forall₂_becomes_ofBuckets became) style
  simp only [ofValues, listed, asked, keyed, limited, bind, Except.bind, Clause.skeleton, sorted,
    compared]
  rfl

/-! ### Reading a conjunct -/

namespace Comparison

/-- The text behind the column of a conjunct. -/
def suffix (style : ParamStyle) (operator : Operator) (collection : Bool) : String :=
  " " ++ operator.sql ++ " " ++
    (if operator.isMembership && !collection then "(" ++ style.placeholder ++ ")"
    else style.placeholder)

/-- The text behind a column tells the operator, and whether there is a collection, even if it is
only the beginning of what is there. -/
theorem suffix_prefix : ∀ style ∈ [ParamStyle.qmark, .format],
    ∀ first ∈ Operator.all, ∀ second ∈ Operator.all,
    ∀ collection ∈ [true, false], ∀ other ∈ [true, false],
      (collection = true → style = .format ∧ first.isMembership = true) →
      (other = true → style = .format ∧ second.isMembership = true) →
      (suffix style first collection).toList <+: (suffix style second other).toList →
        first = second ∧ collection = other := by
  decide +kernel

theorem suffix_append_inj {style : ParamStyle} {first second : Operator}
    {collection other : Bool} {rest last : List Char}
    (shaped : collection = true → style = .format ∧ first.isMembership = true)
    (shapedToo : other = true → style = .format ∧ second.isMembership = true)
    (same : (suffix style first collection).toList ++ rest =
      (suffix style second other).toList ++ last) :
    (first = second ∧ collection = other) ∧ rest = last := by
  have among (style : ParamStyle) : style ∈ [ParamStyle.qmark, .format] := by
    cases style <;> decide
  have amongBoth (truth : Bool) : truth ∈ [true, false] := by
    cases truth <;> decide
  have read : first = second ∧ collection = other := by
    rcases List.prefix_or_prefix_of_prefix (List.prefix_append _ rest)
      (same ▸ List.prefix_append _ last) with shorter | longer
    · exact suffix_prefix style (among style) first first.mem_all second second.mem_all
        collection (amongBoth _) other (amongBoth _) shaped shapedToo shorter
    · obtain ⟨sameOperator, sameShape⟩ := suffix_prefix style (among style) second
        second.mem_all first first.mem_all other (amongBoth _) collection (amongBoth _)
        shapedToo shaped longer
      exact ⟨sameOperator.symm, sameShape.symm⟩
  refine ⟨read, ?_⟩
  rw [read.1, read.2] at same
  exact List.append_cancel_left same

end Comparison

namespace Predicate

/-- Only the column, the operator and the shape of the argument stand in the text of a
predicate. -/
theorem sql_eq (style : ParamStyle) (predicate : Predicate) :
    predicate.sql style = predicate.column.quoted ++
      Comparison.suffix style predicate.operator (predicate.comparison style).collection := by
  obtain ⟨column, operator, argument⟩ := predicate
  have placed : Predicate.place style ⟨column, operator, argument⟩ =
      if operator.isMembership &&
        !(Predicate.comparison style ⟨column, operator, argument⟩).collection then
        "(" ++ style.placeholder ++ ")" else style.placeholder := by
    unfold place comparison
    cases operator.isMembership with
    | false => rfl
    | true => cases style <;> cases argument <;> rfl
  rw [sql, placed, Comparison.suffix]
  simp only [String.append_assoc]

theorem isDecodable (style : ParamStyle) :
    IsDecodable (fun predicate => (Predicate.sql style predicate).toList)
      (Predicate.comparison style) := by
  intro first second rest last same
  have shaped (predicate : Predicate) (collected : (predicate.comparison style).collection = true) :
      style = .format ∧ predicate.operator.isMembership = true := by
    simp only [comparison, Bool.and_eq_true, decide_eq_true_eq] at collected
    exact collected.1
  simp only [sql_eq, String.toList_append, List.append_assoc] at same
  obtain ⟨sameColumn, behind⟩ := Identifier.quoted_append_inj same
  obtain ⟨⟨sameOperator, sameShape⟩, ended⟩ :=
    Comparison.suffix_append_inj (shaped first) (shaped second) behind
  refine ⟨?_, ended⟩
  show Comparison.mk _ _ (first.comparison style).collection =
    Comparison.mk _ _ (second.comparison style).collection
  rw [sameColumn, sameOperator, sameShape]

/-- Predicates with the same comparison have the same text. -/
theorem sql_of_comparison {style : ParamStyle} {first second : Predicate}
    (same : first.comparison style = second.comparison style) :
    first.sql style = second.sql style := by
  have names : Value.text first.column.name = .text second.column.name :=
    congrArg Comparison.key same
  have columns : first.column = second.column := Identifier.ext_name (Value.text.inj names)
  have operators : first.operator = second.operator := congrArg Comparison.operator same
  rw [sql_eq, sql_eq, columns, operators, same]

end Predicate

/-! ### Reading a limit -/

/-- Words are told apart by their first letters. -/
theorem not_prefix_of_letter {first second : Char} (other : first ≠ second)
    (more rest : List Char) : ¬(' ' :: first :: more <+: ' ' :: second :: rest) := by
  rw [List.cons_prefix_cons, List.cons_prefix_cons]
  exact fun same => other same.2.1

namespace Limit

open Number

theorem toList_integerText (value : Nat) : (integerText value).toList = digits value :=
  String.toList_ofList

theorem toList_first (count : Nat) :
    (Limit.first count).sql.toList = " LIMIT ".toList ++ digits count := by
  rw [sql, String.toList_append, toList_integerText]

theorem toList_range (offset count : Nat) :
    (Limit.range offset count).sql.toList =
      " LIMIT ".toList ++ (digits offset ++ ',' :: digits count) := by
  rw [sql, String.toList_append, String.toList_append, String.toList_append, toList_integerText,
    toList_integerText, List.append_assoc, List.append_assoc]
  rfl

theorem comma_not_mem_digits (value : Nat) : ',' ∉ digits value := by
  intro member
  have digit := isDigit_of_mem_digits value ',' member
  revert digit
  decide

theorem digits_injective {first second : Nat} (same : digits first = digits second) :
    first = second := by
  rw [← valueOf_digits first, same, valueOf_digits]

/-- A single number is written otherwise than two. -/
theorem first_ne_range (count offset other : Nat) :
    digits count ≠ digits offset ++ ',' :: digits other := by
  intro same
  refine comma_not_mem_digits count ?_
  rw [same]
  exact List.mem_append_right _ List.mem_cons_self

theorem sql_injective {first second : Limit}
    (same : first.sql.toList = second.sql.toList) : first = second := by
  have nonempty (text : List Char) : " LIMIT ".toList ++ text ≠ [] := by
    simp
  cases first with
  | none =>
    cases second with
    | none => rfl
    | first count =>
      rw [toList_first] at same
      exact absurd same.symm (nonempty _)
    | range offset count =>
      rw [toList_range] at same
      exact absurd same.symm (nonempty _)
  | first count =>
    rw [toList_first] at same
    cases second with
    | none => exact absurd same (nonempty _)
    | first other =>
      rw [toList_first] at same
      rw [digits_injective (List.append_cancel_left same)]
    | range offset other =>
      rw [toList_range] at same
      exact absurd (List.append_cancel_left same) (first_ne_range _ _ _)
  | range offset count =>
    rw [toList_range] at same
    cases second with
    | none => exact absurd same (nonempty _)
    | first other =>
      rw [toList_first] at same
      exact absurd (List.append_cancel_left same).symm (first_ne_range _ _ _)
    | range start other =>
      rw [toList_range] at same
      obtain ⟨offsets, counts⟩ := append_mark_inj (comma_not_mem_digits offset)
        (comma_not_mem_digits start) (List.append_cancel_left same)
      rw [digits_injective offsets, digits_injective counts]

/-- A limit is nothing, or begins with its own word. -/
theorem toList_sql (limit : Limit) :
    limit.sql.toList = [] ∨ ∃ rest, limit.sql.toList = " LIMIT ".toList ++ rest := by
  cases limit with
  | none => exact .inl rfl
  | first count => exact .inr ⟨_, toList_first count⟩
  | range offset count => exact .inr ⟨_, toList_range offset count⟩

/-- So it does not begin with a word of another letter. -/
theorem not_prefix {letter : Char} (other : letter ≠ 'L') (more : List Char) (limit : Limit) :
    ¬(' ' :: letter :: more <+: limit.sql.toList) := by
  rcases limit.toList_sql with nothing | ⟨rest, begins⟩
  · rw [nothing]
    exact fun same => absurd (List.prefix_nil.mp same) (List.cons_ne_nil _ _)
  · rw [begins]
    exact not_prefix_of_letter other more ("IMIT ".toList ++ rest)

end Limit

/-! ### Reading an order -/

namespace Ordering

/-- The text of the direction of an order. -/
def directionText (descending : Bool) : List Char :=
  if descending then " DESC".toList else []

theorem toList_sql_cons (first : Identifier) (others : List Identifier) (descending : Bool)
    (rest : List Char) :
    (Ordering.sql ⟨first :: others, descending⟩).toList ++ rest =
      " ORDER BY ".toList ++
        (first.quoted.toList ++
          others.flatMap (fun column => ",".toList ++ column.quoted.toList) ++
            (directionText descending ++ rest)) := by
  have joined := Text.toList_joinWith "," first.quoted (others.map Identifier.quoted)
  rw [List.flatMap_map] at joined
  have direction : (if descending then " DESC" else "").toList = directionText descending := by
    cases descending <;> rfl
  show (" ORDER BY " ++
    Text.joinWith "," (first.quoted :: others.map Identifier.quoted) ++
      (if descending then " DESC" else "")).toList ++ rest = _
  rw [String.toList_append, String.toList_append, direction, joined, List.append_assoc,
    List.append_assoc]

/-- The columns of an order, or of none, and its direction. -/
theorem skeleton_injective {first second : Ordering} (same : first.skeleton = second.skeleton) :
    first.sql = second.sql := by
  obtain ⟨columns, descending⟩ := first
  obtain ⟨others, ascending⟩ := second
  cases columns with
  | nil =>
    cases others with
    | nil => rfl
    | cons other others => cases same
  | cons column columns =>
    cases others with
    | nil => cases same
    | cons other others =>
      obtain ⟨names, directions : descending = ascending⟩ := Prod.mk.inj (Option.some.inj same)
      have byName : Function.Injective fun column : Identifier => Value.text column.name :=
        fun _ _ sameName => Identifier.ext_name (Value.text.inj sameName)
      have sameColumns : column :: columns = other :: others :=
        List.map_injective_iff.mpr byName names
      rw [sameColumns, directions]

/-- What follows the direction of an order does not look like one. -/
theorem decode_direction {descending ascending : Bool} {first second : Limit}
    (same : directionText descending ++ first.sql.toList =
      directionText ascending ++ second.sql.toList) : descending = ascending ∧ first = second := by
  have apart (limit : Limit) (rest : List Char) :
      " DESC".toList ++ rest ≠ limit.sql.toList := fun begins =>
    Limit.not_prefix (by decide : 'D' ≠ 'L') "ESC".toList limit ⟨rest, begins⟩
  cases descending with
  | false =>
    cases ascending with
    | false => exact ⟨rfl, Limit.sql_injective same⟩
    | true => exact absurd same.symm (apart first _)
  | true =>
    cases ascending with
    | false => exact absurd same (apart second _)
    | true => exact ⟨rfl, Limit.sql_injective (List.append_cancel_left same)⟩

theorem isDecodable_column :
    IsDecodable (fun column : Identifier => column.quoted.toList)
      fun column => Value.text column.name := by
  intro first second rest last same
  obtain ⟨columns, ended⟩ := Identifier.quoted_append_inj same
  exact ⟨by rw [columns], ended⟩

/-- An order and a limit can be told from their text. -/
theorem decode {first second : Ordering} {limit other : Limit}
    (same : first.sql.toList ++ limit.sql.toList = second.sql.toList ++ other.sql.toList) :
    first.skeleton = second.skeleton ∧ limit = other := by
  have unlike (limit : Limit) (rest : List Char) :
      " ORDER BY ".toList ++ rest ≠ limit.sql.toList := fun begins =>
    Limit.not_prefix (by decide : 'O' ≠ 'L') "RDER BY ".toList limit ⟨rest, begins⟩
  have noComma (descending : Bool) (limit : Limit) :
      ¬",".toList <+: directionText descending ++ limit.sql.toList := by
    rcases limit.toList_sql with nothing | ⟨text, begins⟩
    · rw [nothing]
      cases descending <;> simp [directionText]
    · rw [begins]
      cases descending <;> simp [directionText]
  obtain ⟨columns, descending⟩ := first
  obtain ⟨others, ascending⟩ := second
  cases columns with
  | nil =>
    cases others with
    | nil => exact ⟨rfl, Limit.sql_injective same⟩
    | cons column others =>
      rw [toList_sql_cons] at same
      exact absurd same.symm (unlike limit _)
  | cons column columns =>
    rw [toList_sql_cons] at same
    cases others with
    | nil => exact absurd same (unlike other _)
    | cons otherColumn others =>
      rw [toList_sql_cons] at same
      obtain ⟨names, behind⟩ := decode_joined isDecodable_column (noComma _ _) (noComma _ _)
        (List.append_cancel_left same)
      obtain ⟨directions, limits⟩ := decode_direction behind
      refine ⟨?_, limits⟩
      show some (List.map _ (column :: columns), descending) =
        some (List.map _ (otherColumn :: others), ascending)
      rw [names, directions]

end Ordering

/-! ### Reading a clause -/

theorem toList_whereText_cons (style : ParamStyle) (first : Predicate) (others : List Predicate)
    (rest : List Char) :
    (whereText style (first :: others)).toList ++ rest =
      " WHERE ".toList ++
        ((first.sql style).toList ++
          others.flatMap (fun predicate => " AND ".toList ++ (predicate.sql style).toList) ++
            rest) := by
  have joined := Text.toList_joinWith " AND " (first.sql style)
    (others.map (Predicate.sql style))
  rw [List.flatMap_map] at joined
  rw [whereText_cons, String.toList_append, List.map_cons, joined, List.append_assoc]

/-- What follows the conjuncts does not begin with a word of another letter than that of an order or
of a limit. -/
theorem Ordering.not_prefix {letter : Char} (noOrder : letter ≠ 'O') (noLimit : letter ≠ 'L')
    (more : List Char) (ordering : Ordering) (limit : Limit) :
    ¬(' ' :: letter :: more <+: ordering.sql.toList ++ limit.sql.toList) := by
  obtain ⟨columns, descending⟩ := ordering
  cases columns with
  | nil => exact Limit.not_prefix noLimit more limit
  | cons column columns =>
    rw [toList_sql_cons]
    exact not_prefix_of_letter noOrder more ("RDER BY ".toList ++ _)

/-- Conjuncts can be told from their text, with an order and a limit behind them. -/
theorem decode_whereText {style : ParamStyle} {first second : List Predicate}
    {ordering sorting : Ordering} {limit other : Limit}
    (same : (whereText style first).toList ++ (ordering.sql.toList ++ limit.sql.toList) =
      (whereText style second).toList ++ (sorting.sql.toList ++ other.sql.toList)) :
    first.map (Predicate.comparison style) = second.map (Predicate.comparison style) ∧
      ordering.sql.toList ++ limit.sql.toList = sorting.sql.toList ++ other.sql.toList := by
  have unlike (ordering : Ordering) (limit : Limit) (rest : List Char) :
      " WHERE ".toList ++ rest ≠ ordering.sql.toList ++ limit.sql.toList := fun begins =>
    Ordering.not_prefix (by decide : 'W' ≠ 'O') (by decide) "HERE ".toList ordering limit
      ⟨rest, begins⟩
  have noConjunct (ordering : Ordering) (limit : Limit) :
      ¬" AND ".toList <+: ordering.sql.toList ++ limit.sql.toList :=
    Ordering.not_prefix (by decide : 'A' ≠ 'O') (by decide) "ND ".toList ordering limit
  cases first with
  | nil =>
    cases second with
    | nil => exact ⟨rfl, same⟩
    | cons predicate second =>
      rw [toList_whereText_cons] at same
      exact absurd same.symm (unlike ordering limit _)
  | cons predicate first =>
    rw [toList_whereText_cons] at same
    cases second with
    | nil => exact absurd same (unlike sorting other _)
    | cons otherPredicate second =>
      rw [toList_whereText_cons] at same
      exact decode_joined (Predicate.isDecodable style) (noConjunct _ _) (noConjunct _ _)
        (List.append_cancel_left same)

/-- Conjuncts with the same comparisons have the same text. -/
theorem whereText_of_comparisons {style : ParamStyle} {first second : List Predicate}
    (same : first.map (Predicate.comparison style) = second.map (Predicate.comparison style)) :
    whereText style first = whereText style second := by
  have texts : first.map (Predicate.sql style) = second.map (Predicate.sql style) := by
    induction first generalizing second with
    | nil => rw [List.map_eq_nil_iff.mp same.symm]
    | cons predicate first inductionHypothesis =>
      cases second with
      | nil => cases same
      | cons other second =>
        obtain ⟨here, later⟩ := List.cons.inj same
        rw [List.map_cons, List.map_cons, Predicate.sql_of_comparison here,
          inductionHypothesis later]
  have empty : first.isEmpty = second.isEmpty := by
    rw [← List.isEmpty_map (f := Predicate.sql style), texts, List.isEmpty_map]
  rw [whereText, whereText, empty, texts]

namespace Clause

/-- Two clauses have the same text exactly if they have the same skeleton. -/
theorem sql_eq_iff_skeleton (style : ParamStyle) (first second : Clause) :
    first.sql style = second.sql style ↔ first.skeleton style = second.skeleton style := by
  constructor
  · intro same
    have characters := congrArg String.toList same
    simp only [sql, String.toList_append, List.append_assoc] at characters
    obtain ⟨comparisons, behind⟩ := decode_whereText characters
    obtain ⟨orders, limits⟩ := Ordering.decode behind
    rw [skeleton, skeleton, comparisons, orders, limits]
  · intro same
    obtain ⟨comparisons, orders, limits⟩ := Skeleton.mk.inj same
    rw [sql, sql, whereText_of_comparisons comparisons, Ordering.skeleton_injective orders, limits]

/-- Compiled in the same style, two clauses have the same text exactly if what they were compiled
from has the same skeleton. -/
theorem sql_eq_iff {styleName buckets order limit others sorting bound : Value}
    {style sameStyle : ParamStyle} {first second : Clause}
    (compiled : ofValues styleName buckets order limit = .ok (style, first))
    (compiledToo : ofValues styleName others sorting bound = .ok (sameStyle, second)) :
    ∃ skeleton other, Skeleton.ofValues style buckets order limit = .ok skeleton ∧
      Skeleton.ofValues sameStyle others sorting bound = .ok other ∧
        (first.sql style = second.sql sameStyle ↔ skeleton = other) := by
  obtain ⟨known, _⟩ := compile_of_ofValues compiled
  obtain ⟨knownToo, _⟩ := compile_of_ofValues compiledToo
  obtain rfl : style = sameStyle := Except.ok.inj (known.symm.trans knownToo)
  exact ⟨_, _, Skeleton.ofValues_of_compiled compiled, Skeleton.ofValues_of_compiled compiledToo,
    sql_eq_iff_skeleton style first second⟩

/-- Two conditions on one field have the same text if they differ in the value only. -/
theorem sql_eq_iff_values :
    let buckets (age : Int) : Value :=
      .dict [(.text "eq", .dict [(.text "age = ? AND name", .int age)])]
    ∃ first second, ofValues (.text "qmark") (buckets 20) .null (.int 1) = .ok (.qmark, first) ∧
      ofValues (.text "qmark") (buckets 30) .null (.int 1) = .ok (.qmark, second) ∧
      ∃ skeleton other, Skeleton.ofValues .qmark (buckets 20) .null (.int 1) = .ok skeleton ∧
        Skeleton.ofValues .qmark (buckets 30) .null (.int 1) = .ok other ∧
          (first.sql .qmark = second.sql .qmark ↔ skeleton = other) := by
  intro buckets
  obtain ⟨first, compiled⟩ : ∃ clause,
      ofValues (.text "qmark") (buckets 20) .null (.int 1) = .ok (.qmark, clause) := ⟨_, rfl⟩
  obtain ⟨second, compiledToo⟩ : ∃ clause,
      ofValues (.text "qmark") (buckets 30) .null (.int 1) = .ok (.qmark, clause) := ⟨_, rfl⟩
  exact ⟨first, second, compiled, compiledToo, sql_eq_iff compiled compiledToo⟩

end Clause

end TableGateway
