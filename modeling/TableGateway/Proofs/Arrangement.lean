/-
This file says what a condition compiles to, and in which order. Its operators come in
the order in which their buckets are first named, an empty bucket too, and under each its
fields in the order in which they are first said. There is one predicate for each pair,
and its argument is of what is said last of the pair, wherever that stands.
-/

import TableGateway.Proofs.Malformed

namespace TableGateway

/-- Texts that are joined are the library's. -/
theorem Text.joinWith_eq_intercalate (separator : String) (texts : List String) :
    joinWith separator texts = separator.intercalate texts := by
  induction texts with
  | nil => rfl
  | cons first rest inductionHypothesis =>
    cases rest with
    | nil => rfl
    | cons second rest =>
      rw [joinWith, String.intercalate_cons_cons, inductionHypothesis]

/-! ### The order in which things are said -/

/-- The name that a key is, if it is one. -/
def Value.name? : Value → Option String
  | .text name => some name
  | _ => none

/-- The operator whose bucket an entry of a condition names: an explicit bucket its own, whatever
fields it has, and any other entry that of what it says. -/
def Operator.ofEntry (key value : Value) : Operator :=
  match operatorOfKey? key, value with
  | some operator, .dict _ => operator
  | _, value => (Assertion.ofField key value).operator

namespace Assertion

/-- The name of what is said of a name under an operator. -/
def nameUnder? (operator : Operator) (assertion : Assertion) : Option String :=
  if assertion.operator = operator then assertion.key.name? else none

/-- The operator and the name of what is said of a name. -/
def pair? (assertion : Assertion) : Option (Operator × String) :=
  assertion.key.name?.map fun name => (assertion.operator, name)

end Assertion

namespace Record

/-- The operators of a condition, each where it is named first. -/
def operators (record : Record) : List Operator :=
  (record.map fun entry => Operator.ofEntry entry.1 entry.2).eraseDups

/-- The names of which a condition says something under an operator, each where it is said first. -/
def namesUnder (record : Record) (operator : Operator) : List String :=
  (record.assertions.filterMap (Assertion.nameUnder? operator)).eraseDups

end Record

/-- The operator and the name of the column that a predicate compares. -/
def Predicate.pair (predicate : Predicate) : Operator × String :=
  (predicate.operator, predicate.column.name)

/-- A clause says what a condition says: of names only, of each under an operator once, with what
was said last, operator by operator and name by name in the order in which they came first. -/
structure Clause.Arranges (clause : Clause) (style : ParamStyle) (record : Record) : Prop where
  named : ∀ assertion ∈ record.assertions, ∃ name, assertion.key = .text name
  once : (clause.predicates.map Predicate.pair).Nodup
  covers : ∀ operator name, (operator, name) ∈ clause.predicates.map Predicate.pair ↔
    ∃ assertion ∈ record.assertions, assertion.operator = operator ∧ assertion.key = .text name
  ordered : clause.predicates.map Predicate.pair =
    record.operators.flatMap fun operator =>
      (record.namesUnder operator).map fun name => (operator, name)
  counts : clause.arguments.length = clause.predicates.length
  binds : ∀ (position : Nat) (predicate : Predicate),
    clause.predicates[position]? = some predicate → ∃ value, Assertion.Stands record.assertions
        ⟨predicate.operator, .text predicate.column.name, value⟩ ∧
      clause.arguments[position]? =
        some (Assertion.bound ⟨predicate.operator, .text predicate.column.name, value⟩)
  joins : clause.sql style =
    (if clause.predicates.isEmpty then ""
      else " WHERE " ++ " AND ".intercalate (clause.predicates.map (Predicate.sql style))) ++
        clause.ordering.sql ++ clause.limit.sql

section Repeats

variable {Item : Type} [BEq Item] [LawfulBEq Item] {items : List Item} {item : Item}

/-- Something that came before adds nothing where repeats are erased. -/
theorem eraseDups_concat_of_mem (old : item ∈ items) :
    (items ++ [item]).eraseDups = items.eraseDups := by
  have nothing : [item].removeAll items = [] :=
    List.filter_eq_nil_iff.mpr fun other last => by
      rw [List.mem_singleton.mp last, List.elem_eq_true_of_mem old]
      exact Bool.false_ne_true
  rw [List.eraseDups_append, nothing, List.eraseDups_nil, List.append_nil]

theorem eraseDups_concat_of_not_mem (new : item ∉ items) :
    (items ++ [item]).eraseDups = items.eraseDups ++ [item] := by
  have kept : [item].removeAll items = [item] :=
    List.filter_eq_self.mpr fun other last => by
      rw [List.mem_singleton.mp last, Bool.eq_false_iff.mpr (mt List.elem_iff.mp new)]
      rfl
  rw [List.eraseDups_append, kept]
  rfl

end Repeats

/-! ### Operators in their order -/

namespace Buckets

variable {buckets : Buckets}

theorem mem_operators_touch (buckets : Buckets) (operator : Operator) :
    operator ∈ (buckets.touch operator).map Prod.fst := by
  induction buckets with
  | nil => exact List.mem_singleton.mpr rfl
  | cons bucket rest inductionHypothesis =>
    obtain ⟨own, fields⟩ := bucket
    by_cases same : own = operator
    · rw [touch, if_pos same, same]
      exact List.mem_cons_self
    · rw [touch, if_neg same]
      exact List.mem_cons_of_mem _ inductionHypothesis

theorem operators_touch_of_mem {operator : Operator} (old : operator ∈ buckets.map Prod.fst) :
    (buckets.touch operator).map Prod.fst = buckets.map Prod.fst := by
  rcases buckets.operators_touch operator with kept | ⟨_, new⟩
  · exact kept
  · exact absurd old new

/-- A bucket that is named comes last, unless it was named before. -/
theorem operators_touch_eq {named : List Operator}
    (before : buckets.map Prod.fst = named.eraseDups) (operator : Operator) :
    (buckets.touch operator).map Prod.fst = (named ++ [operator]).eraseDups := by
  by_cases old : operator ∈ named
  · have kept : operator ∈ buckets.map Prod.fst := by
      rw [before]
      exact List.mem_eraseDups.mpr old
    rw [operators_touch_of_mem kept, eraseDups_concat_of_mem old, before]
  · have there := buckets.mem_operators_touch operator
    rcases buckets.operators_touch operator with kept | ⟨added, _⟩
    · rw [kept, before] at there
      exact absurd (List.mem_eraseDups.mp there) old
    · rw [added, eraseDups_concat_of_not_mem old, before]

/-- What is said under one operator names no other. -/
theorem operators_foldl_take_ofFields {operator : Operator} (fields : List (Value × Value))
    (old : operator ∈ buckets.map Prod.fst) :
    ((Assertion.ofFields operator fields).foldl take buckets).map Prod.fst =
      buckets.map Prod.fst := by
  induction fields generalizing buckets with
  | nil => rfl
  | cons field rest inductionHypothesis =>
    have kept : (buckets.take ⟨operator, field.1, field.2⟩).map Prod.fst =
        buckets.map Prod.fst := by
      rw [take, operators_assign, operators_touch_of_mem old]
    rw [← kept] at old ⊢
    exact inductionHypothesis old

/-- The buckets with an entry in them have the bucket that it names. -/
theorem operators_foldl_take_ofEntry (buckets : Buckets) (key value : Value) :
    ((Assertion.ofEntry key value).foldl take (buckets.opened key value)).map Prod.fst =
      (buckets.touch (.ofEntry key value)).map Prod.fst := by
  have flat : (buckets.take (.ofField key value)).map Prod.fst =
      (buckets.touch (Assertion.ofField key value).operator).map Prod.fst :=
    buckets.operators_assign _ _ _
  unfold Assertion.ofEntry opened Operator.ofEntry
  cases named : operatorOfKey? key with
  | none => exact flat
  | some operator =>
    cases value with
    | dict fields =>
      exact operators_foldl_take_ofFields fields (buckets.mem_operators_touch operator)
    | _ => exact flat

end Buckets

/-- Classified buckets have the operators in the order in which they were first named. -/
theorem operators_classifyEntries {enableUndefined : Bool} {buckets classified : Buckets}
    {entries : List (Value × Value)} {named : List Operator}
    (before : buckets.map Prod.fst = named.eraseDups)
    (passed : classifyEntries enableUndefined buckets entries = .ok classified) :
    classified.map Prod.fst =
      (named ++ entries.map fun entry => Operator.ofEntry entry.1 entry.2).eraseDups := by
  induction entries generalizing buckets named with
  | nil =>
    cases passed
    rw [before, List.map_nil, List.append_nil]
  | cons entry rest inductionHypothesis =>
    obtain ⟨middle, first, passed⟩ := ok_of_bind passed
    rw [List.map_cons, List.append_cons]
    refine inductionHypothesis ?_ passed
    rw [classifyEntry_eq_ok first, Buckets.operators_foldl_take_ofEntry,
      Buckets.operators_touch_eq before]

/-! ### Names in their order -/

theorem Value.name?_eq_some_iff {key : Value} {name : String} :
    key.name? = some name ↔ key = .text name := by
  cases key <;> simp [Value.name?]

/-- The names among the keys of entries. -/
def Entries.names {Content : Type} (entries : Entries Content) : List String :=
  entries.keys.filterMap Value.name?

theorem Entries.mem_names_iff {Content : Type} {entries : Entries Content} {name : String} :
    name ∈ entries.names ↔ .text name ∈ entries.keys := by
  rw [names, List.mem_filterMap]
  constructor
  · rintro ⟨key, member, isName⟩
    exact Value.name?_eq_some_iff.mp isName ▸ member
  · exact fun member => ⟨_, member, rfl⟩

/-- A name comes last where something is put under it, unless it was there. -/
theorem Entries.names_put {Content : Type} {entries : Entries Content} {named : List String}
    (before : entries.names = named.eraseDups) (key : Value) (content : Content) :
    (entries.put key content).names = (named ++ key.name?.toList).eraseDups := by
  have there (name : String) : name ∈ named ↔ .text name ∈ entries.keys := by
    rw [← mem_names_iff, before, List.mem_eraseDups]
  cases isName : key.name? with
  | none =>
    have kept : (entries.put key content).names = entries.names := by
      rcases entries.keys_put key content with ⟨kept, _⟩ | ⟨added, _⟩
      · rw [names, kept, names]
      · rw [names, added, List.filterMap_append, List.filterMap_cons_none isName,
          List.filterMap_nil, List.append_nil, names]
    rw [kept, before, Option.toList_none, List.append_nil]
  | some name =>
    obtain rfl := Value.name?_eq_some_iff.mp isName
    rw [Option.toList_some]
    rcases entries.keys_put (.text name) content with ⟨kept, own, old, same⟩ | ⟨added, new⟩
    · obtain rfl := (Value.equal_text_iff own name).mp same
      rw [names, kept, eraseDups_concat_of_mem ((there name).mpr old)]
      exact before
    · have absent : name ∉ named := by
        intro old
        have different := new _ ((there name).mp old)
        rw [Value.text_equal_self] at different
        cases different
      rw [names, added, List.filterMap_append, eraseDups_concat_of_not_mem absent, ← before]
      rfl

namespace Buckets

/-- The names that buckets have under an operator. -/
def namesUnder (operator : Operator) : Buckets → List String
  | [] => []
  | (own, fields) :: rest =>
    if own = operator then Entries.names fields else namesUnder operator rest

variable {buckets : Buckets} {operator : Operator}

theorem namesUnder_touch (buckets : Buckets) (operator touched : Operator) :
    (buckets.touch touched).namesUnder operator = buckets.namesUnder operator := by
  induction buckets with
  | nil =>
    show (if touched = operator then [] else []) = []
    exact ite_self []
  | cons bucket rest inductionHypothesis =>
    obtain ⟨own, fields⟩ := bucket
    by_cases here : own = touched
    · rw [touch, if_pos here]
    · rw [touch, if_neg here, namesUnder, inductionHypothesis, namesUnder]

theorem namesUnder_opened (buckets : Buckets) (operator : Operator) (key value : Value) :
    (buckets.opened key value).namesUnder operator = buckets.namesUnder operator := by
  unfold opened
  split
  · exact namesUnder_touch _ _ _
  · rfl

theorem namesUnder_assign_of_ne {told : Operator} (other : told ≠ operator) (buckets : Buckets)
    (key value : Value) :
    (buckets.assign told key value).namesUnder operator = buckets.namesUnder operator := by
  induction buckets with
  | nil => exact if_neg other
  | cons bucket rest inductionHypothesis =>
    obtain ⟨own, fields⟩ := bucket
    by_cases here : own = told
    · subst here
      rw [assign, if_pos rfl, namesUnder, if_neg other, namesUnder, if_neg other]
    · rw [assign, if_neg here, namesUnder, inductionHypothesis, namesUnder]

theorem namesUnder_assign {named : List String}
    (before : buckets.namesUnder operator = named.eraseDups) (key value : Value) :
    (buckets.assign operator key value).namesUnder operator =
      (named ++ key.name?.toList).eraseDups := by
  induction buckets with
  | nil =>
    rw [assign, namesUnder, if_pos rfl]
    exact Entries.names_put (show Entries.names ([] : Record) = _ from before) key value
  | cons bucket rest inductionHypothesis =>
    obtain ⟨own, fields⟩ := bucket
    rw [namesUnder] at before
    by_cases here : own = operator
    · rw [if_pos here] at before
      rw [assign, if_pos here, namesUnder, if_pos here]
      exact Entries.names_put before key value
    · rw [if_neg here] at before
      rw [assign, if_neg here, namesUnder, if_neg here]
      exact inductionHypothesis before

/-- What is taken comes last under its operator, unless its name was there. -/
theorem namesUnder_take {named : List String}
    (before : buckets.namesUnder operator = named.eraseDups) (assertion : Assertion) :
    (buckets.take assertion).namesUnder operator =
      (named ++ (assertion.nameUnder? operator).toList).eraseDups := by
  unfold Assertion.nameUnder?
  by_cases about : assertion.operator = operator
  · subst about
    rw [if_pos rfl]
    exact namesUnder_assign before _ _
  · rw [if_neg about, Option.toList_none, List.append_nil, ← before]
    exact namesUnder_assign_of_ne about _ _ _

theorem namesUnder_foldl_take {named : List String}
    (before : buckets.namesUnder operator = named.eraseDups) (said : List Assertion) :
    (said.foldl take buckets).namesUnder operator =
      (named ++ said.filterMap (Assertion.nameUnder? operator)).eraseDups := by
  induction said generalizing buckets named with
  | nil => rw [List.foldl_nil, before, List.filterMap_nil, List.append_nil]
  | cons assertion rest inductionHypothesis =>
    rw [List.foldl_cons, inductionHypothesis (namesUnder_take before assertion), List.append_assoc]
    refine congrArg (fun names => List.eraseDups (named ++ names)) ?_
    rw [List.filterMap_cons]
    cases assertion.nameUnder? operator <;> rfl

/-- Where no operator comes twice, what buckets say of names is what they have under each. -/
theorem filterMap_pair?_assertions (nodup : (buckets.map Prod.fst).Nodup) :
    buckets.assertions.filterMap Assertion.pair? =
      (buckets.map Prod.fst).flatMap fun operator =>
        (buckets.namesUnder operator).map fun name => (operator, name) := by
  induction buckets with
  | nil => rfl
  | cons bucket rest inductionHypothesis =>
    obtain ⟨own, fields⟩ := bucket
    rw [List.map_cons, List.nodup_cons] at nodup
    have here : (Assertion.ofFields own fields).filterMap Assertion.pair? =
        (Entries.names fields).map fun name => (own, name) := by
      rw [Assertion.ofFields, Entries.names, Entries.keys, List.filterMap_map, List.filterMap_map,
        List.map_filterMap]
      rfl
    have elsewhere : ∀ operator ∈ List.map Prod.fst rest,
        ((namesUnder operator ((own, fields) :: rest)).map fun name => (operator, name)) =
          (namesUnder operator rest).map fun name => (operator, name) := by
      intro operator member
      rw [namesUnder, if_neg]
      rintro rfl
      exact nodup.1 member
    rw [assertions_cons, List.filterMap_append, here, inductionHypothesis nodup.2, List.map_cons,
      List.flatMap_cons, List.flatMap_congr elsewhere, namesUnder, if_pos rfl]

end Buckets

/-- Classified buckets have the names under an operator in the order in which they were first
said. -/
theorem namesUnder_classifyEntries {enableUndefined : Bool} {buckets classified : Buckets}
    {entries : List (Value × Value)} {operator : Operator} {named : List String}
    (before : buckets.namesUnder operator = named.eraseDups)
    (passed : classifyEntries enableUndefined buckets entries = .ok classified) :
    classified.namesUnder operator =
      (named ++ (Record.assertions entries).filterMap
        (Assertion.nameUnder? operator)).eraseDups := by
  induction entries generalizing buckets named with
  | nil =>
    cases passed
    rw [before, Record.assertions, List.flatMap_nil, List.filterMap_nil, List.append_nil]
  | cons entry rest inductionHypothesis =>
    obtain ⟨middle, first, passed⟩ := ok_of_bind passed
    rw [Record.assertions_cons, List.filterMap_append, ← List.append_assoc]
    refine inductionHypothesis ?_ passed
    rw [classifyEntry_eq_ok first]
    refine Buckets.namesUnder_foldl_take ?_ _
    rw [Buckets.namesUnder_opened, before]

section Classified

variable {record : Record} {enableUndefined : Bool} {buckets : Buckets}

theorem operators_classify (classified : classify record enableUndefined = .ok buckets) :
    buckets.map Prod.fst = record.operators := by
  have nothing : List.map Prod.fst ([] : Buckets) = List.eraseDups [] := rfl
  exact operators_classifyEntries nothing classified

theorem namesUnder_classify (classified : classify record enableUndefined = .ok buckets)
    (operator : Operator) : buckets.namesUnder operator = record.namesUnder operator := by
  have nothing : Buckets.namesUnder operator [] = List.eraseDups [] := rfl
  exact namesUnder_classifyEntries nothing classified

end Classified

/-! ### What a clause says -/

namespace Assertion

variable {said : List Assertion} {predicates : List Predicate}

/-- What becomes a predicate is said of the predicate's pair. -/
theorem Becomes.pair?_eq {assertion : Assertion} {predicate : Predicate}
    (becomes : assertion.Becomes predicate) : assertion.pair? = some predicate.pair := by
  obtain ⟨sameOperator, isName⟩ := becomes.names
  rw [pair?, isName, Predicate.pair, sameOperator]
  rfl

theorem pairs_eq (related : List.Forall₂ Becomes said predicates) :
    predicates.map Predicate.pair = said.filterMap pair? := by
  induction related with
  | nil => rfl
  | cons becomes _ inductionHypothesis =>
    rw [List.map_cons, List.filterMap_cons, becomes.pair?_eq, inductionHypothesis]

/-- Things that are said of different names become predicates of different pairs. -/
theorem nodup_pairs (apart : said.Pairwise fun first second =>
      first.operator = second.operator → first.key.equal second.key = false)
    (related : List.Forall₂ Becomes said predicates) :
    (predicates.map Predicate.pair).Nodup := by
  rw [pairs_eq related, List.Nodup, List.pairwise_filterMap]
  refine apart.imp fun different pair first other second same => ?_
  obtain ⟨name, isName, rfl⟩ := Option.map_eq_some_iff.mp first
  obtain ⟨_, isToo, rfl⟩ := Option.map_eq_some_iff.mp second
  obtain ⟨sameOperator, rfl⟩ := Prod.mk.inj same
  have unequal := different sameOperator
  rw [Value.name?_eq_some_iff.mp isName, Value.name?_eq_some_iff.mp isToo,
    Value.text_equal_self] at unequal
  cases unequal

end Assertion

section Classified

variable {record : Record} {enableUndefined : Bool} {buckets : Buckets}
  {predicates : List Predicate}

/-- There is a predicate of a pair exactly if the condition says something of it. -/
theorem mem_pairs_iff (classified : classify record enableUndefined = .ok buckets)
    (became : Predicate.ofBuckets buckets.toRecord = .ok predicates) (operator : Operator)
    (name : String) :
    (operator, name) ∈ predicates.map Predicate.pair ↔
      ∃ assertion ∈ record.assertions, assertion.operator = operator ∧
        assertion.key = .text name := by
  obtain ⟨related, stands⟩ := forall₂_becomes_of_classify classified became
  rw [Assertion.pairs_eq related, List.mem_filterMap]
  constructor
  · rintro ⟨assertion, member, isPair⟩
    obtain ⟨_, isName, same⟩ := Option.map_eq_some_iff.mp isPair
    cases same
    exact ⟨assertion, ((stands assertion).mp member).mem, rfl, Value.name?_eq_some_iff.mp isName⟩
  · rintro ⟨assertion, said, rfl, isName⟩
    obtain ⟨_, same, told, member, sameOperator, toldName⟩ :=
      exists_name_of_said classified (Assertion.exists_name_of_ofBuckets became) said
    rw [isName] at same
    cases same
    refine ⟨told, member, ?_⟩
    rw [Assertion.pair?, toldName, sameOperator]
    rfl

/-- The argument in the place of a predicate is bound for what stands of the predicate's pair. -/
theorem exists_stands_of_getElem? (classified : classify record enableUndefined = .ok buckets)
    (became : Predicate.ofBuckets buckets.toRecord = .ok predicates) {position : Nat}
    {predicate : Predicate} (placed : predicates[position]? = some predicate) :
    ∃ value, Assertion.Stands record.assertions
        ⟨predicate.operator, .text predicate.column.name, value⟩ ∧
      (predicateArguments predicates)[position]? =
        some (Assertion.bound ⟨predicate.operator, .text predicate.column.name, value⟩) := by
  obtain ⟨related, stands⟩ := forall₂_becomes_of_classify classified became
  obtain ⟨assertion, member, becomes⟩ :=
    exists_of_mem_forall₂ related (List.mem_of_getElem? placed)
  obtain ⟨sameOperator, isName⟩ := becomes.names
  have isSaid : (⟨predicate.operator, .text predicate.column.name, assertion.value⟩ : Assertion) =
      assertion := by
    rw [sameOperator, ← isName]
  refine ⟨assertion.value, ?_, ?_⟩
  · rw [isSaid]
    exact (stands assertion).mp member
  · rw [isSaid, ← becomes.toValue_eq, predicateArguments, List.getElem?_map, placed]
    rfl

end Classified

namespace Clause

variable {condition style order limit : Value} {enableUndefined : Bool} {rendered : ParamStyle}
  {clause : Clause}

/-- What a clause is compiled from: the buckets of the condition, in their order. -/
theorem exists_buckets_of_ofCondition
    (compiled : ofCondition condition enableUndefined style order limit =
      .ok (rendered, clause)) :
    ∃ (record : Record) (buckets : Buckets), condition.entriesOrNone = .ok record ∧
      classify record enableUndefined = .ok buckets ∧
      Predicate.ofBuckets buckets.toRecord = .ok clause.predicates := by
  obtain ⟨buckets, valued, rest⟩ := ok_of_bind compiled
  obtain ⟨record, given, classified⟩ := ok_of_bind valued
  obtain ⟨_, entries, asEntries, compiling, _⟩ := compile_of_ofValues rest
  cases asEntries
  exact ⟨record, buckets, given, classified, ofBuckets_of_compile compiling⟩

/-- Where a condition is compiled, the clause says exactly what the condition says, in the order in
which its operators and their names came first, and with what was said last of each. -/
theorem arranges_of_ofCondition
    (compiled : ofCondition condition enableUndefined style order limit =
      .ok (rendered, clause)) :
    ∃ record : Record,
      condition.entriesOrNone = .ok record ∧ clause.Arranges rendered record := by
  obtain ⟨record, buckets, given, classified, became⟩ := exists_buckets_of_ofCondition compiled
  have related := Assertion.forall₂_becomes_toRecord became
  have tidy : buckets.AreTidy := areTidy_classifyEntries Buckets.areTidy_nil classified
  refine ⟨record, given, ?_, ?_, ?_, ?_, ?_, ?_, ?_⟩
  · intro assertion said
    obtain ⟨name, isName, _⟩ :=
      exists_name_of_said classified (Assertion.exists_name_of_ofBuckets became) said
    exact ⟨name, isName⟩
  · exact Assertion.nodup_pairs tidy.apart related
  · exact mem_pairs_iff classified became
  · rw [Assertion.pairs_eq related, Buckets.filterMap_pair?_assertions tidy.1,
      operators_classify classified]
    exact List.flatMap_congr fun operator _ => by rw [namesUnder_classify classified]
  · exact List.length_map _
  · exact fun position predicate placed => exists_stands_of_getElem? classified became placed
  · rw [sql, whereText, Text.joinWith_eq_intercalate]

/-- An empty bucket comes first, an equality is said twice, and a collection and an `undefined` that
negates a null check are bound as one tuple and as null. -/
theorem arranges_mixed :
    let condition : Record := [(.text "in", .dict []), (.text "age", .int 1),
      (.text "is_not", .dict [(.text "name", .undefined)]), (.text "name", .text "Ada"),
      (.text "eq", .dict [(.text "age", .int 2)]),
      (.text "not_in", .dict [(.text "id", .list [.int 3, .int 4])])]
    ∃ clause, ofCondition (.dict condition) false (.text "qmark") .null .null =
        .ok (.qmark, clause) ∧ clause.Arranges .qmark condition ∧
      clause.sql .qmark =
        " WHERE \x60age\x60 = ? AND \x60name\x60 = ? AND \x60name\x60 IS NOT ? AND " ++
          "\x60id\x60 NOT IN (?)" ∧
      clause.arguments = [.int 2, .text "Ada", .null, .tuple [.int 3, .int 4]] := by
  intro condition
  refine ⟨_, rfl, ?_, rfl, rfl⟩
  obtain ⟨record, given, arranges⟩ := arranges_of_ofCondition
    (show ofCondition (.dict condition) false (.text "qmark") .null .null = .ok _ from rfl)
  cases given
  exact arranges

end Clause

end TableGateway
