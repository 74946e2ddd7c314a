/-
This file shows that classified buckets are tidy: they name each operator once, and each
field once under it. So nothing is said twice, and what is said of a name is what the
buckets have of it. What has been named under an operator stays named under it, whatever
is said later.
-/

import TableGateway.Proofs.Assertion

namespace TableGateway

/-- No operator comes twice, and no field twice under one. -/
def Buckets.AreTidy (buckets : Buckets) : Prop :=
  (buckets.map Prod.fst).Nodup ∧ ∀ bucket ∈ buckets, Entries.AreDistinct bucket.2

/-! ### Each operator once, and each field once under it -/

namespace Buckets

/-- An operator that is named is there already, or comes last. -/
theorem operators_touch (buckets : Buckets) (operator : Operator) :
    (buckets.touch operator).map Prod.fst = buckets.map Prod.fst ∨
      (buckets.touch operator).map Prod.fst = buckets.map Prod.fst ++ [operator] ∧
        operator ∉ buckets.map Prod.fst := by
  induction buckets with
  | nil => exact .inr ⟨rfl, List.not_mem_nil⟩
  | cons bucket rest inductionHypothesis =>
    obtain ⟨own, fields⟩ := bucket
    by_cases same : own = operator
    · left
      simp only [touch, if_pos same]
    · simp only [touch, if_neg same, List.map_cons]
      rcases inductionHypothesis with kept | ⟨added, absent⟩
      · exact .inl (congrArg _ kept)
      · refine .inr ⟨congrArg _ added, fun member => ?_⟩
        rcases List.mem_cons.mp member with here | later
        · exact same here.symm
        · exact absent later

/-- Assigning names the same operators as touching. -/
theorem operators_assign (buckets : Buckets) (operator : Operator) (key value : Value) :
    (buckets.assign operator key value).map Prod.fst =
      (buckets.touch operator).map Prod.fst := by
  induction buckets with
  | nil => rfl
  | cons bucket rest inductionHypothesis =>
    obtain ⟨own, fields⟩ := bucket
    by_cases same : own = operator
    · simp only [assign, touch, if_pos same, List.map_cons]
    · simp only [assign, touch, if_neg same, List.map_cons, inductionHypothesis]

theorem mem_touch {buckets : Buckets} {operator : Operator} {bucket : Operator × Record}
    (member : bucket ∈ buckets.touch operator) : bucket ∈ buckets ∨ bucket.2 = [] := by
  induction buckets with
  | nil =>
    rw [List.mem_singleton.mp member]
    exact .inr rfl
  | cons first rest inductionHypothesis =>
    obtain ⟨own, fields⟩ := first
    by_cases same : own = operator
    · rw [touch, if_pos same] at member
      exact .inl member
    · rw [touch, if_neg same] at member
      rcases List.mem_cons.mp member with here | later
      · exact .inl (here ▸ List.mem_cons_self)
      · exact (inductionHypothesis later).imp_left (List.mem_cons_of_mem _)

theorem mem_assign {buckets : Buckets} {operator : Operator} {key value : Value}
    {bucket : Operator × Record} (member : bucket ∈ buckets.assign operator key value) :
    bucket ∈ buckets ∨ ∃ fields : Record, (fields = [] ∨ (operator, fields) ∈ buckets) ∧
      bucket.2 = fields.put key value := by
  induction buckets with
  | nil =>
    rw [List.mem_singleton.mp member]
    exact .inr ⟨[], .inl rfl, rfl⟩
  | cons first rest inductionHypothesis =>
    obtain ⟨own, fields⟩ := first
    by_cases same : own = operator
    · rw [assign, if_pos same] at member
      rcases List.mem_cons.mp member with here | later
      · exact .inr ⟨fields, .inr (same ▸ List.mem_cons_self), here ▸ rfl⟩
      · exact .inl (List.mem_cons_of_mem _ later)
    · rw [assign, if_neg same] at member
      rcases List.mem_cons.mp member with here | later
      · exact .inl (here ▸ List.mem_cons_self)
      · rcases inductionHypothesis later with kept | ⟨fields, origin, changed⟩
        · exact .inl (List.mem_cons_of_mem _ kept)
        · exact .inr ⟨fields, origin.imp_right (List.mem_cons_of_mem _), changed⟩

theorem nodup_operators_touch {buckets : Buckets} (nodup : (buckets.map Prod.fst).Nodup)
    (operator : Operator) : ((buckets.touch operator).map Prod.fst).Nodup := by
  rcases buckets.operators_touch operator with kept | ⟨added, absent⟩
  · rw [kept]
    exact nodup
  · rw [added, List.nodup_append]
    refine ⟨nodup, List.pairwise_singleton _ _, fun own member other last same => ?_⟩
    rw [List.mem_singleton.mp last] at same
    exact absent (same ▸ member)

theorem areTidy_nil : Buckets.AreTidy [] :=
  ⟨List.nodup_nil, fun _ member => absurd member List.not_mem_nil⟩

theorem areTidy_touch {buckets : Buckets} (tidy : buckets.AreTidy) (operator : Operator) :
    (buckets.touch operator).AreTidy := by
  refine ⟨nodup_operators_touch tidy.1 operator, fun bucket member => ?_⟩
  rcases mem_touch member with kept | empty
  · exact tidy.2 bucket kept
  · rw [empty]
    exact List.Pairwise.nil

theorem areTidy_take {buckets : Buckets} (tidy : buckets.AreTidy) (assertion : Assertion) :
    (buckets.take assertion).AreTidy := by
  constructor
  · rw [take, operators_assign]
    exact nodup_operators_touch tidy.1 assertion.operator
  · intro bucket member
    rcases mem_assign member with kept | ⟨fields, origin, changed⟩
    · exact tidy.2 bucket kept
    · rw [changed]
      refine Entries.areDistinct_put ?_ assertion.key assertion.value
      rcases origin with rfl | old
      · exact List.Pairwise.nil
      · exact tidy.2 _ old

end Buckets

theorem areTidy_classifyEntries {enableUndefined : Bool} {buckets classified : Buckets}
    {entries : List (Value × Value)} (tidy : buckets.AreTidy)
    (passed : classifyEntries enableUndefined buckets entries = .ok classified) :
    classified.AreTidy :=
  holds_classifyEntries Buckets.AreTidy
    (fun _ operator before => Buckets.areTidy_touch before operator)
    (fun assertion _ _ before => Buckets.areTidy_take before assertion) passed tidy

/-- In tidy buckets, what is said of a name is what they have of it. -/
theorem Buckets.value?_of_mem {buckets : Buckets} (tidy : buckets.AreTidy) {assertion : Assertion}
    (member : assertion ∈ buckets.assertions) {name : String}
    (named : assertion.key = .text name) :
    buckets.value? assertion.operator name = some assertion.value := by
  obtain ⟨nodup, distinct⟩ := tidy
  induction buckets with
  | nil => exact absurd member List.not_mem_nil
  | cons bucket rest inductionHypothesis =>
    obtain ⟨own, fields⟩ := bucket
    rw [List.map_cons, List.nodup_cons] at nodup
    rw [Buckets.assertions, List.flatMap_cons, List.mem_append] at member
    rw [Buckets.value?]
    rcases member with here | later
    · obtain ⟨field, among, rfl⟩ := List.mem_map.mp here
      obtain ⟨key, value⟩ := field
      cases named
      rw [if_pos rfl]
      exact Entries.named?_of_mem (distinct _ List.mem_cons_self) among
    · obtain ⟨found, among, said⟩ := List.mem_flatMap.mp later
      have underOperator : assertion.operator = found.1 := by
        obtain ⟨field, _, rfl⟩ := List.mem_map.mp said
        rfl
      have apart : own ≠ assertion.operator := by
        intro same
        rw [same, underOperator] at nodup
        exact nodup.1 (List.mem_map.mpr ⟨found, among, rfl⟩)
      rw [if_neg apart]
      exact inductionHypothesis later nodup.2
        fun bucket old => distinct bucket (List.mem_cons_of_mem _ old)

/-- In tidy buckets, no two things under one operator are said of equal keys. -/
theorem Buckets.AreTidy.apart {buckets : Buckets} (tidy : buckets.AreTidy) :
    buckets.assertions.Pairwise fun first second =>
      first.operator = second.operator → first.key.equal second.key = false := by
  refine List.pairwise_flatMap.mpr ⟨fun bucket member => ?_, ?_⟩
  · refine List.pairwise_map.mpr ((tidy.2 bucket member).imp ?_)
    exact fun different _ => different
  · refine (List.pairwise_map.mp tidy.1).imp fun different first among second later same => ?_
    obtain ⟨_, _, rfl⟩ := List.mem_map.mp among
    obtain ⟨_, _, rfl⟩ := List.mem_map.mp later
    exact absurd same different

/-- In tidy buckets, nothing is said twice of a name under an operator. -/
theorem Buckets.said_once {buckets : Buckets} (tidy : buckets.AreTidy)
    {before after : List Assertion} {assertion : Assertion}
    (split : buckets.assertions = before ++ assertion :: after) {name : String}
    (named : assertion.key = .text name) :
    ∀ other ∈ before ++ after, other.operator = assertion.operator → other.key ≠ .text name := by
  have apart := tidy.apart
  have itself := Value.text_equal_self name
  rw [split, List.pairwise_append, List.pairwise_cons] at apart
  obtain ⟨_, ⟨behind, _⟩, across⟩ := apart
  intro other member same isName
  rcases List.mem_append.mp member with early | late
  · have different := across other early assertion List.mem_cons_self same
    rw [isName, named, itself] at different
    cases different
  · have different := behind other late same.symm
    rw [isName, named, itself] at different
    cases different

/-! ### What stays named -/

namespace Buckets

/-- Something is said of a key, or of one equal to it, under an operator. -/
def Names (buckets : Buckets) (operator : Operator) (key : Value) : Prop :=
  ∃ fields, (operator, fields) ∈ buckets ∧
    ∃ own ∈ Entries.keys fields, own = key ∨ own.equal key = true

theorem Names.touch {buckets : Buckets} {operator : Operator} {key : Value}
    (named : buckets.Names operator key) (touched : Operator) :
    (buckets.touch touched).Names operator key := by
  obtain ⟨fields, member, own, among, same⟩ := named
  refine ⟨fields, ?_, own, among, same⟩
  induction buckets with
  | nil => exact absurd member List.not_mem_nil
  | cons bucket rest inductionHypothesis =>
    obtain ⟨first, others⟩ := bucket
    by_cases here : first = touched
    · rw [Buckets.touch, if_pos here]
      exact member
    · rw [Buckets.touch, if_neg here]
      rcases List.mem_cons.mp member with head | later
      · exact head ▸ List.mem_cons_self
      · exact List.mem_cons_of_mem _ (inductionHypothesis later)

/-- What is named before something is taken is named afterwards. -/
theorem Names.take {buckets : Buckets} {operator : Operator} {key : Value}
    (named : buckets.Names operator key) (assertion : Assertion) :
    (buckets.take assertion).Names operator key := by
  obtain ⟨fields, member, own, among, same⟩ := named
  unfold Buckets.take
  induction buckets with
  | nil => exact absurd member List.not_mem_nil
  | cons bucket rest inductionHypothesis =>
    obtain ⟨first, others⟩ := bucket
    by_cases here : first = assertion.operator
    · rw [assign, if_pos here]
      rcases List.mem_cons.mp member with head | later
      · cases head
        exact ⟨_, List.mem_cons_self, own,
          Entries.keys_subset_put fields assertion.key assertion.value among, same⟩
      · exact ⟨fields, List.mem_cons_of_mem _ later, own, among, same⟩
    · rw [assign, if_neg here]
      rcases List.mem_cons.mp member with head | later
      · exact ⟨fields, head ▸ List.mem_cons_self, own, among, same⟩
      · obtain ⟨found, inside, own, among, same⟩ := inductionHypothesis later
        exact ⟨found, List.mem_cons_of_mem _ inside, own, among, same⟩

/-- What is taken is named. -/
theorem names_take (buckets : Buckets) (assertion : Assertion) :
    (buckets.take assertion).Names assertion.operator assertion.key := by
  unfold Buckets.take
  induction buckets with
  | nil => exact ⟨_, List.mem_cons_self, assertion.key, List.mem_cons_self, .inl rfl⟩
  | cons bucket rest inductionHypothesis =>
    obtain ⟨first, fields⟩ := bucket
    by_cases here : first = assertion.operator
    · rw [assign, if_pos here, here]
      exact ⟨_, List.mem_cons_self, fields.exists_mem_keys_put assertion.key assertion.value⟩
    · rw [assign, if_neg here]
      obtain ⟨found, inside, stays⟩ := inductionHypothesis
      exact ⟨found, List.mem_cons_of_mem _ inside, stays⟩

theorem names_foldl_take (buckets : Buckets) {said : List Assertion} {assertion : Assertion}
    (member : assertion ∈ said) :
    (said.foldl take buckets).Names assertion.operator assertion.key := by
  induction said generalizing buckets with
  | nil => exact absurd member List.not_mem_nil
  | cons first rest inductionHypothesis =>
    rcases List.mem_cons.mp member with rfl | later
    · exact List.foldlRecOn (motive := (Names · assertion.operator assertion.key)) rest take
        (buckets.names_take assertion) fun _ named later _ => named.take later
    · exact inductionHypothesis (buckets.take first) later

/-- What is named is among what is said. -/
theorem Names.exists_mem_assertions {buckets : Buckets} {operator : Operator} {key : Value}
    (named : buckets.Names operator key) :
    ∃ assertion ∈ buckets.assertions, assertion.operator = operator ∧
      (assertion.key = key ∨ assertion.key.equal key = true) := by
  obtain ⟨fields, member, own, among, same⟩ := named
  obtain ⟨field, inside, rfl⟩ := List.mem_map.mp among
  exact ⟨⟨operator, field.1, field.2⟩,
    List.mem_flatMap.mpr ⟨_, member, List.mem_map.mpr ⟨field, inside, rfl⟩⟩, rfl, same⟩

end Buckets

theorem Buckets.Names.classifyEntries {enableUndefined : Bool} {buckets classified : Buckets}
    {entries : List (Value × Value)}
    (passed : classifyEntries enableUndefined buckets entries = .ok classified)
    {operator : Operator} {key : Value} (named : buckets.Names operator key) :
    classified.Names operator key :=
  holds_classifyEntries (Buckets.Names · operator key)
    (fun _ touched before => before.touch touched)
    (fun assertion _ _ before => before.take assertion) passed named

/-- Whatever a condition says of a key, the classified buckets say something of it under the same
operator. -/
theorem names_classifyEntries {enableUndefined : Bool} {buckets classified : Buckets}
    {entries : List (Value × Value)}
    (passed : classifyEntries enableUndefined buckets entries = .ok classified)
    {assertion : Assertion} (said : assertion ∈ Record.assertions entries) :
    classified.Names assertion.operator assertion.key := by
  induction entries generalizing buckets with
  | nil => exact absurd said List.not_mem_nil
  | cons entry rest inductionHypothesis =>
    obtain ⟨key, value⟩ := entry
    obtain ⟨middle, first, passed⟩ := ok_of_bind passed
    rw [Record.assertions_cons] at said
    rcases List.mem_append.mp said with now | later
    · refine Buckets.Names.classifyEntries passed ?_
      rw [classifyEntry_eq_ok first]
      exact Buckets.names_foldl_take _ now
    · exact inductionHypothesis passed later

end TableGateway
