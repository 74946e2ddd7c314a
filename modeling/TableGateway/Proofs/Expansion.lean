/-
This file says what binding arguments to the places of a text comes to, for any text, also
one that leaves a quote open. It passes exactly if there are as many places outside of
quotes as arguments. Each of these places becomes one for each value of its argument, and
all else stays as it is; and binding the values to the text that came of it changes nothing
more, unless one of them is a tuple.
-/

import TableGateway.Proofs.ArgumentCoding

namespace TableGateway

/-- What is handed to a file is handed to it as it is. -/
theorem storable_of_storable {value stored : Value} (stores : storable value = .ok stored) :
    storable stored = .ok stored := by
  have written {text : Except Fault String}
      (dumps : (orRefuse text).map Value.text = .ok stored) : storable stored = .ok stored := by
    obtain ⟨characters, _, rfl⟩ := reachesAs_of_written dumps
    rfl
  cases value with
  | list items => exact written stores
  | dict entries => exact written stores
  | _ =>
    cases stores
    rfl

namespace Sqlite

variable {text widened : List Char} {arguments values : List Value}

/-! ### From one place to the next -/

/-- A text with places has a first one, which stands outside of quotes. -/
theorem exists_mark {quote : Option Char} (marks : openMarks quote text ≠ 0) :
    ∃ part rest, text = part ++ '?' :: rest ∧ openMarks quote part = 0 ∧
      quoteAfter quote part = none := by
  induction text generalizing quote with
  | nil => exact absurd rfl marks
  | cons character rest inductionHypothesis =>
    by_cases passed : openMarks quote [character] = 0
    · have split := openMarks_append quote [character] rest
      rw [List.singleton_append, passed, Nat.zero_add] at split
      obtain ⟨part, behind, rfl, inert, outside⟩ := inductionHypothesis (split ▸ marks)
      refine ⟨character :: part, behind, rfl, ?_, ?_⟩
      · rw [← List.singleton_append, openMarks_append, passed, inert]
      · cases quote <;> exact outside
    · obtain ⟨rfl, rfl⟩ := isMark_of_openMarks passed
      exact ⟨[], rest, rfl, rfl, rfl⟩

theorem openMarks_mark (rest : List Char) :
    openMarks none ('?' :: rest) = openMarks none rest + 1 :=
  Nat.add_comm 1 _

/-- A text becomes another one: each of its places outside of quotes becomes one for each value of
the argument it is for, and what stands between them stays as it is. Behind the last of them a quote
may be left open. -/
inductive Widens : List Char → List Value → List Char → Prop where
  | last {part : List Char} (passed : openMarks none part = 0) : Widens part [] part
  | place {part rest widened : List Char} (argument : Value) {arguments : List Value}
      (passed : IsInert part) (widens : Widens rest arguments widened) :
      Widens (part ++ '?' :: rest) (argument :: arguments)
        (part ++ (places argument.parameters.length ++ widened))

/-- A text with as many places as there are arguments can be widened by them. -/
theorem exists_widens (same : openMarks none text = arguments.length) :
    ∃ widened, Widens text arguments widened := by
  induction arguments generalizing text with
  | nil => exact ⟨text, .last same⟩
  | cons argument arguments inductionHypothesis =>
    have marks : openMarks none text ≠ 0 := same ▸ Nat.succ_ne_zero _
    obtain ⟨part, rest, rfl, passed, outside⟩ := exists_mark marks
    rw [openMarks_append, passed, outside, openMarks_mark, Nat.zero_add, List.length_cons,
      Nat.add_right_cancel_iff] at same
    obtain ⟨widened, widens⟩ := inductionHypothesis same
    exact ⟨_, .place argument ⟨outside, passed⟩ widens⟩

/-- What a text is widened to has one place for each value. -/
theorem Widens.openMarks_eq (widens : Widens text arguments widened) :
    openMarks none widened = (arguments.flatMap Value.parameters).length := by
  induction widens with
  | last passed => exact passed
  | place argument passed _ inductionHypothesis =>
    rw [openMarks_inert passed, openMarks_places, inductionHypothesis, List.flatMap_cons,
      List.length_append]

/-- What is no tuple is its own value. -/
theorem parameters_of_ne_tuple {argument : Value} (single : ∀ items, argument ≠ .tuple items) :
    argument.parameters = [argument] := by
  cases argument with
  | tuple items => exact absurd rfl (single items)
  | _ => rfl

theorem flatMap_parameters (single : ∀ items, Value.tuple items ∉ arguments) :
    arguments.flatMap Value.parameters = arguments := by
  induction arguments with
  | nil => rfl
  | cons argument arguments inductionHypothesis =>
    have own := parameters_of_ne_tuple fun items same => single items (same ▸ List.mem_cons_self)
    rw [List.flatMap_cons, own, List.singleton_append,
      inductionHypothesis fun items member => single items (List.mem_cons_of_mem _ member)]

/-- Without tuples, a text is widened to itself. -/
theorem Widens.eq_self (widens : Widens text arguments widened)
    (single : ∀ items, Value.tuple items ∉ arguments) : widened = text := by
  induction widens with
  | last => rfl
  | place argument _ _ inductionHypothesis =>
    have own := parameters_of_ne_tuple fun items same => single items (same ▸ List.mem_cons_self)
    have onePlace : places 1 = ['?'] := by decide
    rw [own, List.length_singleton, onePlace, List.singleton_append,
      inductionHypothesis fun items member => single items (List.mem_cons_of_mem _ member)]

/-! ### Binding -/

variable {sql : String} {given : Nat}

/-- A text without places is bound to no arguments, and to others it is not. -/
theorem bindPlaces_of_unmarked {quote : Option Char} (passed : openMarks quote text = 0) :
    bindPlaces sql given quote text arguments =
      if arguments = [] then .ok (text, [])
      else refuse (.countMismatch given (given - arguments.length) sql) := by
  have whole := bindPlaces_append passed sql given [] arguments
  rw [List.append_nil] at whole
  rw [whole]
  cases arguments with
  | nil =>
    have same : (text ++ [], ([] : List Value)) = (text, []) := Prod.ext (List.append_nil _) rfl
    cases quoteAfter quote text <;> exact congrArg Except.ok same
  | cons argument arguments => cases quoteAfter quote text <;> rfl

/-- Up to its first place a text is passed over; there the first argument is bound. -/
theorem bindPlaces_of_marked (marks : openMarks none text ≠ 0) :
    ∃ part rest, text = part ++ '?' :: rest ∧ openMarks none text = openMarks none rest + 1 ∧
      ∀ arguments, bindPlaces sql given none text arguments =
        (fun bound => (part ++ bound.1, bound.2)) <$>
          bindPlaces sql given none ('?' :: rest) arguments := by
  obtain ⟨part, rest, rfl, passed, outside⟩ := exists_mark marks
  refine ⟨part, rest, rfl, ?_, fun arguments => ?_⟩
  · rw [openMarks_append, passed, outside, openMarks_mark, Nat.zero_add]
  · rw [bindPlaces_append passed, outside]

/-- Binding arguments widens a text by them, and comes to their values, stored one after another. -/
theorem Widens.bindPlaces_eq (widens : Widens text arguments widened) :
    bindPlaces sql given none text arguments =
      (fun values => (widened, values)) <$>
        (arguments.flatMap Value.parameters).mapM storable := by
  induction widens with
  | last passed => exact bindPlaces_of_unmarked passed
  | @place part rest widened argument arguments passed _ inductionHypothesis =>
    rw [bindPlaces_append passed.2, passed.1, bindPlaces_mark, placed_eq, inductionHypothesis,
      List.flatMap_cons, List.mapM_append]
    cases argument.parameters.mapM storable with
    | error failure => rfl
    | ok values => cases (arguments.flatMap Value.parameters).mapM storable <;> rfl

/-- Every value of some arguments can be handed to a file. -/
def AreStorable (arguments : List Value) : Prop :=
  ∀ value ∈ arguments.flatMap Value.parameters, ∃ stored, storable value = .ok stored

theorem AreStorable.of_cons {argument : Value} (can : AreStorable (argument :: arguments)) :
    (∃ marked, placed argument = .ok marked) ∧ AreStorable arguments := by
  rw [AreStorable, List.flatMap_cons, List.forall_mem_append] at can
  obtain ⟨values, stored⟩ := exists_mapM_of_forall can.1
  rw [placed_eq, stored]
  exact ⟨⟨_, rfl⟩, can.2⟩

/-- A place for which there is no argument is refused. -/
theorem bindPlaces_missing (can : AreStorable arguments)
    (fewer : arguments.length < openMarks none text) :
    bindPlaces sql given none text arguments = refuse (.missingArguments sql) := by
  induction arguments generalizing text with
  | nil =>
    obtain ⟨part, rest, rfl, _, bound⟩ := bindPlaces_of_marked (Nat.ne_of_gt fewer)
    rw [bound]
    rfl
  | cons argument arguments inductionHypothesis =>
    have marked : openMarks none text ≠ 0 := Nat.ne_of_gt (Nat.zero_lt_of_lt fewer)
    obtain ⟨part, rest, rfl, marks, bound⟩ := bindPlaces_of_marked marked
    obtain ⟨⟨_, places⟩, later⟩ := can.of_cons
    rw [marks, List.length_cons] at fewer
    rw [bound, bindPlaces_mark, places, inductionHypothesis later (Nat.lt_of_succ_lt_succ fewer)]
    rfl

/-- An argument for which there is no place is refused. -/
theorem bindPlaces_surplus (can : AreStorable arguments)
    (more : openMarks none text < arguments.length) :
    bindPlaces sql given none text arguments =
      refuse (.countMismatch given (given - (arguments.length - openMarks none text)) sql) := by
  induction arguments generalizing text with
  | nil => cases more
  | cons argument arguments inductionHypothesis =>
    by_cases marks : openMarks none text = 0
    · rw [bindPlaces_of_unmarked marks, if_neg (List.cons_ne_nil _ _), marks, Nat.sub_zero]
    · obtain ⟨part, rest, rfl, marked, bound⟩ := bindPlaces_of_marked marks
      obtain ⟨⟨_, places⟩, later⟩ := can.of_cons
      rw [marked, List.length_cons] at more ⊢
      rw [bound, bindPlaces_mark, places, inductionHypothesis later (Nat.lt_of_succ_lt_succ more),
        Nat.add_sub_add_right]
      rfl

/-! ### Any text -/

/-- What binding arguments to the places of a text keeps to. -/
structure KeepsPlaces (sql : String) (arguments : List Value) : Prop where
  passes : (∃ bound, expand sql arguments = .ok bound) ↔
    openMarks none sql.toList = arguments.length
  missing : arguments.length < openMarks none sql.toList →
    expand sql arguments = refuse (.missingArguments sql)
  surplus : openMarks none sql.toList < arguments.length →
    expand sql arguments =
      refuse (.countMismatch arguments.length (openMarks none sql.toList) sql)
  widens : ∀ bound, expand sql arguments = .ok bound →
    Widens sql.toList arguments bound.sql.toList
  stores : ∀ bound, expand sql arguments = .ok bound →
    List.Forall₂ (fun argument value => storable argument = .ok value)
      (arguments.flatMap Value.parameters) bound.values
  counts : ∀ bound, expand sql arguments = .ok bound →
    openMarks none bound.sql.toList = bound.values.length
  settles : ∀ bound, expand sql arguments = .ok bound →
    (∀ items, Value.tuple items ∉ bound.values) → expand bound.sql bound.values = .ok bound

/-- A text that is widened by some arguments is bound to them. -/
theorem Widens.expand_eq (widens : Widens sql.toList arguments widened)
    (stored : (arguments.flatMap Value.parameters).mapM storable = .ok values) :
    expand sql arguments = .ok ⟨String.ofList widened, values⟩ := by
  rw [expand, widens.bindPlaces_eq, stored]
  rfl

/-- Values that were handed over are handed over again as they are. -/
theorem mapM_storable_again
    (stored : List.Forall₂ (fun argument value => storable argument = .ok value) arguments values) :
    values.mapM storable = .ok values := by
  refine mapM_eq_ok_iff.mpr (List.forall₂_same.mpr fun value member => ?_)
  obtain ⟨argument, _, stores⟩ := exists_of_mem_forall₂ stored member
  exact storable_of_storable stores

/-- Binding arguments to a text passes exactly if it has a place for each, wherever its quotes open
and close; then each place is widened to the values of its argument, and binding those again
changes nothing. -/
theorem keepsPlaces_of_areStorable (sql : String) (can : AreStorable arguments) :
    KeepsPlaces sql arguments := by
  obtain ⟨values, stored⟩ := exists_mapM_of_forall can
  have missing (fewer : arguments.length < openMarks none sql.toList) :
      expand sql arguments = refuse (.missingArguments sql) := by
    rw [expand, bindPlaces_missing can fewer]
    rfl
  have surplus (more : openMarks none sql.toList < arguments.length) : expand sql arguments =
      refuse (.countMismatch arguments.length (openMarks none sql.toList) sql) := by
    rw [expand, bindPlaces_surplus can more, Nat.sub_sub_self (Nat.le_of_lt more)]
    rfl
  have passes : (∃ bound, expand sql arguments = .ok bound) ↔
      openMarks none sql.toList = arguments.length := by
    constructor
    · rintro ⟨bound, passed⟩
      rcases Nat.lt_trichotomy (openMarks none sql.toList) arguments.length with more | same | fewer
      · rw [surplus more] at passed
        cases passed
      · exact same
      · rw [missing fewer] at passed
        cases passed
    · intro same
      obtain ⟨widened, widens⟩ := exists_widens same
      exact ⟨_, widens.expand_eq stored⟩
  -- whatever passes is the one widening of the text, with the values in order
  have exact_ (bound : Bound) (passed : expand sql arguments = .ok bound) :
      Widens sql.toList arguments bound.sql.toList ∧ bound.values = values := by
    obtain ⟨widened, widens⟩ := exists_widens (passes.mp ⟨bound, passed⟩)
    rw [widens.expand_eq stored] at passed
    cases passed
    rw [String.toList_ofList]
    exact ⟨widens, rfl⟩
  have each := mapM_eq_ok_iff.mp stored
  have counts (bound : Bound) (passed : expand sql arguments = .ok bound) :
      openMarks none bound.sql.toList = bound.values.length := by
    obtain ⟨widens, rfl⟩ := exact_ bound passed
    rw [widens.openMarks_eq, each.length_eq]
  refine ⟨passes, missing, surplus, fun bound passed => (exact_ bound passed).1,
    fun bound passed => (exact_ bound passed).2 ▸ each, counts, fun bound passed single => ?_⟩
  obtain ⟨again, widens⟩ := exists_widens (counts bound passed)
  obtain ⟨_, rfl⟩ := exact_ bound passed
  have same := widens.eq_self single
  subst same
  have stays : (bound.values.flatMap Value.parameters).mapM storable = .ok bound.values := by
    rw [flatMap_parameters single]
    exact mapM_storable_again each
  rw [widens.expand_eq stays, String.ofList_toList]

/-- A question mark in a literal, in a name, or behind a quote that stays open takes no argument. -/
theorem keepsPlaces_openQuote :
    let sql := "SELECT '?', \x60a?\x60 FROM t WHERE b IN (?) AND c = ? AND d = \"?"
    let arguments := [Value.tuple [.int 1, .list [.int 2]], .bool true]
    AreStorable arguments ∧ ∃ bound, expand sql arguments = .ok bound ∧
      (∃ text, bound.values = [.int 1, .text text, .bool true]) ∧
      openMarks none bound.sql.toList = 3 ∧ expand bound.sql bound.values = .ok bound := by
  intro sql arguments
  have can : AreStorable arguments := by
    simp only [AreStorable, arguments, List.flatMap_cons, Value.parameters, List.flatMap_nil,
      List.append_nil, List.cons_append, List.nil_append, List.forall_mem_cons]
    exact ⟨⟨_, rfl⟩, ⟨_, rfl⟩, ⟨_, rfl⟩, fun _ member => absurd member List.not_mem_nil⟩
  have keeps := keepsPlaces_of_areStorable sql can
  obtain ⟨bound, passed⟩ := keeps.passes.mpr (by decide)
  have values : ∃ text, bound.values = [.int 1, .text text, .bool true] := by
    obtain ⟨_, _, first, others, same⟩ := List.forall₂_cons_left_iff.mp (keeps.stores bound passed)
    obtain ⟨_, _, second, last, rfl⟩ := List.forall₂_cons_left_iff.mp others
    obtain ⟨_, _, third, none, rfl⟩ := List.forall₂_cons_left_iff.mp last
    cases first
    cases third
    cases none
    obtain ⟨text, _, rfl⟩ := reachesAs_of_storable second
    exact ⟨text, same⟩
  obtain ⟨text, same⟩ := values
  refine ⟨can, bound, passed, ⟨text, same⟩, ?_, keeps.settles bound passed ?_⟩
  · rw [keeps.counts bound passed, same]
    rfl
  · simp [same]

end Sqlite

end TableGateway
