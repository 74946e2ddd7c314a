/-
This file says what the arguments of a statement are handed to a driver as, once the items
of each tuple stand for themselves. A list or a mapping is handed over as its JSON text,
and a text, a number, a truth value or nothing as it is. A database file gets every
argument so. A server gets the arguments so that are no tuples, and tuples as they are,
whatever is among their items.
-/

import TableGateway.Proofs.Conjunct
import TableGateway.Proofs.Places
import TableGateway.Proofs.Reporting

namespace TableGateway

namespace Value

/-- Lists and mappings. -/
def isNested : Value → Bool
  | .list _ => true
  | .dict _ => true
  | _ => false

/-- A list or a mapping that has no JSON text. -/
def IsUnwritable (value : Value) : Prop :=
  value.isNested = true ∧ ∃ fault, jsonText value = .error fault

/-- A tuple with a list or a mapping among its items. -/
def HidesNested (argument : Value) : Prop :=
  ∃ items, argument = .tuple items ∧ ∃ item ∈ items, item.isNested = true

/-- A value reaches a driver as it should: a list or a mapping as its JSON text; a text, a number, a
truth value or nothing as it is. Of other values nothing is said. -/
def ReachesAs (value given : Value) : Prop :=
  match value with
  | .list items => ∃ text, jsonText (.list items) = .ok text ∧ given = .text text
  | .dict entries => ∃ text, jsonText (.dict entries) = .ok text ∧ given = .text text
  | .null => given = .null
  | .bool flag => given = .bool flag
  | .int number => given = .int number
  | .float number => given = .float number
  | .text characters => given = .text characters
  | _ => True

end Value

open Value (IsUnwritable HidesNested ReachesAs)

variable {value given : Value} {arguments values : List Value}

/-! ### One value -/

theorem reachesAs_of_written {written : Except Fault String}
    (dumps : (orRefuse written).map Value.text = .ok given) :
    ∃ text, written = .ok text ∧ given = .text text := by
  cases written with
  | error fault => cases dumps
  | ok text =>
    cases dumps
    exact ⟨text, rfl, rfl⟩

theorem reachesAs_of_bindable (bound : bindable value = .ok given) : value.ReachesAs given := by
  cases value with
  | list items => exact reachesAs_of_written bound
  | dict entries => exact reachesAs_of_written bound
  | null => exact (Except.ok.inj bound).symm
  | bool flag => exact (Except.ok.inj bound).symm
  | int number => exact (Except.ok.inj bound).symm
  | float number => exact (Except.ok.inj bound).symm
  | text characters => exact (Except.ok.inj bound).symm
  | _ => trivial

theorem reachesAs_of_storable (stored : storable value = .ok given) : value.ReachesAs given := by
  cases value with
  | datetime moment => trivial
  | date day => trivial
  | decimal number => trivial
  | _ => exact reachesAs_of_bindable stored

theorem bindable_of_isUnwritable (unwritable : value.IsUnwritable) :
    ∃ fault, bindable value = .error (.invalid fault) := by
  obtain ⟨nested, fault, fails⟩ := unwritable
  cases value with
  | list items => exact ⟨fault, by rw [bindable, fails]; rfl⟩
  | dict entries => exact ⟨fault, by rw [bindable, fails]; rfl⟩
  | _ => cases nested

theorem storable_of_isUnwritable (unwritable : value.IsUnwritable) :
    ∃ fault, storable value = .error (.invalid fault) := by
  cases value with
  | list items => exact bindable_of_isUnwritable unwritable
  | dict entries => exact bindable_of_isUnwritable unwritable
  | _ => cases unwritable.1

/-! ### Several values -/

/-- What is refused at worst, and does not pass, is refused. -/
theorem OnlyRefuses.exists_fault {Result : Type} {checked : Except Failure Result}
    (only : OnlyRefuses checked) (stuck : ∀ result, checked ≠ .ok result) :
    ∃ fault, checked = .error (.invalid fault) := by
  cases only with
  | passes result => exact (stuck result rfl).elim
  | refuses fault => exact ⟨fault, rfl⟩

theorem forall₂_append_iff {Item Result : Type} {related : Item → Result → Prop}
    {first rest : List Item} {made others : List Result} (same : first.length = made.length) :
    List.Forall₂ related (first ++ rest) (made ++ others) ↔
      List.Forall₂ related first made ∧ List.Forall₂ related rest others := by
  constructor
  · intro together
    have start := List.forall₂_take_append _ made others together
    have remainder := List.forall₂_drop_append _ made others together
    rw [← same, List.take_left] at start
    rw [← same, List.drop_left] at remainder
    exact ⟨start, remainder⟩
  · rintro ⟨start, remainder⟩
    exact List.rel_append start remainder

/-! ### A database file -/

namespace Sqlite

/-- Only a question mark outside of quotes is a place. -/
theorem isMark_of_openMarks {quote : Option Char} {character : Char}
    (marks : ¬openMarks quote [character] = 0) : quote = none ∧ character = '?' := by
  cases quote with
  | some quote => exact (marks rfl).elim
  | none =>
    refine ⟨rfl, Decidable.byContradiction fun other => marks ?_⟩
    by_cases opens : isQuote character = true
    · simp [openMarks, opens]
    · simp [openMarks, opens, other]

/-- The values that are bound to the places of a statement are those of its arguments, each stored.
-/
theorem stored_of_bindPlaces {sql : String} {given : Nat} {quote : Option Char}
    {text opened : List Char} (bound : bindPlaces sql given quote text arguments =
      .ok (opened, values)) :
    List.Forall₂ (fun argument value => storable argument = .ok value)
      (arguments.flatMap Value.parameters) values := by
  induction text generalizing quote arguments opened values with
  | nil =>
    cases arguments with
    | nil =>
      cases quote <;> cases bound <;> exact .nil
    | cons argument others => cases quote <;> cases bound
  | cons character rest inductionHypothesis =>
    by_cases passed : openMarks quote [character] = 0
    · rw [bindPlaces_cons passed] at bound
      obtain ⟨both, later, is⟩ := ok_of_map bound
      cases is
      exact inductionHypothesis later
    · obtain ⟨rfl, rfl⟩ := isMark_of_openMarks passed
      cases arguments with
      | nil => cases bound
      | cons argument others =>
        rw [bindPlaces_mark, placed_eq] at bound
        obtain ⟨marked, here, bound⟩ := ok_of_bind bound
        obtain ⟨own, stored, rfl⟩ := ok_of_map here
        obtain ⟨both, later, bound⟩ := ok_of_bind bound
        cases bound
        exact List.rel_append (mapM_eq_ok_iff.mp stored) (inductionHypothesis later)

theorem stored_of_expand {sql : String} {bound : Bound}
    (passed : expand sql arguments = .ok bound) :
    List.Forall₂ (fun argument value => storable argument = .ok value)
      (arguments.flatMap Value.parameters) bound.values := by
  unfold expand at passed
  obtain ⟨both, read, passed⟩ := ok_of_bind passed
  cases passed
  exact stored_of_bindPlaces read

/-- Every argument reaches a database file as it should, the items of tuples among them. -/
theorem reachesAs_of_expand {sql : String} {bound : Bound}
    (passed : expand sql arguments = .ok bound) :
    List.Forall₂ ReachesAs (arguments.flatMap Value.parameters) bound.values :=
  (stored_of_expand passed).imp fun _ _ stored => reachesAs_of_storable stored

/-- A list or a mapping without a JSON text is refused, wherever it stands among the arguments. -/
theorem expand_of_isUnwritable {sql : String}
    (unwritable : ∃ value ∈ arguments.flatMap Value.parameters, value.IsUnwritable) :
    ∃ fault, expand sql arguments = .error (.invalid fault) := by
  obtain ⟨value, member, unwritable⟩ := unwritable
  obtain ⟨fault, fails⟩ := storable_of_isUnwritable unwritable
  refine (onlyRefuses_expand sql arguments).exists_fault fun bound passed => ?_
  obtain ⟨_, _, stored⟩ := exists_of_mem_left_forall₂ (stored_of_expand passed) member
  rw [fails] at stored
  cases stored

end Sqlite

/-! ### A server -/

namespace MySql

/-- What is no tuple reaches a server as it should, and a tuple as it is. -/
def HandedAs (argument given : Value) : Prop :=
  (∀ items, argument = .tuple items → given = argument) ∧
    ((∀ items, argument ≠ .tuple items) → argument.ReachesAs given)

theorem handedAs_of_bindable (bound : bindable value = .ok given) : HandedAs value given := by
  refine ⟨?_, fun _ => reachesAs_of_bindable bound⟩
  rintro items rfl
  exact (Except.ok.inj bound).symm

theorem handedAs_of_mapM (bound : arguments.mapM bindable = .ok values) :
    List.Forall₂ HandedAs arguments values :=
  (mapM_eq_ok_iff.mp bound).imp fun _ _ bound => handedAs_of_bindable bound

/-- An item reaches a server as it stands, which is as it should exactly if it is neither a list nor
a mapping. -/
theorem reachesAs_self_iff (item : Value) : item.ReachesAs item ↔ item.isNested = false := by
  cases item <;> simp [ReachesAs, Value.isNested]

theorem forall₂_self_iff (items : List Value) :
    List.Forall₂ ReachesAs items items ↔ ∀ item ∈ items, item.isNested = false := by
  rw [List.forall₂_same]
  simp only [reachesAs_self_iff]

/-- What an argument is handed over as has as many parts as the argument, and these are as they
should be unless it is a tuple with a list or a mapping in it. -/
theorem parameters_of_bindable (bound : bindable value = .ok given) :
    value.parameters.length = given.parameters.length ∧
      (List.Forall₂ ReachesAs value.parameters given.parameters ↔ ¬value.HidesNested) := by
  -- what is no tuple is handed over in one piece
  have single (own : value.parameters = [value]) (whole : given.parameters = [given])
      (noTuple : ∀ items, value ≠ .tuple items) :
      value.parameters.length = given.parameters.length ∧
        (List.Forall₂ ReachesAs value.parameters given.parameters ↔ ¬value.HidesNested) := by
    rw [own, whole]
    refine ⟨rfl, fun _ => ?_, fun _ => .cons (reachesAs_of_bindable bound) .nil⟩
    rintro ⟨items, is, _⟩
    exact noTuple items is
  cases value with
  | tuple items =>
    cases bound
    refine ⟨rfl, (forall₂_self_iff items).trans ?_⟩
    simp only [HidesNested, Value.tuple.injEq, exists_eq_left', not_exists, not_and,
      Bool.not_eq_true]
  | list items =>
    obtain ⟨text, _, rfl⟩ := reachesAs_of_written bound
    exact single rfl rfl nofun
  | dict entries =>
    obtain ⟨text, _, rfl⟩ := reachesAs_of_written bound
    exact single rfl rfl nofun
  | _ =>
    cases bound
    exact single rfl rfl nofun

theorem reachesAs_iff_of_mapM (bound : arguments.mapM bindable = .ok values) :
    List.Forall₂ ReachesAs (arguments.flatMap Value.parameters)
        (values.flatMap Value.parameters) ↔
      ∀ argument ∈ arguments, ¬argument.HidesNested := by
  have each := mapM_eq_ok_iff.mp bound
  clear bound
  induction each with
  | nil => exact ⟨fun _ => nofun, fun _ => .nil⟩
  | cons here _ inductionHypothesis =>
    obtain ⟨same, reaches⟩ := parameters_of_bindable here
    rw [List.flatMap_cons, List.flatMap_cons, forall₂_append_iff same, reaches,
      List.forall_mem_cons]
    exact and_congr_right fun _ => inductionHypothesis

/-- A list or a mapping without a JSON text is refused where it is an argument itself. -/
theorem mapM_of_isUnwritable (unwritable : ∃ value ∈ arguments, value.IsUnwritable) :
    ∃ fault, arguments.mapM bindable = .error (.invalid fault) := by
  obtain ⟨value, member, unwritable⟩ := unwritable
  obtain ⟨fault, fails⟩ := bindable_of_isUnwritable unwritable
  refine (onlyRefuses_mapM onlyRefuses_bindable arguments).exists_fault fun values passed => ?_
  obtain ⟨_, _, bound⟩ := exists_of_mem_left_forall₂ (mapM_eq_ok_iff.mp passed) member
  rw [fails] at bound
  cases bound

/-- Only a list or a mapping without a JSON text is refused. -/
theorem exists_bindable (writable : ¬value.IsUnwritable) : ∃ given, bindable value = .ok given := by
  have dumped (nested : value.isNested = true) : ∃ text, jsonText value = .ok text := by
    cases dumps : jsonText value with
    | ok text => exact ⟨text, rfl⟩
    | error fault => exact (writable ⟨nested, fault, dumps⟩).elim
  cases value with
  | list items =>
    obtain ⟨text, dumps⟩ := dumped rfl
    exact ⟨.text text, by rw [bindable, dumps]; rfl⟩
  | dict entries =>
    obtain ⟨text, dumps⟩ := dumped rfl
    exact ⟨.text text, by rw [bindable, dumps]; rfl⟩
  | _ => exact ⟨_, rfl⟩

theorem exists_mapM (writable : ∀ argument ∈ arguments, ¬argument.IsUnwritable) :
    ∃ values, arguments.mapM bindable = .ok values :=
  exists_mapM_of_forall fun argument member => exists_bindable (writable argument member)

end MySql

end TableGateway
