/-
This file follows the reader of places through a statement. Parts that leave it outside of
quotes and have no question mark there are passed over; each question mark outside of
quotes takes one argument. A text that is made of such parts and of one question mark for
each argument is bound without fail, as far as the arguments can be stored, and what
comes of it has one question mark for each value.
-/

import Mathlib.Data.List.Forall2
import TableGateway.Proofs.Joined
import TableGateway.Proofs.Run
import TableGateway.Sqlite.Placeholders

namespace TableGateway

/-- The values that an argument binds: the items of a tuple, or the argument itself. -/
def Value.parameters : Value → List Value
  | .tuple items => items
  | value => [value]

/-- The only values that cannot be stored are those that have no JSON text. -/
theorem storable_eq_error {value : Value} {failure : Failure}
    (refused : storable value = .error failure) :
    ∃ fault, failure = .invalid (.unwritable fault) := by
  have unwritable (held : Value) (failed : (orRefuse (jsonText held)).map Value.text =
      .error failure) : ∃ fault, failure = .invalid (.unwritable fault) := by
    unfold jsonText at failed
    cases written : Json.write held with
    | ok characters =>
      rw [written] at failed
      cases failed
    | error fault =>
      rw [written] at failed
      cases failed
      exact ⟨fault, rfl⟩
  cases value with
  | list items => exact unwritable _ refused
  | dict entries => exact unwritable _ refused
  | _ => cases refused

namespace Sqlite

/-! ### Inside and outside of quotes -/

/-- The quote that a reader is in after a text, if any, when it was in one before, or in none. -/
def quoteAfter : Option Char → List Char → Option Char
  | quote, [] => quote
  | some quote, character :: rest =>
    quoteAfter (if character = quote then none else some quote) rest
  | none, character :: rest =>
    quoteAfter (if isQuote character then some character else none) rest

/-- How many question marks stand outside of quotes. -/
def openMarks : Option Char → List Char → Nat
  | _, [] => 0
  | some quote, character :: rest =>
    openMarks (if character = quote then none else some quote) rest
  | none, character :: rest =>
    if isQuote character then openMarks (some character) rest
    else (if character = '?' then 1 else 0) + openMarks none rest

/-- A part that ends outside of quotes if it begins there, without a place for an argument. -/
def IsInert (part : List Char) : Prop :=
  quoteAfter none part = none ∧ openMarks none part = 0

instance (part : List Char) : Decidable (IsInert part) :=
  inferInstanceAs (Decidable (_ ∧ _))

theorem quoteAfter_append (quote : Option Char) (first second : List Char) :
    quoteAfter quote (first ++ second) = quoteAfter (quoteAfter quote first) second := by
  induction first generalizing quote with
  | nil => rfl
  | cons character first inductionHypothesis =>
    cases quote <;> exact inductionHypothesis _

theorem openMarks_append (quote : Option Char) (first second : List Char) :
    openMarks quote (first ++ second) =
      openMarks quote first + openMarks (quoteAfter quote first) second := by
  induction first generalizing quote with
  | nil => exact (Nat.zero_add _).symm
  | cons character first inductionHypothesis =>
    cases quote with
    | some quote => exact inductionHypothesis _
    | none =>
      by_cases opening : isQuote character = true
      · simp only [List.cons_append, openMarks, quoteAfter, opening, if_true,
          inductionHypothesis]
      · simp only [List.cons_append, openMarks, quoteAfter, opening, Bool.false_eq_true, if_false,
          inductionHypothesis, Nat.add_assoc]

theorem openMarks_inert {part : List Char} (inert : IsInert part) (rest : List Char) :
    openMarks none (part ++ rest) = openMarks none rest := by
  rw [openMarks_append, inert.1, inert.2, Nat.zero_add]

/-- What has neither quotes nor question marks is passed over. -/
theorem isInert_of_plain {part : List Char}
    (plain : ∀ character ∈ part, isQuote character = false ∧ character ≠ '?') : IsInert part := by
  induction part with
  | nil => exact ⟨rfl, rfl⟩
  | cons character part inductionHypothesis =>
    obtain ⟨notQuote, notMark⟩ := plain character List.mem_cons_self
    obtain ⟨outside, none⟩ := inductionHypothesis
      fun other member => plain other (List.mem_cons_of_mem _ member)
    constructor
    · simp only [quoteAfter, notQuote, Bool.false_eq_true, if_false, outside]
    · simp only [openMarks, notQuote, Bool.false_eq_true, if_false, notMark, none]

/-- Inside a quote, what does not have the quote itself is passed over. -/
theorem quoted_plain {quote : Char} {part : List Char} (plain : quote ∉ part) (rest : List Char) :
    quoteAfter (some quote) (part ++ rest) = quoteAfter (some quote) rest ∧
      openMarks (some quote) (part ++ rest) = openMarks (some quote) rest := by
  induction part with
  | nil => exact ⟨rfl, rfl⟩
  | cons character part inductionHypothesis =>
    have other : ¬character = quote := fun same => plain (same ▸ List.mem_cons_self)
    obtain ⟨inside, marks⟩ := inductionHypothesis
      fun member => plain (List.mem_cons_of_mem _ member)
    simp only [List.cons_append, quoteAfter, openMarks, if_neg other]
    exact ⟨inside, marks⟩

/-- A quoted name is passed over, whatever else it has. -/
theorem isInert_quoted (identifier : Identifier) : IsInert identifier.quoted.toList := by
  obtain ⟨inside, marks⟩ := quoted_plain identifier.plain [backtick]
  rw [Identifier.toList_quoted]
  constructor
  · have opens : quoteAfter none (backtick :: (identifier.name.toList ++ [backtick])) =
        quoteAfter (some backtick) (identifier.name.toList ++ [backtick]) := rfl
    rw [opens, inside]
    decide
  · have opens : openMarks none (backtick :: (identifier.name.toList ++ [backtick])) =
        openMarks (some backtick) (identifier.name.toList ++ [backtick]) := rfl
    rw [opens, marks]
    decide

/-! ### Reading on -/

/-- A character that is no place stays as it is, in front of what comes of the rest. -/
theorem bindPlaces_cons {quote : Option Char} {character : Char}
    (passed : openMarks quote [character] = 0) (sql : String) (given : Nat) (rest : List Char)
    (arguments : List Value) :
    bindPlaces sql given quote (character :: rest) arguments =
      (fun bound => (character :: bound.1, bound.2)) <$>
        bindPlaces sql given (quoteAfter quote [character]) rest arguments := by
  cases quote with
  | some quote =>
    rw [bindPlaces, quoteAfter, quoteAfter, map_eq_pure_bind]
  | none =>
    by_cases opening : isQuote character = true
    · rw [bindPlaces.eq_def]
      simp only [opening, if_true, quoteAfter, map_eq_pure_bind]
    · have notMark : ¬character = '?' := by
        intro mark
        rw [mark] at passed
        cases passed
      rw [bindPlaces.eq_def]
      simp only [opening, Bool.false_eq_true, if_false, notMark, quoteAfter, map_eq_pure_bind]

theorem bindPlaces_mark (sql : String) (given : Nat) (rest : List Char) (argument : Value)
    (arguments : List Value) :
    bindPlaces sql given none ('?' :: rest) (argument :: arguments) =
      placed argument >>= fun marked =>
        bindPlaces sql given none rest arguments >>= fun others =>
          pure (marked.1 ++ others.1, marked.2 ++ others.2) :=
  rfl

theorem bindPlaces_append {quote : Option Char} {part : List Char}
    (passed : openMarks quote part = 0) (sql : String) (given : Nat) (rest : List Char)
    (arguments : List Value) :
    bindPlaces sql given quote (part ++ rest) arguments =
      (fun bound => (part ++ bound.1, bound.2)) <$>
        bindPlaces sql given (quoteAfter quote part) rest arguments := by
  induction part generalizing quote with
  | nil => exact (id_map _).symm
  | cons character part inductionHypothesis =>
    have split := openMarks_append quote [character] part
    rw [List.singleton_append, passed] at split
    have here : openMarks quote [character] = 0 := by omega
    have later : openMarks (quoteAfter quote [character]) part = 0 := by omega
    have state : quoteAfter (quoteAfter quote [character]) part =
        quoteAfter quote (character :: part) := by
      cases quote <;> rfl
    rw [List.cons_append, bindPlaces_cons here, inductionHypothesis later, state,
      Functor.map_map]
    rfl

theorem openMarks_places (count : Nat) (rest : List Char) :
    openMarks none (places count ++ rest) = count + openMarks none rest := by
  have others (count : Nat) :
      openMarks none ((List.replicate count "?").flatMap
        (fun text => ", ".toList ++ text.toList) ++ rest) = count + openMarks none rest := by
    induction count with
    | zero => exact (Nat.zero_add _).symm
    | succ count inductionHypothesis =>
      rw [List.replicate_succ, List.flatMap_cons, List.append_assoc, openMarks_append,
        show quoteAfter none (", ".toList ++ "?".toList) = none by decide, inductionHypothesis,
        show openMarks none (", ".toList ++ "?".toList) = 1 by decide]
      omega
  cases count with
  | zero => exact (Nat.zero_add _).symm
  | succ count =>
    rw [places, List.replicate_succ, Text.toList_joinWith, List.append_assoc, openMarks_append,
      show quoteAfter none "?".toList = none by decide, others,
      show openMarks none "?".toList = 1 by decide]
    omega

/-- An argument puts one place for each of its values. -/
theorem placed_eq (argument : Value) :
    placed argument = (fun values => (places argument.parameters.length, values)) <$>
      argument.parameters.mapM storable := by
  have single (value : Value) : (do return (['?'], [← storable value]) : Except Failure _) =
      (fun values => (places 1, values)) <$> [value].mapM storable := by
    rw [List.mapM_cons, List.mapM_nil]
    cases storable value <;> rfl
  cases argument with
  | tuple items => exact (map_eq_pure_bind _ _).symm
  | _ => exact single _

/-! ### Texts with a place for each argument -/

/-- A text is made of parts that are passed over and of one place for each argument, and opened up
it is the same text with as many places there as the argument has values. -/
inductive Opens : List Char → List Value → List Char → Prop where
  | nil : Opens [] [] []
  | inert {part rest opened : List Char} {arguments : List Value} (passed : IsInert part)
      (opens : Opens rest arguments opened) : Opens (part ++ rest) arguments (part ++ opened)
  | place (argument : Value) {rest opened : List Char} {arguments : List Value}
      (opens : Opens rest arguments opened) :
      Opens ('?' :: rest) (argument :: arguments) (places argument.parameters.length ++ opened)

/-- What is opened up has one question mark for each value. -/
theorem Opens.openMarks_eq {text opened : List Char} {arguments : List Value}
    (opens : Opens text arguments opened) :
    openMarks none opened = (arguments.flatMap Value.parameters).length := by
  induction opens with
  | nil => rfl
  | inert passed _ inductionHypothesis => rw [openMarks_inert passed, inductionHypothesis]
  | place argument _ inductionHypothesis =>
    rw [openMarks_places, inductionHypothesis, List.flatMap_cons, List.length_append]

/-- Binding opens a text up, and comes to the values of its arguments in order, stored one after
another. -/
theorem Opens.bindPlaces_eq {text opened : List Char} {arguments : List Value}
    (opens : Opens text arguments opened) (sql : String) (given : Nat) :
    bindPlaces sql given none text arguments =
      (fun values => (opened, values)) <$>
        (arguments.flatMap Value.parameters).mapM storable := by
  induction opens with
  | nil => rfl
  | inert passed _ inductionHypothesis =>
    rw [bindPlaces_append passed.2, passed.1, inductionHypothesis, Functor.map_map]
  | @place argument rest opened arguments _ inductionHypothesis =>
    rw [bindPlaces_mark, placed_eq, inductionHypothesis, List.flatMap_cons, List.mapM_append]
    cases argument.parameters.mapM storable with
    | error failure => rfl
    | ok values =>
      cases (arguments.flatMap Value.parameters).mapM storable with
      | error failure => rfl
      | ok others => rfl

theorem Opens.append {first second opened widened : List Char} {arguments others : List Value}
    (opens : Opens first arguments opened) (after : Opens second others widened) :
    Opens (first ++ second) (arguments ++ others) (opened ++ widened) := by
  induction opens with
  | nil => exact after
  | inert passed _ inductionHypothesis =>
    rw [List.append_assoc, List.append_assoc]
    exact .inert passed inductionHypothesis
  | place argument _ inductionHypothesis =>
    rw [List.append_assoc]
    exact .place argument inductionHypothesis

/-- A text has a place for each argument. -/
def Fits (text : List Char) (arguments : List Value) : Prop :=
  ∃ opened, Opens text arguments opened

theorem fits_nil : Fits [] [] :=
  ⟨[], .nil⟩

theorem fits_mark (argument : Value) : Fits "?".toList [argument] :=
  ⟨_, .place argument .nil⟩

theorem fits_of_isInert {part : List Char} (inert : IsInert part) : Fits part [] := by
  have whole := Opens.inert inert .nil
  rw [List.append_nil] at whole
  exact ⟨part, whole⟩

/-- What fits no arguments is passed over. -/
theorem isInert_of_fits {part : List Char} (fits : Fits part []) : IsInert part := by
  obtain ⟨opened, opens⟩ := fits
  generalize given : ([] : List Value) = arguments at opens
  induction opens with
  | nil => exact ⟨rfl, rfl⟩
  | inert passed _ inductionHypothesis =>
    obtain ⟨closes, marks⟩ := inductionHypothesis given
    constructor
    · rw [quoteAfter_append, passed.1, closes]
    · rw [openMarks_inert passed, marks]
  | place argument _ => cases given

theorem Fits.append {first second : List Char} {arguments others : List Value}
    (fits : Fits first arguments) (after : Fits second others) :
    Fits (first ++ second) (arguments ++ others) := by
  obtain ⟨opened, opens⟩ := fits
  obtain ⟨widened, widens⟩ := after
  exact ⟨_, opens.append widens⟩

/-- One text behind another. -/
theorem Fits.append_text {first second : String} {arguments others : List Value}
    (fits : Fits first.toList arguments) (after : Fits second.toList others) :
    Fits (first ++ second).toList (arguments ++ others) := by
  rw [String.toList_append]
  exact fits.append after

/-- Texts that fit their arguments fit all of them when they are joined. -/
theorem fits_joinWith {Item : Type} {separator : String} (inert : IsInert separator.toList)
    {text : Item → String} {arguments : Item → List Value} {items : List Item}
    (each : ∀ item ∈ items, Fits (text item).toList (arguments item)) :
    Fits (Text.joinWith separator (items.map text)).toList (items.flatMap arguments) := by
  have others (items : List Item)
      (each : ∀ item ∈ items, Fits (text item).toList (arguments item)) :
      Fits ((items.map text).flatMap fun text => separator.toList ++ text.toList)
        (items.flatMap arguments) := by
    induction items with
    | nil => exact fits_nil
    | cons item items inductionHypothesis =>
      rw [List.map_cons, List.flatMap_cons, List.flatMap_cons]
      refine ((fits_of_isInert inert).append (each item List.mem_cons_self)).append ?_
      exact inductionHypothesis fun other member => each other (List.mem_cons_of_mem _ member)
  cases items with
  | nil => exact fits_nil
  | cons item items =>
    rw [List.map_cons, Text.toList_joinWith, List.flatMap_cons]
    exact (each item List.mem_cons_self).append
      (others items fun other member => each other (List.mem_cons_of_mem _ member))

/-- Values that are stored one by one are stored together. -/
theorem mapM_storable_eq_error {arguments : List Value} {failure : Failure}
    (refused : arguments.mapM storable = .error failure) :
    ∃ fault, failure = .invalid (.unwritable fault) := by
  induction arguments with
  | nil => cases refused
  | cons argument arguments inductionHypothesis =>
    rw [List.mapM_cons] at refused
    cases here : storable argument with
    | error cause =>
      rw [here] at refused
      cases refused
      exact storable_eq_error here
    | ok value =>
      rw [here] at refused
      cases later : arguments.mapM storable with
      | error cause =>
        rw [later] at refused
        cases refused
        exact inductionHypothesis later
      | ok values =>
        rw [later] at refused
        cases refused

/-- Binding arguments that fit fails only for a value that cannot be stored; else it opens the text
up, and the text that comes of it has one question mark for each value. -/
theorem Fits.expand {sql : String} {arguments : List Value} (fits : Fits sql.toList arguments) :
    (∀ failure, Sqlite.expand sql arguments = .error failure →
      ∃ fault, failure = .invalid (.unwritable fault)) ∧
    ∀ values, List.Forall₂ (fun argument value => storable argument = .ok value)
        (arguments.flatMap Value.parameters) values →
      ∃ text, Sqlite.expand sql arguments = .ok ⟨text, values⟩ ∧
        Opens sql.toList arguments text.toList ∧ openMarks none text.toList = values.length := by
  obtain ⟨opened, opens⟩ := fits
  have bound := opens.bindPlaces_eq sql arguments.length
  constructor
  · intro failure failed
    rw [Sqlite.expand, bound] at failed
    cases stored : (arguments.flatMap Value.parameters).mapM storable with
    | error cause =>
      rw [stored] at failed
      cases failed
      exact mapM_storable_eq_error stored
    | ok values =>
      rw [stored] at failed
      cases failed
  · intro values stored
    refine ⟨String.ofList opened, ?_, ?_, ?_⟩
    · rw [Sqlite.expand, bound, mapM_eq_ok_iff.mpr stored]
      rfl
    · rw [String.toList_ofList]
      exact opens
    · rw [String.toList_ofList, opens.openMarks_eq, stored.length_eq]

end Sqlite

end TableGateway
