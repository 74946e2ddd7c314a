/-
This file tells which column each place of a text belongs to. A place that is set or
compared stands behind the quoted name of its column, with no other name between; the
places of written rows stand behind the list of the columns, and belong to them in turn,
row by row. A text with such places fits the arguments that are meant for them.
-/

import TableGateway.Proofs.Fitting

namespace TableGateway

open Sqlite

/-- A word has neither quotes nor question marks. -/
def IsPlain (word : List Char) : Prop :=
  ∀ character ∈ word, isQuote character = false ∧ character ≠ '?'

instance isPlainDecidable (word : List Char) : Decidable (IsPlain word) :=
  decidable_of_iff ((word.all fun character => !isQuote character && character != '?') = true)
    (by simp [IsPlain])

/-- A text has a place for each of some arguments, each of which is meant for a column. A question
mark is either behind the name of its column, with a plain word between, or in a row behind the
names of all columns. -/
inductive Labelled : List Char → List (Identifier × Value) → Prop where
  | nil : Labelled [] []
  | inert {part rest : List Char} {places : List (Identifier × Value)} (passed : IsInert part)
      (labelled : Labelled rest places) : Labelled (part ++ rest) places
  | named (column : Identifier) (value : Value) {word rest : List Char}
      {places : List (Identifier × Value)} (plain : IsPlain word)
      (labelled : Labelled rest places) :
      Labelled (column.quoted.toList ++ word ++ '?' :: rest) ((column, value) :: places)
  | rows {columns : List Identifier} {rows : List (List (Identifier × Value))} {rest : List Char}
      {places : List (Identifier × Value)} (aligned : ∀ row ∈ rows, row.map Prod.fst = columns)
      (labelled : Labelled rest places) :
      Labelled ((Statement.valuesText .qmark columns
        (rows.map fun row => row.map Prod.snd)).toList ++ rest) (rows.flatten ++ places)

/-- A text with labelled places has a place for each argument, and no other. -/
theorem Labelled.fits {text : List Char} {places : List (Identifier × Value)}
    (labelled : Labelled text places) : Fits text (places.map Prod.snd) := by
  induction labelled with
  | nil => exact fits_nil
  | inert passed _ inductionHypothesis => exact (fits_of_isInert passed).append inductionHypothesis
  | named column value plain _ inductionHypothesis =>
    have word := column.fits_quoted.append (fits_of_isInert (isInert_of_plain plain))
    exact word.append ((fits_mark value).append inductionHypothesis)
  | @rows columns rows _ _ aligned _ inductionHypothesis =>
    have rectangular : ∀ row ∈ rows.map fun row => row.map Prod.snd,
        row.length = columns.length := by
      intro row member
      obtain ⟨places, among, rfl⟩ := List.mem_map.mp member
      rw [← aligned places among, List.length_map, List.length_map]
    rw [List.map_append, List.map_flatten]
    exact (Statement.fits_valuesText rectangular).append inductionHypothesis

theorem labelled_of_isInert {part : List Char} (inert : IsInert part) : Labelled part [] := by
  have whole := Labelled.inert inert .nil
  rwa [List.append_nil] at whole

theorem labelled_named (column : Identifier) (value : Value) {word : List Char}
    (plain : IsPlain word) :
    Labelled (column.quoted.toList ++ word ++ ['?']) [(column, value)] :=
  .named column value plain .nil

theorem Labelled.append {first second : List Char} {places others : List (Identifier × Value)}
    (labelled : Labelled first places) (after : Labelled second others) :
    Labelled (first ++ second) (places ++ others) := by
  induction labelled with
  | nil => exact after
  | inert passed _ inductionHypothesis =>
    rw [List.append_assoc]
    exact .inert passed inductionHypothesis
  | named column value plain _ inductionHypothesis =>
    rw [List.append_assoc, List.cons_append]
    exact .named column value plain inductionHypothesis
  | rows aligned _ inductionHypothesis =>
    rw [List.append_assoc, List.append_assoc]
    exact .rows aligned inductionHypothesis

/-- One text behind another. -/
theorem Labelled.append_text {first second : String} {places others : List (Identifier × Value)}
    (labelled : Labelled first.toList places) (after : Labelled second.toList others) :
    Labelled (first ++ second).toList (places ++ others) := by
  rw [String.toList_append]
  exact labelled.append after

/-- Texts with labelled places have all of them, in order, when they are joined. -/
theorem labelled_joinWith {Item : Type} {separator : String} (inert : IsInert separator.toList)
    {text : Item → String} {place : Item → Identifier × Value} {items : List Item}
    (each : ∀ item ∈ items, Labelled (text item).toList [place item]) :
    Labelled (Text.joinWith separator (items.map text)).toList (items.map place) := by
  have others (items : List Item)
      (each : ∀ item ∈ items, Labelled (text item).toList [place item]) :
      Labelled ((items.map text).flatMap fun text => separator.toList ++ text.toList)
        (items.map place) := by
    induction items with
    | nil => exact .nil
    | cons item items inductionHypothesis =>
      rw [List.map_cons, List.flatMap_cons, List.map_cons, List.append_assoc]
      refine .inert inert ((each item List.mem_cons_self).append ?_)
      exact inductionHypothesis fun other member => each other (List.mem_cons_of_mem _ member)
  cases items with
  | nil => exact .nil
  | cons item items =>
    rw [List.map_cons, Text.toList_joinWith, List.map_cons]
    exact (each item List.mem_cons_self).append
      (others items fun other member => each other (List.mem_cons_of_mem _ member))

/-! ### The parts of a statement -/

theorem Predicate.labelled_sql (predicate : Predicate) :
    Labelled (predicate.sql .qmark).toList [(predicate.column, predicate.argument.toValue)] := by
  have single (operator : Operator) : IsPlain (" " ++ operator.sql ++ " ").toList := by
    cases operator <;> decide
  have several (operator : Operator) : IsPlain (" " ++ operator.sql ++ " " ++ "(").toList := by
    cases operator <;> decide
  rw [Predicate.sql_eq, Comparison.suffix]
  split
  · have closing : Labelled ")".toList [] := labelled_of_isInert (by decide)
    have opened := (labelled_named predicate.column predicate.argument.toValue
      (several predicate.operator)).append closing
    simpa [String.toList_append, ParamStyle.placeholder] using opened
  · have placed := labelled_named predicate.column predicate.argument.toValue
      (single predicate.operator)
    simpa [String.toList_append, ParamStyle.placeholder] using placed

theorem labelled_whereText (predicates : List Predicate) :
    Labelled (whereText .qmark predicates).toList (compared predicates) := by
  cases predicates with
  | nil => exact .nil
  | cons first others =>
    have word : Labelled " WHERE ".toList [] := labelled_of_isInert (by decide)
    have joined := labelled_joinWith (by decide : IsInert " AND ".toList)
      fun predicate (_ : predicate ∈ first :: others) => predicate.labelled_sql
    rw [whereText_cons]
    exact word.append_text joined

theorem Clause.labelled_sql (clause : Clause) :
    Labelled (clause.sql .qmark).toList (compared clause.predicates) := by
  have ordering := labelled_of_isInert (isInert_of_fits clause.ordering.fits_sql)
  have limit := labelled_of_isInert (isInert_of_fits clause.limit.fits_sql)
  have whole := ((labelled_whereText clause.predicates).append_text ordering).append_text limit
  rwa [List.append_nil, List.append_nil] at whole

namespace Statement

/-- The places of rows belong to the columns in front of them. -/
theorem labelled_valuesText {columns : List Identifier} {rows : List (List (Identifier × Value))}
    (aligned : ∀ row ∈ rows, row.map Prod.fst = columns) :
    Labelled (valuesText .qmark columns (rows.map fun row => row.map Prod.snd)).toList
      rows.flatten := by
  have whole := Labelled.rows aligned .nil
  rwa [List.append_nil, List.append_nil] at whole

/-- Each column that is set stands in front of its place. -/
theorem labelled_assignmentsText (assignments : List (Identifier × Value)) :
    Labelled (assignmentsText .qmark assignments).toList assignments := by
  have each (assignment : Identifier × Value) (_ : assignment ∈ assignments) :
      Labelled (assignment.1.quoted ++ " = " ++ ParamStyle.placeholder .qmark).toList
        [assignment] := by
    rw [String.toList_append, String.toList_append]
    exact labelled_named assignment.1 assignment.2 (by decide)
  have joined := labelled_joinWith (by decide : IsInert ", ".toList) each
  rwa [List.map_id'] at joined

/-- What a row that collides gets is labelled with its column. -/
def collided (collision : DuplicateUpdate) : List (Identifier × Value) :=
  collision.value.toList.map fun value => (collision.column, value)

theorem labelled_duplicateText {dialect : Dialect} (marks : dialect.style = .qmark)
    (collision : DuplicateUpdate) :
    Labelled (duplicateText dialect collision).toList (collided collision) := by
  obtain ⟨column, value⟩ := collision
  have suffixed (text : String) {places : List (Identifier × Value)}
      (labelled : Labelled (column.quoted ++ " = " ++ text).toList places) :
      Labelled (dialect.duplicates.suffix column.quoted text).toList places := by
    unfold DuplicateForm.suffix
    split
    · have word : Labelled " ON CONFLICT DO UPDATE SET ".toList [] :=
        labelled_of_isInert (by decide)
      simpa [String.append_assoc] using word.append_text labelled
    · have word : Labelled " ON DUPLICATE KEY UPDATE ".toList [] :=
        labelled_of_isInert (by decide)
      simpa [String.append_assoc] using word.append_text labelled
  cases value with
  | none =>
    refine suffixed _ ?_
    have equals : Labelled " = ".toList [] := labelled_of_isInert (by decide)
    have name := labelled_of_isInert (isInert_quoted column)
    exact (name.append_text equals).append_text name
  | some value =>
    have plain : IsPlain " = ".toList := by decide
    have placed : Labelled (column.quoted ++ " = " ++ "?").toList [(column, value)] := by
      rw [String.toList_append, String.toList_append]
      exact labelled_named column value plain
    rw [duplicateText, marks]
    exact suffixed _ placed

end Statement

end TableGateway
