/-
This file takes statements apart into pieces: words, quoted names, and the places of
arguments. A statement has the same pieces in every style, each argument in its own place;
only what marks a place differs. So whatever there is to say about a text in one style or
another, or about where its arguments stand, is said piece by piece.
-/

import TableGateway.Proofs.Fitting

namespace TableGateway

/-- A piece of a statement: words, the name of a table or a column, or the place of an argument,
which is a collection where a membership looks among many values. -/
inductive Piece where
  | words (text : String)
  | name (identifier : Identifier)
  | place (argument : Value) (collection : Bool)

namespace Piece

/-- What marks the place of an argument. In one style a collection brings its own parentheses. -/
def mark : ParamStyle → Bool → String
  | .qmark, true => "(?)"
  | style, _ => style.placeholder

theorem mark_single (style : ParamStyle) : mark style false = style.placeholder := by
  cases style <;> rfl

/-- The text of a piece in a style. -/
def text (style : ParamStyle) : Piece → String
  | .words text => text
  | .name identifier => identifier.quoted
  | .place _ collection => mark style collection

@[simp] theorem text_words (style : ParamStyle) (words : String) :
    text style (.words words) = words := rfl

@[simp] theorem text_name (style : ParamStyle) (identifier : Identifier) :
    text style (.name identifier) = identifier.quoted := rfl

@[simp] theorem text_place (style : ParamStyle) (argument : Value) :
    text style (.place argument false) = style.placeholder :=
  mark_single style

/-- The argument that a piece is the place of, and whether it is a collection. -/
def place? : Piece → Option (Value × Bool)
  | .place argument collection => some (argument, collection)
  | _ => none

/-- The name that a piece is. -/
def name? : Piece → Option Identifier
  | .name identifier => some identifier
  | _ => none

end Piece

namespace Pieces

/-- The text of some pieces. -/
def render (style : ParamStyle) (pieces : List Piece) : List Char :=
  pieces.flatMap fun piece => (piece.text style).toList

/-- The arguments that have places among some pieces, in order. -/
def places (pieces : List Piece) : List (Value × Bool) :=
  pieces.filterMap Piece.place?

/-- The names among some pieces, in order. -/
def names (pieces : List Piece) : List Identifier :=
  pieces.filterMap Piece.name?

/-- The words among some pieces are such phrases. -/
def Speak (phrase : String → Prop) (pieces : List Piece) : Prop :=
  ∀ text, Piece.words text ∈ pieces → phrase text

/-- The pieces of items, with words between them. -/
def joined (separator : String) : List (List Piece) → List Piece
  | [] => []
  | first :: rest => first ++ rest.flatMap fun pieces => .words separator :: pieces

variable {phrase : String → Prop} (style : ParamStyle)

@[simp] theorem render_nil : render style [] = [] := rfl

@[simp] theorem render_cons (piece : Piece) (pieces : List Piece) :
    render style (piece :: pieces) = (piece.text style).toList ++ render style pieces :=
  List.flatMap_cons

theorem render_mark (argument : Value) (pieces : List Piece) :
    render .qmark (.place argument false :: pieces) = '?' :: render .qmark pieces := by
  have mark : (Piece.text .qmark (.place argument false)).toList = ['?'] := by
    show "?".toList = ['?']
    decide
  rw [render_cons, mark]
  rfl

theorem render_bracketed (argument : Value) (pieces : List Piece) :
    render .qmark (.place argument true :: pieces) =
      '(' :: '?' :: ')' :: render .qmark pieces := by
  have mark : (Piece.text .qmark (.place argument true)).toList = ['(', '?', ')'] := by
    show "(?)".toList = ['(', '?', ')']
    decide
  rw [render_cons, mark]
  rfl

theorem render_formatMark (argument : Value) (collection : Bool) (pieces : List Piece) :
    render .format (.place argument collection :: pieces) =
      '%' :: 's' :: render .format pieces := by
  have mark : (Piece.text .format (.place argument collection)).toList = ['%', 's'] := by
    show "%s".toList = ['%', 's']
    decide
  rw [render_cons, mark]
  rfl

@[simp] theorem render_append (first second : List Piece) :
    render style (first ++ second) = render style first ++ render style second :=
  List.flatMap_append

@[simp] theorem places_nil : places [] = [] := rfl

@[simp] theorem places_words (text : String) (pieces : List Piece) :
    places (.words text :: pieces) = places pieces := rfl

@[simp] theorem places_name (identifier : Identifier) (pieces : List Piece) :
    places (.name identifier :: pieces) = places pieces := rfl

@[simp] theorem places_place (argument : Value) (collection : Bool) (pieces : List Piece) :
    places (.place argument collection :: pieces) = (argument, collection) :: places pieces := rfl

@[simp] theorem places_append (first second : List Piece) :
    places (first ++ second) = places first ++ places second :=
  List.filterMap_append

@[simp] theorem names_nil : names [] = [] := rfl

@[simp] theorem names_words (text : String) (pieces : List Piece) :
    names (.words text :: pieces) = names pieces := rfl

@[simp] theorem names_name (identifier : Identifier) (pieces : List Piece) :
    names (.name identifier :: pieces) = identifier :: names pieces := rfl

@[simp] theorem names_place (argument : Value) (collection : Bool) (pieces : List Piece) :
    names (.place argument collection :: pieces) = names pieces := rfl

@[simp] theorem names_append (first second : List Piece) :
    names (first ++ second) = names first ++ names second :=
  List.filterMap_append

@[simp] theorem speak_nil : Speak phrase [] :=
  fun _ member => absurd member List.not_mem_nil

@[simp] theorem speak_words_iff {text : String} {pieces : List Piece} :
    Speak phrase (.words text :: pieces) ↔ phrase text ∧ Speak phrase pieces := by
  simp [Speak, or_imp, forall_and]

@[simp] theorem speak_name_iff {identifier : Identifier} {pieces : List Piece} :
    Speak phrase (.name identifier :: pieces) ↔ Speak phrase pieces := by
  simp [Speak]

@[simp] theorem speak_place_iff {argument : Value} {collection : Bool} {pieces : List Piece} :
    Speak phrase (.place argument collection :: pieces) ↔ Speak phrase pieces := by
  simp [Speak]

@[simp] theorem speak_append_iff {first second : List Piece} :
    Speak phrase (first ++ second) ↔ Speak phrase first ∧ Speak phrase second := by
  simp [Speak, or_imp, forall_and]

theorem Speak.mono {wider : String → Prop} {pieces : List Piece} (speak : Speak phrase pieces)
    (each : ∀ text, phrase text → wider text) : Speak wider pieces :=
  fun text member => each text (speak text member)

/-! ### Items that are joined -/

section Joined

variable {Item : Type} {items : List Item} {pieces : Item → List Piece}

/-- Where each item has the text of its pieces, joined items have the text of joined pieces. -/
theorem render_joined (separator : String) {text : Item → String}
    (each : ∀ item ∈ items, (text item).toList = render style (pieces item)) :
    (Text.joinWith separator (items.map text)).toList =
      render style (joined separator (items.map pieces)) := by
  have others (items : List Item)
      (each : ∀ item ∈ items, (text item).toList = render style (pieces item)) :
      ((items.map text).flatMap fun text => separator.toList ++ text.toList) =
        render style ((items.map pieces).flatMap fun pieces => .words separator :: pieces) := by
    induction items with
    | nil => rfl
    | cons item items inductionHypothesis =>
      rw [List.map_cons, List.map_cons, List.flatMap_cons, List.flatMap_cons, render_append,
        render_cons, each item List.mem_cons_self,
        inductionHypothesis fun other member => each other (List.mem_cons_of_mem _ member)]
      rfl
  cases items with
  | nil => rfl
  | cons item items =>
    rw [List.map_cons, List.map_cons, Text.toList_joinWith, joined, render_append,
      each item List.mem_cons_self,
      others items fun other member => each other (List.mem_cons_of_mem _ member)]

/-- The words between items give nothing else. -/
theorem filterMap_joined {Kept : Type} {keep : Piece → Option Kept}
    (wordless : ∀ text, keep (.words text) = none) (separator : String)
    (parts : List (List Piece)) :
    (joined separator parts).filterMap keep = parts.flatMap (List.filterMap keep) := by
  have others (parts : List (List Piece)) :
      (parts.flatMap fun pieces => .words separator :: pieces).filterMap keep =
        parts.flatMap (List.filterMap keep) := by
    induction parts with
    | nil => rfl
    | cons part parts inductionHypothesis =>
      rw [List.flatMap_cons, List.flatMap_cons, List.filterMap_append, inductionHypothesis,
        List.filterMap_cons_none (wordless separator)]
  cases parts with
  | nil => rfl
  | cons part parts => rw [joined, List.filterMap_append, others, List.flatMap_cons]

theorem places_joined (separator : String) (parts : List (List Piece)) :
    places (joined separator parts) = parts.flatMap places :=
  filterMap_joined (fun _ => rfl) separator parts

theorem names_joined (separator : String) (parts : List (List Piece)) :
    names (joined separator parts) = parts.flatMap names :=
  filterMap_joined (fun _ => rfl) separator parts

/-- Items that give one thing each give these things, joined as well. -/
theorem filterMap_joined_map {Kept : Type} {keep : Piece → Option Kept} {kept : Item → Kept}
    (wordless : ∀ text, keep (.words text) = none) (separator : String)
    (each : ∀ item ∈ items, (pieces item).filterMap keep = [kept item]) :
    (joined separator (items.map pieces)).filterMap keep = items.map kept := by
  rw [filterMap_joined wordless, List.flatMap_map, List.map_eq_flatMap]
  exact List.flatMap_congr each

theorem places_joined_map {kept : Item → Value × Bool} (separator : String)
    (each : ∀ item ∈ items, places (pieces item) = [kept item]) :
    places (joined separator (items.map pieces)) = items.map kept :=
  filterMap_joined_map (fun _ => rfl) separator each

theorem names_joined_map {kept : Item → Identifier} (separator : String)
    (each : ∀ item ∈ items, names (pieces item) = [kept item]) :
    names (joined separator (items.map pieces)) = items.map kept :=
  filterMap_joined_map (fun _ => rfl) separator each

theorem speak_joined {separator : String} (spoken : phrase separator)
    (each : ∀ item ∈ items, Speak phrase (pieces item)) :
    Speak phrase (joined separator (items.map pieces)) := by
  have others (items : List Item) (each : ∀ item ∈ items, Speak phrase (pieces item)) :
      Speak phrase ((items.map pieces).flatMap fun pieces => .words separator :: pieces) := by
    induction items with
    | nil => exact speak_nil
    | cons item items inductionHypothesis =>
      rw [List.map_cons, List.flatMap_cons, speak_append_iff, speak_words_iff]
      exact ⟨⟨spoken, each item List.mem_cons_self⟩,
        inductionHypothesis fun other member => each other (List.mem_cons_of_mem _ member)⟩
  cases items with
  | nil => exact speak_nil
  | cons item items =>
    rw [List.map_cons, joined, speak_append_iff]
    exact ⟨each item List.mem_cons_self,
      others items fun other member => each other (List.mem_cons_of_mem _ member)⟩

end Joined

end Pieces

/-! ### The pieces of a statement -/

open Pieces

/-- The pieces of names that are joined. -/
def namePieces (separator : String) (identifiers : List Identifier) : List Piece :=
  joined separator (identifiers.map fun identifier => [.name identifier])

def Projection.pieces : Projection → List Piece
  | .columns names => namePieces ", " names
  | .verbatim text => [.words text]

/-- The place of a predicate's argument, in parentheses where it is a single value that a membership
looks for. -/
def Predicate.placePieces (predicate : Predicate) : List Piece :=
  match predicate.operator.isMembership, predicate.argument with
  | true, .members items => [.place (.tuple items) true]
  | true, .single value => [.words "(", .place value false, .words ")"]
  | false, argument => [.place argument.toValue false]

def Predicate.pieces (predicate : Predicate) : List Piece :=
  [.name predicate.column, .words (" " ++ predicate.operator.sql ++ " ")] ++ predicate.placePieces

def wherePieces (predicates : List Predicate) : List Piece :=
  if predicates.isEmpty then []
  else .words " WHERE " :: joined " AND " (predicates.map Predicate.pieces)

def Ordering.pieces (ordering : Ordering) : List Piece :=
  if ordering.columns.isEmpty then []
  else .words " ORDER BY " :: namePieces "," ordering.columns ++
    (if ordering.descending then [.words " DESC"] else [])

def Clause.pieces (clause : Clause) : List Piece :=
  wherePieces clause.predicates ++ clause.ordering.pieces ++ [.words clause.limit.sql]

namespace Statement

/-- The pieces of one row of values. -/
def rowPieces (row : List Value) : List Piece :=
  .words "(" :: joined ", " (row.map fun value => [.place value false]) ++ [.words ")"]

def valuesPieces (columns : List Identifier) (rows : List (List Value)) : List Piece :=
  .words "(" :: namePieces ", " columns ++ .words ") VALUES " :: joined ", " (rows.map rowPieces)

/-- The words in front of the column that rows which collide set. -/
def duplicateWords : DuplicateForm → String
  | .onConflict => " ON CONFLICT DO UPDATE SET "
  | .onDuplicateKey => " ON DUPLICATE KEY UPDATE "

def duplicatePieces (form : DuplicateForm) (collision : DuplicateUpdate) : List Piece :=
  [.words (duplicateWords form), .name collision.column, .words " = ",
    (collision.value.map fun value => .place value false).getD (.name collision.column)]

def assignmentPieces (assignments : List (Identifier × Value)) : List Piece :=
  joined ", " (assignments.map fun assignment =>
    [.name assignment.1, .words " = ", .place assignment.2 false])

/-- The pieces of a statement, each of its arguments in its place. -/
def pieces (form : DuplicateForm) : Statement → List Piece
  | .select projection table clause =>
    .words "SELECT " :: projection.pieces ++ [.words " FROM ", .name table] ++ clause.pieces
  | .insert table columns rows onDuplicate =>
    [.words "INSERT INTO ", .name table, .words " "] ++ valuesPieces columns rows ++
      (onDuplicate.map (duplicatePieces form)).getD []
  | .replace table columns rows =>
    [.words "REPLACE INTO ", .name table, .words " "] ++ valuesPieces columns rows
  | .update table assignments predicates =>
    [.words "UPDATE ", .name table, .words " SET "] ++ assignmentPieces assignments ++
      wherePieces predicates
  | .delete table predicates => [.words "DELETE FROM ", .name table] ++ wherePieces predicates
  | .raw sql _ => [.words sql]

end Statement

/-! ### The text of the pieces -/

section Text

variable (style : ParamStyle)

theorem toList_joinedNames (separator : String) (identifiers : List Identifier) :
    (Text.joinWith separator (identifiers.map Identifier.quoted)).toList =
      render style (namePieces separator identifiers) :=
  render_joined style separator fun identifier _ => by simp

theorem Projection.toList_sql (projection : Projection) :
    projection.sql.toList = render style projection.pieces := by
  cases projection with
  | columns names => exact toList_joinedNames style ", " names
  | verbatim text => simp [sql, pieces]

theorem Predicate.toList_place (predicate : Predicate) :
    (predicate.place style).toList = render style predicate.placePieces := by
  obtain ⟨column, operator, argument⟩ := predicate
  simp only [place, placePieces]
  cases operator.isMembership with
  | false => simp
  | true =>
    cases argument with
    | members items =>
      cases style with
      | qmark =>
        show ("(" ++ "?" ++ ")").toList = "(?)".toList ++ []
        decide
      | format => exact (List.append_nil _).symm
    | single value => simp

theorem Predicate.toList_sql (predicate : Predicate) :
    (predicate.sql style).toList = render style predicate.pieces := by
  simp [sql, pieces, toList_place]

theorem toList_whereText (predicates : List Predicate) :
    (whereText style predicates).toList = render style (wherePieces predicates) := by
  cases predicates with
  | nil => rfl
  | cons first rest =>
    have conjuncts := render_joined style " AND "
      fun predicate (_ : predicate ∈ first :: rest) => predicate.toList_sql style
    rw [whereText_cons, String.toList_append, conjuncts]
    rfl

theorem Ordering.toList_sql (ordering : Ordering) :
    ordering.sql.toList = render style ordering.pieces := by
  unfold sql pieces
  split
  · rfl
  · split <;> simp [toList_joinedNames style]

theorem Clause.toList_sql (clause : Clause) :
    (clause.sql style).toList = render style clause.pieces := by
  simp [sql, pieces, toList_whereText, Ordering.toList_sql style]

namespace Statement

theorem toList_rowText (row : List Value) :
    (rowText style row.length).toList = render style (rowPieces row) := by
  have marks : List.replicate row.length style.placeholder =
      row.map fun _ => style.placeholder := (List.map_const' ..).symm
  have each (value : Value) (_ : value ∈ row) :
      style.placeholder.toList = render style [.place value false] := by simp
  have joinedMarks := render_joined style ", " each
  rw [rowText, marks, String.toList_append, String.toList_append, joinedMarks]
  simp [rowPieces]

/-- Rows with a value for each column have the text of their pieces. -/
theorem toList_valuesText {columns : List Identifier} {rows : List (List Value)}
    (rectangular : ∀ row ∈ rows, row.length = columns.length) :
    (valuesText style columns rows).toList = render style (valuesPieces columns rows) := by
  have texts : List.replicate rows.length (rowText style columns.length) =
      rows.map fun _ => rowText style columns.length := (List.map_const' ..).symm
  have each (row : List Value) (member : row ∈ rows) :
      (rowText style columns.length).toList = render style (rowPieces row) := by
    rw [← rectangular row member]
    exact toList_rowText style row
  have joinedRows := render_joined style ", " each
  rw [valuesText, texts, String.toList_append, joinedRows]
  simp [valuesPieces, quotedNames, toList_joinedNames style]

theorem toList_duplicateText (dialect : Dialect) (collision : DuplicateUpdate) :
    (duplicateText dialect collision).toList =
      render dialect.style (duplicatePieces dialect.duplicates collision) := by
  have suffixed (column value : String) : dialect.duplicates.suffix column value =
      duplicateWords dialect.duplicates ++ column ++ " = " ++ value := by
    cases dialect.duplicates <;> rfl
  obtain ⟨column, value⟩ := collision
  rw [duplicateText, suffixed]
  cases value <;> simp [duplicatePieces]

theorem toList_assignmentsText (assignments : List (Identifier × Value)) :
    (assignmentsText style assignments).toList = render style (assignmentPieces assignments) :=
  render_joined style ", " fun assignment _ => by simp

/-- A statement has the text of its pieces in every style, if what it writes follows its columns. -/
theorem toList_sql (dialect : Dialect) {statement : Statement} (arranged : statement.IsArranged) :
    (statement.sql dialect).toList =
      render dialect.style (statement.pieces dialect.duplicates) := by
  cases statement with
  | select projection table clause =>
    simp [sql_select, pieces, projection.toList_sql dialect.style, clause.toList_sql]
  | insert table columns rows onDuplicate =>
    have colliding : ((onDuplicate.map (duplicateText dialect)).getD "").toList =
        render dialect.style ((onDuplicate.map (duplicatePieces dialect.duplicates)).getD []) := by
      cases onDuplicate with
      | none => rfl
      | some collision => exact toList_duplicateText dialect collision
    simp [sql_insert, pieces, toList_valuesText _ arranged.length_eq, colliding]
  | replace table columns rows =>
    simp [sql_replace, pieces, toList_valuesText _ arranged.length_eq]
  | update table assignments predicates =>
    simp [sql_update, pieces, toList_assignmentsText, toList_whereText]
  | delete table predicates => simp [sql_delete, pieces, toList_whereText]
  | raw sql arguments => simp [sql_raw, pieces]

end Statement

end Text

/-! ### Places -/

/-- The argument is a collection under a membership. -/
def Predicate.looksAmong (predicate : Predicate) : Bool :=
  predicate.operator.isMembership && predicate.argument.isCollection

theorem Predicate.places_pieces (predicate : Predicate) :
    places predicate.pieces = [(predicate.argument.toValue, predicate.looksAmong)] := by
  obtain ⟨column, operator, argument⟩ := predicate
  simp only [pieces, placePieces, looksAmong]
  cases operator.isMembership with
  | false => rfl
  | true => cases argument <;> rfl

theorem places_namePieces (separator : String) (identifiers : List Identifier) :
    places (namePieces separator identifiers) = [] := by
  rw [namePieces, places_joined, List.flatMap_map]
  exact List.flatMap_eq_nil_iff.mpr fun _ _ => rfl

theorem Projection.places_pieces (projection : Projection) : places projection.pieces = [] := by
  cases projection with
  | columns names => exact places_namePieces ", " names
  | verbatim text => rfl

theorem Ordering.places_pieces (ordering : Ordering) : places ordering.pieces = [] := by
  unfold pieces
  split
  · rfl
  · split <;> simp [places_namePieces]

theorem places_wherePieces (predicates : List Predicate) :
    places (wherePieces predicates) = predicates.map fun predicate =>
      (predicate.argument.toValue, predicate.looksAmong) := by
  cases predicates with
  | nil => rfl
  | cons first rest => exact places_joined_map " AND " fun predicate _ => predicate.places_pieces

theorem Clause.places_pieces (clause : Clause) :
    places clause.pieces = clause.predicates.map fun predicate =>
      (predicate.argument.toValue, predicate.looksAmong) := by
  simp [pieces, places_wherePieces, Ordering.places_pieces]

namespace Statement

/-- The value for rows that collide on a unique key, if there is one. -/
def collision : Statement → List Value
  | .insert _ _ _ onDuplicate => (onDuplicate.bind DuplicateUpdate.value).toList
  | _ => []

/-- The values of a look at the tables. -/
def looked : Statement → List Value
  | .raw _ arguments => arguments
  | _ => []

/-- The arguments of a statement that is not given as text, each with whether it is a collection
under a membership. -/
def takes (statement : Statement) : List (Value × Bool) :=
  (statement.written ++ statement.collision).map (fun value => (value, false)) ++
    (statement.predicates?.getD []).map fun predicate =>
      (predicate.argument.toValue, predicate.looksAmong)

theorem arguments_eq_takes (statement : Statement) :
    statement.arguments = statement.takes.map Prod.fst ++ statement.looked := by
  cases statement <;>
    simp [arguments, takes, written, collision, predicates?, looked, predicateArguments,
      Clause.arguments, Function.comp_def]

theorem places_rowPieces (row : List Value) :
    places (rowPieces row) = row.map fun value => (value, false) := by
  have marks : places (joined ", " (row.map fun value => [.place value false])) =
      row.map fun value => (value, false) := places_joined_map ", " fun _ _ => rfl
  simp [rowPieces, marks]

theorem places_valuesPieces (columns : List Identifier) (rows : List (List Value)) :
    places (valuesPieces columns rows) = rows.flatten.map fun value => (value, false) := by
  have each : (rows.map rowPieces).flatMap places =
      rows.flatten.map fun value => (value, false) := by
    rw [List.flatMap_map, List.map_flatten, ← List.flatMap_def]
    exact List.flatMap_congr fun row _ => places_rowPieces row
  simp [valuesPieces, places_namePieces, places_joined, each]

theorem places_duplicatePieces (form : DuplicateForm) (collision : DuplicateUpdate) :
    places (duplicatePieces form collision) =
      collision.value.toList.map fun value => (value, false) := by
  obtain ⟨column, value⟩ := collision
  cases value <;> rfl

theorem places_assignmentPieces (assignments : List (Identifier × Value)) :
    places (assignmentPieces assignments) = assignments.map fun assignment =>
      (assignment.2, false) :=
  places_joined_map ", " fun _ _ => rfl

/-- Each argument has one place, and they come in order. -/
theorem places_pieces (form : DuplicateForm) (statement : Statement) :
    places (statement.pieces form) = statement.takes := by
  cases statement with
  | select projection table clause =>
    simp [pieces, takes, written, collision, predicates?, Projection.places_pieces,
      Clause.places_pieces]
  | insert table columns rows onDuplicate =>
    cases onDuplicate <;>
      simp [pieces, takes, written, collision, predicates?, places_valuesPieces,
        places_duplicatePieces]
  | replace table columns rows =>
    simp [pieces, takes, written, collision, predicates?, places_valuesPieces]
  | update table assignments predicates =>
    simp [pieces, takes, written, collision, predicates?, places_assignmentPieces,
      places_wherePieces]
  | delete table predicates =>
    simp [pieces, takes, written, collision, predicates?, places_wherePieces]
  | raw sql arguments => rfl

end Statement

/-! ### Names -/

theorem names_namePieces (separator : String) (identifiers : List Identifier) :
    names (namePieces separator identifiers) = identifiers :=
  (names_joined_map separator fun _ _ => rfl).trans identifiers.map_id

/-- The names of a projection by name. -/
def Projection.names : Projection → List Identifier
  | .columns names => names
  | .verbatim _ => []

theorem Projection.names_pieces (projection : Projection) :
    Pieces.names projection.pieces = projection.names := by
  cases projection with
  | columns names => exact names_namePieces ", " names
  | verbatim text => rfl

theorem Predicate.names_pieces (predicate : Predicate) :
    Pieces.names predicate.pieces = [predicate.column] := by
  unfold pieces placePieces
  split <;> rfl

theorem names_wherePieces (predicates : List Predicate) :
    Pieces.names (wherePieces predicates) = predicates.map Predicate.column := by
  cases predicates with
  | nil => rfl
  | cons first rest => exact names_joined_map " AND " fun predicate _ => predicate.names_pieces

theorem Ordering.names_pieces (ordering : Ordering) :
    Pieces.names ordering.pieces = ordering.columns := by
  unfold pieces
  split
  · rename_i none
    exact (List.isEmpty_iff.mp none).symm
  · split <;> simp [names_namePieces]

namespace Statement

/-- The names that stand in a statement. -/
def names : Statement → List Identifier
  | .select projection table clause =>
    projection.names ++ table :: (clause.predicates.map Predicate.column ++
      clause.ordering.columns)
  | .insert table columns _ onDuplicate =>
    table :: (columns ++ onDuplicate.toList.map DuplicateUpdate.column)
  | .replace table columns _ => table :: columns
  | .update table assignments predicates =>
    table :: (assignments.map Prod.fst ++ predicates.map Predicate.column)
  | .delete table predicates => table :: predicates.map Predicate.column
  | .raw _ _ => []

theorem names_valuesPieces (columns : List Identifier) (rows : List (List Value)) :
    Pieces.names (valuesPieces columns rows) = columns := by
  have row (row : List Value) : Pieces.names (rowPieces row) = [] := by
    have marks : (row.map fun value => [Piece.place value false]).flatMap Pieces.names = [] := by
      rw [List.flatMap_map]
      exact List.flatMap_eq_nil_iff.mpr fun _ _ => rfl
    simp [rowPieces, names_joined, marks]
  have rowsNone : (rows.map rowPieces).flatMap Pieces.names = [] := by
    rw [List.flatMap_map]
    exact List.flatMap_eq_nil_iff.mpr fun other _ => row other
  simp [valuesPieces, names_namePieces, names_joined, rowsNone]

theorem names_assignmentPieces (assignments : List (Identifier × Value)) :
    Pieces.names (assignmentPieces assignments) = assignments.map Prod.fst :=
  names_joined_map ", " fun _ _ => rfl

/-- The names among the pieces of a statement are its names. -/
theorem mem_names_pieces (form : DuplicateForm) (statement : Statement) (identifier : Identifier) :
    identifier ∈ Pieces.names (statement.pieces form) ↔ identifier ∈ statement.names := by
  cases statement with
  | select projection table clause =>
    simp [pieces, names, Clause.pieces, Projection.names_pieces, names_wherePieces,
      Ordering.names_pieces]
  | insert table columns rows onDuplicate =>
    cases onDuplicate with
    | none => simp [pieces, names, names_valuesPieces]
    | some collision =>
      obtain ⟨column, value⟩ := collision
      cases value <;> simp [pieces, names, names_valuesPieces, duplicatePieces]
  | replace table columns rows => simp [pieces, names, names_valuesPieces]
  | update table assignments predicates =>
    simp [pieces, names, names_assignmentPieces, names_wherePieces]
  | delete table predicates => simp [pieces, names, names_wherePieces]
  | raw sql arguments => simp [pieces, names]

end Statement

/-! ### Words -/

/-- The words that stand in statements. -/
def Statement.fixedWords : List String :=
  ["SELECT ", " FROM ", "INSERT INTO ", "REPLACE INTO ", "UPDATE ", " SET ", "DELETE FROM ", " ",
    "(", ")", ", ", ") VALUES ", " = ", " ON CONFLICT DO UPDATE SET ", " ON DUPLICATE KEY UPDATE ",
    " WHERE ", " AND ", " ORDER BY ", ",", " DESC"]

/-- What is spoken in statements: fixed words, operators, and limits. -/
inductive Phrase : String → Prop where
  | fixed {text : String} (among : text ∈ Statement.fixedWords) : Phrase text
  | compared (operator : Operator) : Phrase (" " ++ operator.sql ++ " ")
  | limited (limit : Limit) : Phrase limit.sql

theorem speak_namePieces {separator : String} (spoken : Phrase separator)
    (identifiers : List Identifier) : Speak Phrase (namePieces separator identifiers) :=
  speak_joined spoken fun _ _ => by simp

theorem Predicate.speak_pieces (predicate : Predicate) : Speak Phrase predicate.pieces := by
  have opening : Phrase "(" := .fixed (by decide)
  have closing : Phrase ")" := .fixed (by decide)
  have compares := Phrase.compared predicate.operator
  unfold pieces placePieces
  split <;> simp [compares, opening, closing]

theorem speak_wherePieces (predicates : List Predicate) :
    Speak Phrase (wherePieces predicates) := by
  have word : Phrase " WHERE " := .fixed (by decide)
  have conjuncts := speak_joined (.fixed (by decide) : Phrase " AND ")
    fun predicate (_ : predicate ∈ predicates) => predicate.speak_pieces
  unfold wherePieces
  split
  · exact speak_nil
  · exact speak_words_iff.mpr ⟨word, conjuncts⟩

theorem Ordering.speak_pieces (ordering : Ordering) : Speak Phrase ordering.pieces := by
  have word : Phrase " ORDER BY " := .fixed (by decide)
  have downwards : Phrase " DESC" := .fixed (by decide)
  have columns := speak_namePieces (.fixed (by decide) : Phrase ",") ordering.columns
  unfold pieces
  split
  · exact speak_nil
  · split <;> simp [word, downwards, columns]

theorem Clause.speak_pieces (clause : Clause) : Speak Phrase clause.pieces := by
  have limited := Phrase.limited clause.limit
  simp [pieces, speak_wherePieces, Ordering.speak_pieces, limited]

namespace Statement

theorem speak_valuesPieces (columns : List Identifier) (rows : List (List Value)) :
    Speak Phrase (valuesPieces columns rows) := by
  have opening : Phrase "(" := .fixed (by decide)
  have closing : Phrase ")" := .fixed (by decide)
  have word : Phrase ") VALUES " := .fixed (by decide)
  have comma : Phrase ", " := .fixed (by decide)
  have row (row : List Value) (_ : row ∈ rows) : Speak Phrase (rowPieces row) := by
    have marks : Speak Phrase (joined ", " (row.map fun value => [.place value false])) :=
      speak_joined comma fun _ _ => by simp
    simp [rowPieces, opening, closing, marks]
  simp [valuesPieces, opening, word, speak_namePieces comma, speak_joined comma row]

theorem speak_duplicatePieces (form : DuplicateForm) (collision : DuplicateUpdate) :
    Speak Phrase (duplicatePieces form collision) := by
  have word : Phrase (duplicateWords form) := .fixed (by cases form <;> decide)
  have equals : Phrase " = " := .fixed (by decide)
  obtain ⟨column, value⟩ := collision
  cases value <;> simp [duplicatePieces, word, equals]

theorem speak_assignmentPieces (assignments : List (Identifier × Value)) :
    Speak Phrase (assignmentPieces assignments) := by
  have equals : Phrase " = " := .fixed (by decide)
  exact speak_joined (.fixed (by decide)) fun _ _ => by simp [equals]

/-- A text that stands in a statement as it was given. -/
def verbatim? : Statement → Option String
  | .select (.verbatim text) _ _ => some text
  | .raw sql _ => some sql
  | _ => none

/-- Whatever is spoken in a statement, and was not given, is one of its phrases. -/
theorem speak_pieces (form : DuplicateForm) (statement : Statement) :
    Speak (fun text => Phrase text ∨ statement.verbatim? = some text)
      (statement.pieces form) := by
  have space : Phrase " " := .fixed (by decide)
  have only {pieces : List Piece} (speak : Speak Phrase pieces) :
      Speak (fun text => Phrase text ∨ statement.verbatim? = some text) pieces :=
    speak.mono fun _ => .inl
  cases statement with
  | select projection table clause =>
    have word : Phrase "SELECT " := .fixed (by decide)
    have source : Phrase " FROM " := .fixed (by decide)
    have selected : Speak (fun text => Phrase text ∨
        (Statement.select projection table clause).verbatim? = some text) projection.pieces := by
      cases projection with
      | columns names => exact only (speak_namePieces (.fixed (by decide)) names)
      | verbatim text => exact speak_words_iff.mpr ⟨.inr rfl, speak_nil⟩
    have rest := only clause.speak_pieces
    simp [pieces, word, source, selected, rest]
  | insert table columns rows onDuplicate =>
    have word : Phrase "INSERT INTO " := .fixed (by decide)
    refine only ?_
    cases onDuplicate <;>
      simp [pieces, word, space, speak_valuesPieces, speak_duplicatePieces]
  | replace table columns rows =>
    have word : Phrase "REPLACE INTO " := .fixed (by decide)
    refine only ?_
    simp [pieces, word, space, speak_valuesPieces]
  | update table assignments predicates =>
    have word : Phrase "UPDATE " := .fixed (by decide)
    have sets : Phrase " SET " := .fixed (by decide)
    refine only ?_
    simp [pieces, word, sets, speak_assignmentPieces, speak_wherePieces]
  | delete table predicates =>
    have word : Phrase "DELETE FROM " := .fixed (by decide)
    refine only ?_
    simp [pieces, word, speak_wherePieces]
  | raw sql arguments => exact speak_words_iff.mpr ⟨.inr rfl, speak_nil⟩

end Statement

/-! ### What a gateway sends -/

/-- A statement is the gateway's own, not given as a text. -/
def Statement.IsOwn : Statement → Prop
  | .raw _ _ => False
  | _ => True

/-- What a gateway sends is its own and written in order, unless it looks up its tables. -/
theorem Gateway.Sends.isOwn {gateway : Gateway} {asked : Value → Prop} {statement : Statement}
    (sends : gateway.Sends asked statement)
    (unlooked : ¬gateway.endpoint.LooksUp gateway.table statement) :
    statement.IsOwn ∧ statement.IsArranged := by
  cases sends with
  | select clause among chosen => exact ⟨trivial, trivial⟩
  | insert records onDuplicate named => exact ⟨trivial, follow_valuesUnder records named⟩
  | replace records named => exact ⟨trivial, follow_valuesUnder records named⟩
  | update assignments confined => exact ⟨trivial, trivial⟩
  | delete confined => exact ⟨trivial, trivial⟩
  | lookUp found => exact absurd found unlooked

end TableGateway
