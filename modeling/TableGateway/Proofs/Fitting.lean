/-
This file shows which parts of a statement fit which arguments. Names, orders and limits
fit none, whatever characters a name has; a row of places fits the values of a row; and so
does what an endpoint looks its tables up by. What a gateway sends is regular: what it
selects has no places, and the rows that it writes follow their columns.
-/

import TableGateway.Proofs.Places
import TableGateway.Proofs.Skeleton
import TableGateway.Proofs.Traffic

namespace TableGateway

open Sqlite

/-! ### Parts that fit no arguments -/

theorem Identifier.fits_quoted (identifier : Identifier) : Fits identifier.quoted.toList [] :=
  fits_of_isInert (isInert_quoted identifier)

/-- Names that are joined fit no arguments. -/
theorem fits_joinedNames {separator : String} (inert : IsInert separator.toList)
    (identifiers : List Identifier) :
    Fits (Text.joinWith separator (identifiers.map Identifier.quoted)).toList [] := by
  have nothing : identifiers.flatMap (fun _ => ([] : List Value)) = [] :=
    List.flatMap_eq_nil_iff.mpr fun _ _ => rfl
  have joined := fits_joinWith inert
    fun identifier (_ : identifier ∈ identifiers) => identifier.fits_quoted
  rw [nothing] at joined
  exact joined

theorem fits_quotedNames (identifiers : List Identifier) :
    Fits (quotedNames identifiers).toList [] :=
  fits_joinedNames (by decide) identifiers

theorem Limit.fits_sql (limit : Limit) : Fits limit.sql.toList [] := by
  have digitsFit (value : Nat) : Fits (Number.integerText value).toList [] := by
    refine fits_of_isInert (isInert_of_plain fun character member => ?_)
    rw [toList_integerText] at member
    have digit := Number.isDigit_of_mem_digits value character member
    constructor
    · refine Bool.eq_false_iff.mpr fun quote => ?_
      simp only [isQuote, Bool.or_eq_true, beq_iff_eq] at quote
      rcases quote with (same | same) | same <;>
        · rw [same] at digit
          revert digit
          decide
    · rintro rfl
      revert digit
      decide
  have word : Fits " LIMIT ".toList [] := fits_of_isInert (by decide)
  have comma : Fits ",".toList [] := fits_of_isInert (by decide)
  cases limit with
  | none => exact fits_nil
  | first count => exact word.append_text (digitsFit count)
  | range offset count =>
    exact ((word.append_text (digitsFit offset)).append_text comma).append_text (digitsFit count)

theorem Ordering.fits_sql (ordering : Ordering) : Fits ordering.sql.toList [] := by
  rw [sql]
  split
  · exact fits_nil
  · have columns := fits_joinedNames (by decide : IsInert ",".toList) ordering.columns
    have word : Fits " ORDER BY ".toList [] := fits_of_isInert (by decide)
    refine (word.append_text columns).append_text ?_
    split
    · exact fits_of_isInert (by decide)
    · exact fits_nil
/-! ### Rows -/

namespace Statement

/-- The places of a row fit its values. -/
theorem fits_rowText (row : List Value) : Fits (rowText .qmark row.length).toList row := by
  have opening : Fits "(".toList [] := fits_of_isInert (by decide)
  have closing : Fits ")".toList [] := fits_of_isInert (by decide)
  have joined := fits_joinWith (by decide : IsInert ", ".toList)
    fun value (_ : value ∈ row) => fits_mark value
  rw [List.map_const', ← List.map_eq_flatMap, List.map_id'] at joined
  have whole := (opening.append_text joined).append_text closing
  rw [List.nil_append, List.append_nil] at whole
  exact whole

/-- The places of rows fit their values row by row, if each row has a value for each column. -/
theorem fits_valuesText {columns : List Identifier} {rows : List (List Value)}
    (rectangular : ∀ row ∈ rows, row.length = columns.length) :
    Fits (valuesText .qmark columns rows).toList rows.flatten := by
  have opening : Fits "(".toList [] := fits_of_isInert (by decide)
  have word : Fits ") VALUES ".toList [] := fits_of_isInert (by decide)
  have joined : Fits (Text.joinWith ", "
      (List.replicate rows.length (rowText .qmark columns.length))).toList rows.flatten := by
    have each (row : List Value) (member : row ∈ rows) :
        Fits (rowText .qmark columns.length).toList row := by
      rw [← rectangular row member]
      exact fits_rowText row
    have all := fits_joinWith (by decide : IsInert ", ".toList) each
    rw [List.map_const', List.flatMap_id'] at all
    exact all
  exact ((opening.append_text (fits_quotedNames columns)).append_text word).append_text joined
/-- Rows have the values of records under the names of columns, in the order of the columns. -/
def Follow (columns : List Identifier) (rows : List (List Value)) : Prop :=
  ∃ records, rows = Endpoint.valuesUnder (columns.map fun column => .text column.name) records

theorem Follow.length_eq {columns : List Identifier} {rows : List (List Value)}
    (follow : Follow columns rows) : ∀ row ∈ rows, row.length = columns.length := by
  obtain ⟨records, rfl⟩ := follow
  intro row member
  obtain ⟨record, _, rfl⟩ := List.mem_map.mp member
  rw [List.length_map, List.length_map]

/-- What makes the text of a statement fit its arguments: a projection without places, rows that
follow the columns, and a raw text that fits. -/
def IsRegular : Statement → Prop
  | .select projection _ _ => Fits projection.sql.toList []
  | .insert _ columns rows _ => Follow columns rows
  | .replace _ columns rows => Follow columns rows
  | .update .. => True
  | .delete .. => True
  | .raw sql arguments => Fits sql.toList arguments
/-- The rows that a statement writes follow its columns. -/
def IsArranged : Statement → Prop
  | .insert _ columns rows _ => Follow columns rows
  | .replace _ columns rows => Follow columns rows
  | _ => True
end Statement

/-! ### What a gateway sends -/

/-- A handle of a database file looks its tables up in texts that fit. -/
theorem Endpoint.LooksUp.isRegular {endpoint : Endpoint} {table : Identifier}
    {statement : Statement} (looks : endpoint.LooksUp table statement)
    (file : endpoint.catalog = .masterTable) : statement.IsRegular := by
  cases looks with
  | tableOfFile _ =>
    have text : "SELECT name FROM sqlite_master WHERE type = 'table' AND name = ?" =
        "SELECT name FROM sqlite_master WHERE type = 'table' AND name = " ++ "?" := by decide
    have head : Fits
        "SELECT name FROM sqlite_master WHERE type = 'table' AND name = ".toList [] :=
      fits_of_isInert (by decide)
    rw [Statement.IsRegular, text]
    exact head.append_text (fits_mark _)
  | columnsOfFile _ =>
    have head : Fits "PRAGMA table_info(".toList [] := fits_of_isInert (by decide)
    have tail : Fits ")".toList [] := fits_of_isInert (by decide)
    exact (head.append_text table.fits_quoted).append_text tail
  | tableOnServer server =>
    rw [file] at server
    cases server
  | columnsOnServer server =>
    rw [file] at server
    cases server

namespace Gateway

variable {gateway : Gateway}

theorem fits_countProjection {projection : Value}
    (counted : gateway.countProjection = .ok projection) :
    Fits projection.plainText.toList [] := by
  have head : Fits "count(".toList [] := fits_of_isInert (by decide)
  have tail : Fits ") AS \x60count\x60".toList [] := fits_of_isInert (by decide)
  have star : Fits "*".toList [] := fits_of_isInert (by decide)
  have whole (target : String) (fits : Fits target.toList []) :
      Fits ("count(" ++ target ++ ") AS \x60count\x60").toList [] :=
    (head.append_text fits).append_text tail
  unfold countProjection at counted
  split at counted
  · split at counted
    · obtain ⟨target, named, assembled⟩ := ok_of_bind counted
      cases assembled
      obtain ⟨column, _, rfl⟩ := ok_of_map named
      exact whole _ column.fits_quoted
    · cases counted
      exact whole "*" star
  · cases counted
    exact whole "*" star

/-- What is selected has no places, if all fields are asked for or rows are counted. -/
theorem fits_projectionOf {projection : Value} {selected : Projection}
    (standard : isEverything projection = true ∨ gateway.countProjection = .ok projection)
    (chosen : gateway.projectionOf projection = .ok selected) :
    Fits selected.sql.toList [] := by
  have plain : Fits projection.plainText.toList [] := by
    rcases standard with all | counted
    · rw [(Value.equal_text_iff projection "*").mp all]
      exact fits_of_isInert (by decide)
    · exact fits_countProjection counted
  rw [projectionOf] at chosen
  split at chosen
  · obtain ⟨columns, _, assembled⟩ := ok_of_bind chosen
    cases assembled
    exact fits_quotedNames columns
  · cases chosen
    exact plain

theorem follow_valuesUnder (records : List Record) {keys : List Value} {columns : List Identifier}
    (named : Identifier.ofValues? keys = .ok columns) :
    Statement.Follow columns (Endpoint.valuesUnder keys records) :=
  ⟨records, by rw [Identifier.ofValues?_eq_ok named]⟩

theorem Sends.isRegular {asked : Value → Prop} {statement : Statement}
    (sends : gateway.Sends asked statement)
    (file : gateway.endpoint.catalog = .masterTable)
    (standard : ∀ projection, asked projection →
      isEverything projection = true ∨ gateway.countProjection = .ok projection) :
    statement.IsRegular := by
  cases sends with
  | select clause among chosen => exact fits_projectionOf (standard _ among) chosen
  | insert records onDuplicate named => exact follow_valuesUnder records named
  | replace records named => exact follow_valuesUnder records named
  | update assignments confined => trivial
  | delete confined => trivial
  | lookUp found => exact found.isRegular file

end Gateway

namespace Operation

/-- The operation leaves the projection of its reads as it is: all fields. -/
def IsStandard : Operation → Prop
  | .query _ _ _ projection => Gateway.isEverything projection = true
  | .find _ _ projection _ _ => Gateway.isEverything projection = true
  | .findOne _ _ projection _ => Gateway.isEverything projection = true
  | .getOrNotFound _ _ projection => Gateway.isEverything projection = true
  | _ => True

theorem IsStandard.asks {operation : Operation} (standard : operation.IsStandard)
    (gateway : Gateway) (projection : Value) (among : operation.asks gateway projection) :
    Gateway.isEverything projection = true ∨ gateway.countProjection = .ok projection := by
  have whole : Gateway.isEverything Gateway.everything = true := rfl
  cases operation with
  | query => exact .inl (among ▸ standard)
  | find => exact .inl (among ▸ standard)
  | findOne => exact .inl (among ▸ standard)
  | getOrNotFound => exact .inl (among ▸ standard)
  | count => exact .inr among
  | _ => exact .inl (among ▸ whole)
end Operation

end TableGateway
