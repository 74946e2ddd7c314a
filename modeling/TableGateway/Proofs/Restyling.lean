/-
This file puts a statement of one style into the other by its text alone. Outside of
quotes every question mark becomes the other mark; where it marks the place of a
collection under a membership, the parentheses around it go. Names keep whatever marks
and parentheses they have, since they stand between quotes.
-/

import TableGateway.Proofs.Pieces

namespace TableGateway

open Pieces Sqlite

/-- Puts a text with question marks into the other style, inside a quoted part or outside. There is
one flag for each place, and where it is set the place loses its parentheses. -/
def restyle : Option Char → List Bool → List Char → List Char
  | _, _, [] => []
  | some quote, bare, character :: rest =>
    character :: restyle (if character = quote then none else some quote) bare rest
  | none, true :: bare, '(' :: '?' :: ')' :: rest => '%' :: 's' :: restyle none bare rest
  | none, bare, character :: rest =>
    if character = '?' then '%' :: 's' :: restyle none bare.tail rest
    else character :: restyle (if isQuote character then some character else none) bare rest

/-- No parentheses open here that belong to the next place. -/
def OpensApart (bare : List Bool) (rest : List Char) : Prop :=
  ∀ flags, bare = true :: flags → ∀ tail, rest ≠ '?' :: tail

/-- A character that is no place, and does not open the parentheses of one, stays as it is. -/
theorem restyle_cons {bare : List Bool} {character : Char} {rest : List Char}
    (notMark : character ≠ '?') (apart : character = '(' → OpensApart bare rest) :
    restyle none bare (character :: rest) =
      character :: restyle (if isQuote character then some character else none) bare rest := by
  rw [restyle]
  · rw [if_neg notMark]
  · rintro flags tail sameFlags opening rfl
    exact apart opening flags sameFlags _ rfl

/-- A part that ends outside of quotes and has no places there stays as it is. -/
theorem restyle_append {bare : List Bool} {rest : List Char} (apart : OpensApart bare rest)
    {quote : Option Char} {part : List Char} (closes : quoteAfter quote part = none)
    (passed : openMarks quote part = 0) :
    restyle quote bare (part ++ rest) = part ++ restyle none bare rest := by
  induction part generalizing quote with
  | nil =>
    rw [quoteAfter] at closes
    rw [closes, List.nil_append, List.nil_append]
  | cons character part inductionHypothesis =>
    cases quote with
    | some quote =>
      rw [List.cons_append, restyle, inductionHypothesis closes passed]
      rfl
    | none =>
      have notMark : character ≠ '?' := by
        rintro rfl
        simp [openMarks, isQuote, backtick] at passed
      have passedLater : openMarks (if isQuote character then some character else none) part =
          0 := by
        by_cases opening : isQuote character = true
        · simpa [openMarks, opening] using passed
        · simpa [openMarks, opening, notMark] using passed
      -- behind an opening parenthesis comes no place: not in the part, and not after it
      have apartHere : character = '(' → OpensApart bare (part ++ rest) := by
        rintro rfl flags sameFlags tail same
        cases part with
        | nil => exact apart flags sameFlags tail same
        | cons next part =>
          cases (List.cons.inj same).1
          simp [openMarks, isQuote, backtick] at passedLater
      rw [List.cons_append, restyle_cons notMark apartHere, inductionHypothesis closes passedLater]
      rfl

/-- What comes before a collection under a membership does not begin with a place. -/
theorem opensApart_render {pieces : List Piece}
    (inert : Speak (fun text => IsInert text.toList) pieces) :
    OpensApart ((places pieces).map Prod.snd) (render .qmark pieces) := by
  intro flags sameFlags tail same
  induction pieces with
  | nil => cases sameFlags
  | cons piece pieces inductionHypothesis =>
    cases piece with
    | words text =>
      obtain ⟨⟨_, passed⟩, later⟩ := speak_words_iff.mp inert
      rw [render_cons, Piece.text_words] at same
      cases characters : text.toList with
      | nil =>
        rw [characters] at same
        exact inductionHypothesis later sameFlags same
      | cons character rest =>
        rw [characters] at same passed
        cases (List.cons.inj same).1
        simp [openMarks, isQuote, backtick] at passed
    | name identifier =>
      rw [render_cons, Piece.text_name, Identifier.toList_quoted] at same
      cases (List.cons.inj same).1
    | place argument collection =>
      cases collection with
      | false => cases (List.cons.inj sameFlags).1
      | true =>
        rw [render_bracketed] at same
        cases (List.cons.inj same).1

/-- Pieces with question marks are put into the other style piece by piece. -/
theorem restyle_render {pieces : List Piece}
    (inert : Speak (fun text => IsInert text.toList) pieces) :
    restyle none ((places pieces).map Prod.snd) (render .qmark pieces) =
      render .format pieces := by
  induction pieces with
  | nil => rfl
  | cons piece pieces inductionHypothesis =>
    cases piece with
    | words text =>
      obtain ⟨⟨closes, passed⟩, later⟩ := speak_words_iff.mp inert
      rw [places_words, render_cons, render_cons, Piece.text_words,
        restyle_append (opensApart_render later) closes passed, inductionHypothesis later]
      rfl
    | name identifier =>
      have later := speak_name_iff.mp inert
      obtain ⟨closes, passed⟩ := isInert_quoted identifier
      rw [places_name, render_cons, render_cons, Piece.text_name,
        restyle_append (opensApart_render later) closes passed, inductionHypothesis later]
      rfl
    | place argument collection =>
      have later := speak_place_iff.mp inert
      rw [places_place, List.map_cons]
      cases collection with
      | false =>
        rw [render_mark, render_formatMark, restyle, if_pos rfl, List.tail_cons,
          inductionHypothesis later]
        exact fun _ _ same => by cases same
      | true =>
        rw [render_bracketed, render_formatMark, restyle, inductionHypothesis later]

/-! ### Restyling statements -/

theorem Phrase.isInert {text : String} (phrase : Phrase text) : IsInert text.toList := by
  cases phrase with
  | fixed among =>
    have each : ∀ text ∈ Statement.fixedWords, IsInert text.toList := by decide
    exact each text among
  | compared operator => cases operator <;> decide
  | limited limit => exact isInert_of_fits limit.fits_sql

namespace Statement

/-- The text of a statement, from the text that it has with question marks. -/
def restyled (statement : Statement) (sql : String) : String :=
  String.ofList (restyle none (statement.takes.map Prod.snd) sql.toList)

variable {statement : Statement}

theorem IsRegular.isArranged (regular : statement.IsRegular) : statement.IsArranged := by
  cases statement with
  | insert table columns rows onDuplicate => exact regular
  | replace table columns rows => exact regular
  | _ => trivial

/-- Whatever is spoken in a statement of the gateway's own is passed over. -/
theorem IsRegular.speak_isInert (regular : statement.IsRegular)
    (own : statement.IsOwn) (form : DuplicateForm) :
    Speak (fun text => IsInert text.toList) (statement.pieces form) := by
  refine (statement.speak_pieces form).mono fun text spoken => ?_
  rcases spoken with phrase | given
  · exact phrase.isInert
  · cases statement with
    | select projection table clause =>
      cases projection with
      | columns names => cases given
      | verbatim selected =>
        cases given
        exact isInert_of_fits regular
    | raw sql arguments => cases own
    | _ => cases given

/-- A statement of the gateway's own has, in the one style, the text that it has in the other, put
into the one. -/
theorem IsRegular.sql_eq_restyled (regular : statement.IsRegular)
    (own : statement.IsOwn) {marked formatted : Dialect}
    (marks : marked.style = .qmark) (formats : formatted.style = .format)
    (alike : formatted.duplicates = marked.duplicates) :
    statement.sql formatted = statement.restyled (statement.sql marked) := by
  have restyles := restyle_render (regular.speak_isInert own marked.duplicates)
  rw [places_pieces] at restyles
  rw [← String.toList_inj, restyled, String.toList_ofList, toList_sql marked regular.isArranged,
    toList_sql formatted regular.isArranged, marks, formats, alike, restyles]

end Statement

end TableGateway
