/-
This file reads a statement as a driver does that fills its arguments in by conversions.
A conversion begins with a percent sign and is read on through a key, flags, a width, a
precision and a length up to the character that says what it converts to. The places of a
statement are conversions of text, one for each argument and in order; and they are all
that is read, exactly if neither a name nor a given projection has a percent sign.
-/

import TableGateway.Proofs.Styles

namespace TableGateway

open Pieces

/-! ### Reading conversions -/

/-- How far a conversion has been read: its sign, some of its key inside so many parentheses, its
flags, digits of its width, all of its width, the point, digits of its precision, all of its
precision, or its length. -/
inductive Progress where
  | sign
  | key (depth : Nat)
  | flags
  | width
  | widened
  | point
  | precision
  | precise
  | sized
  deriving DecidableEq, Repr

namespace Progress

/-- Behind the precision a length may come; any other character says what is converted to. -/
def afterPrecision (character : Char) : Option Progress :=
  if character = 'h' || character = 'l' || character = 'L' then some .sized else none

def afterWidth (character : Char) : Option Progress :=
  if character = '.' then some .point else afterPrecision character

def afterFlags (character : Char) : Option Progress :=
  if character = '*' then some .widened
  else if character.isDigit then some .width
  else afterWidth character

def afterKey (character : Char) : Option Progress :=
  if character = '-' || character = '+' || character = ' ' || character = '#' ||
      character = '0' then
    some .flags
  else afterFlags character

/-- How far a conversion has been read with one more character, unless that is its last. -/
def next (progress : Progress) (character : Char) : Option Progress :=
  match progress with
  | .sign => if character = '(' then some (.key 1) else afterKey character
  | .key depth =>
    if character = '(' then some (.key (depth + 1))
    else if character = ')' then some (if depth = 1 then .flags else .key (depth - 1))
    else some (.key depth)
  | .flags => afterKey character
  | .width => if character.isDigit then some .width else afterWidth character
  | .widened => afterWidth character
  | .point =>
    if character = '*' then some .precise
    else if character.isDigit then some .precision
    else afterPrecision character
  | .precision => if character.isDigit then some .precision else afterPrecision character
  | .precise => afterPrecision character
  | .sized => none

end Progress

/-- The conversions of a text, inside a conversion of which something has been read, or outside. One
that the text breaks off counts as far as it goes. -/
def conversions : Option (List Char × Progress) → List Char → List (List Char)
  | none, [] => []
  | some (read, _), [] => [read]
  | none, character :: rest =>
    if character = '%' then conversions (some (['%'], .sign)) rest else conversions none rest
  | some (read, progress), character :: rest =>
    match progress.next character with
    | none => (read ++ [character]) :: conversions none rest
    | some further => conversions (some (read ++ [character], further)) rest

/-- The conversion of an argument to text. -/
def textConversion : List Char := ['%', 's']

/-- Without a percent sign, nothing is read. -/
theorem conversions_append {part : List Char} (plain : '%' ∉ part) (rest : List Char) :
    conversions none (part ++ rest) = conversions none rest := by
  induction part with
  | nil => rfl
  | cons character part inductionHypothesis =>
    have other : character ≠ '%' := fun same => plain (same ▸ List.mem_cons_self)
    rw [List.cons_append, conversions, if_neg other]
    exact inductionHypothesis fun member => plain (List.mem_cons_of_mem _ member)

theorem conversions_textConversion (rest : List Char) :
    conversions none (textConversion ++ rest) = textConversion :: conversions none rest := rfl

/-- Every percent sign is read in some conversion. -/
theorem count_conversions (reading : Option (List Char × Progress)) (text : List Char) :
    (conversions reading text).flatten.count '%' =
      ((reading.map Prod.fst).getD []).count '%' + text.count '%' := by
  induction text generalizing reading with
  | nil => rcases reading with _ | ⟨read, progress⟩ <;> simp [conversions]
  | cons character rest inductionHypothesis =>
    rcases reading with _ | ⟨read, progress⟩
    · rw [conversions]
      by_cases sign : character = '%'
      · rw [if_pos sign, inductionHypothesis, sign, List.count_cons_self]
        show 1 + rest.count '%' = 0 + (rest.count '%' + 1)
        omega
      · rw [if_neg sign, inductionHypothesis, List.count_cons_of_ne sign]
    · rw [conversions]
      cases progress.next character with
      | none =>
        simp only [List.flatten_cons, List.count_append, inductionHypothesis, List.count_cons,
          List.count_nil, Option.map_none, Option.getD_none, Option.map_some, Option.getD_some]
        omega
      | some further =>
        simp only [List.count_append, inductionHypothesis, List.count_cons, List.count_nil,
          Option.map_some, Option.getD_some]
        omega

/-- A text fills each conversion of an argument to text with the next of some texts. -/
def fill : List Char → List (List Char) → List Char
  | '%' :: 's' :: rest, text :: texts => text ++ fill rest texts
  | character :: rest, texts => character :: fill rest texts
  | [], _ => []

theorem fill_append {part : List Char} (plain : '%' ∉ part) (rest : List Char)
    (texts : List (List Char)) : fill (part ++ rest) texts = part ++ fill rest texts := by
  induction part with
  | nil => rfl
  | cons character part inductionHypothesis =>
    have other : character ≠ '%' := fun same => plain (same ▸ List.mem_cons_self)
    rw [List.cons_append, fill, List.cons_append]
    · rw [inductionHypothesis fun member => plain (List.mem_cons_of_mem _ member)]
    · exact fun _ _ _ _ sign => absurd sign other

/-! ### Conversions among pieces -/

namespace Pieces

variable {pieces : List Piece}

/-- No name has a percent sign, and neither do the words. -/
structure ArePlain (pieces : List Piece) : Prop where
  words : Speak (fun text => '%' ∉ text.toList) pieces
  names : ∀ identifier ∈ names pieces, '%' ∉ identifier.name.toList

theorem percent_mem_quoted_iff (identifier : Identifier) :
    '%' ∈ identifier.quoted.toList ↔ '%' ∈ identifier.name.toList := by
  rw [Identifier.toList_quoted]
  simp [backtick]

theorem arePlain_words_iff {text : String} :
    ArePlain (.words text :: pieces) ↔ '%' ∉ text.toList ∧ ArePlain pieces := by
  constructor
  · rintro ⟨words, names⟩
    obtain ⟨here, later⟩ := speak_words_iff.mp words
    exact ⟨here, later, names⟩
  · rintro ⟨here, later, names⟩
    exact ⟨speak_words_iff.mpr ⟨here, later⟩, names⟩

theorem arePlain_name_iff {identifier : Identifier} :
    ArePlain (.name identifier :: pieces) ↔
      '%' ∉ identifier.quoted.toList ∧ ArePlain pieces := by
  rw [percent_mem_quoted_iff]
  constructor
  · rintro ⟨words, names⟩
    obtain ⟨here, later⟩ := List.forall_mem_cons.mp names
    exact ⟨here, speak_name_iff.mp words, later⟩
  · rintro ⟨here, words, later⟩
    exact ⟨speak_name_iff.mpr words, List.forall_mem_cons.mpr ⟨here, later⟩⟩

theorem arePlain_place_iff {argument : Value} {collection : Bool} :
    ArePlain (.place argument collection :: pieces) ↔ ArePlain pieces := by
  constructor
  · rintro ⟨words, names⟩
    exact ⟨speak_place_iff.mp words, names⟩
  · rintro ⟨words, names⟩
    exact ⟨speak_place_iff.mpr words, names⟩

/-- Among plain pieces the conversions are the places. -/
theorem conversions_render (plain : ArePlain pieces) :
    conversions none (render .format pieces) =
      List.replicate (places pieces).length textConversion := by
  induction pieces with
  | nil => rfl
  | cons piece pieces inductionHypothesis =>
    cases piece with
    | words text =>
      obtain ⟨here, later⟩ := arePlain_words_iff.mp plain
      rw [render_cons, Piece.text_words, conversions_append here, inductionHypothesis later]
      rfl
    | name identifier =>
      obtain ⟨here, later⟩ := arePlain_name_iff.mp plain
      rw [render_cons, Piece.text_name, conversions_append here, inductionHypothesis later]
      rfl
    | place argument collection =>
      have placed : render .format (.place argument collection :: pieces) =
          textConversion ++ render .format pieces := render_formatMark _ _ _
      rw [placed, conversions_textConversion, places_place, List.length_cons,
        List.replicate_succ, inductionHypothesis (arePlain_place_iff.mp plain)]

theorem length_places_le_count (pieces : List Piece) :
    (places pieces).length ≤ (render .format pieces).count '%' := by
  induction pieces with
  | nil => exact Nat.le_refl _
  | cons piece pieces inductionHypothesis =>
    cases piece with
    | words text =>
      rw [render_cons, List.count_append, places_words]
      omega
    | name identifier =>
      rw [render_cons, List.count_append, places_name]
      omega
    | place argument collection =>
      rw [render_formatMark, places_place, List.length_cons, List.count_cons_self,
        List.count_cons_of_ne (by decide)]
      omega

/-- Pieces with no more percent signs than places are plain. -/
theorem arePlain_of_count (few : (render .format pieces).count '%' ≤ (places pieces).length) :
    ArePlain pieces := by
  induction pieces with
  | nil => exact ⟨speak_nil, by simp⟩
  | cons piece pieces inductionHypothesis =>
    have later := length_places_le_count pieces
    cases piece with
    | words text =>
      rw [render_cons, List.count_append, places_words, Piece.text_words] at few
      have none : text.toList.count '%' = 0 := by omega
      exact arePlain_words_iff.mpr ⟨List.count_eq_zero.mp none, inductionHypothesis (by omega)⟩
    | name identifier =>
      rw [render_cons, List.count_append, places_name, Piece.text_name] at few
      have none : identifier.quoted.toList.count '%' = 0 := by omega
      exact arePlain_name_iff.mpr ⟨List.count_eq_zero.mp none, inductionHypothesis (by omega)⟩
    | place argument collection =>
      rw [render_formatMark, places_place, List.length_cons, List.count_cons_self,
        List.count_cons_of_ne (by decide)] at few
      exact arePlain_place_iff.mpr (inductionHypothesis (by omega))

/-- Nothing but the places is read as a conversion exactly if the pieces are plain. -/
theorem conversions_render_iff :
    conversions none (render .format pieces) =
        List.replicate (places pieces).length textConversion ↔ ArePlain pieces := by
  refine ⟨fun only => arePlain_of_count ?_, conversions_render⟩
  have counted := count_conversions none (render .format pieces)
  have signs : (List.replicate (places pieces).length textConversion).flatten.count '%' =
      (places pieces).length := by
    induction (places pieces).length with
    | zero => rfl
    | succ count inductionHypothesis =>
      rw [List.replicate_succ, List.flatten_cons, List.count_append, inductionHypothesis,
        show textConversion.count '%' = 1 by decide]
      omega
  rw [only, signs] at counted
  have nothing : ((Option.map Prod.fst (none : Option (List Char × Progress))).getD []).count '%' =
      0 := rfl
  omega

/-- The text of pieces with something in each place for its argument. -/
def inlined (wording : Value → List Char) (pieces : List Piece) : List Char :=
  pieces.flatMap fun piece =>
    match piece with
    | .place argument _ => wording argument
    | piece => (piece.text .format).toList

/-- Filled in their order, the arguments come each to its own place. -/
theorem fill_render (plain : ArePlain pieces) (wording : Value → List Char) :
    fill (render .format pieces) ((places pieces).map fun place => wording place.1) =
      inlined wording pieces := by
  induction pieces with
  | nil => rfl
  | cons piece pieces inductionHypothesis =>
    cases piece with
    | words text =>
      obtain ⟨here, later⟩ := arePlain_words_iff.mp plain
      rw [render_cons, Piece.text_words, fill_append here, places_words,
        inductionHypothesis later]
      rfl
    | name identifier =>
      obtain ⟨here, later⟩ := arePlain_name_iff.mp plain
      rw [render_cons, Piece.text_name, fill_append here, places_name,
        inductionHypothesis later]
      rfl
    | place argument collection =>
      rw [render_formatMark, places_place, List.map_cons, fill,
        inductionHypothesis (arePlain_place_iff.mp plain)]
      rfl

end Pieces

/-! ### Conversions in statements -/

theorem Phrase.plain {text : String} (phrase : Phrase text) : '%' ∉ text.toList := by
  have digits (value : Nat) : '%' ∉ (Number.integerText value).toList := by
    rw [Limit.toList_integerText]
    intro member
    have digit := Number.isDigit_of_mem_digits value '%' member
    revert digit
    decide
  cases phrase with
  | fixed among =>
    have each : ∀ text ∈ Statement.fixedWords, '%' ∉ text.toList := by decide
    exact each text among
  | compared operator => cases operator <;> decide
  | limited limit =>
    cases limit with
    | none => exact List.not_mem_nil
    | first count => simp [Limit.sql, digits]
    | range offset count => simp [Limit.sql, digits]

namespace Statement

/-- A projection that was given as a text. -/
def projected? : Statement → Option String
  | .select (.verbatim text) _ _ => some text
  | _ => none

/-- What a statement spells out: its names, and a projection that was given as a text. -/
def spelled (statement : Statement) : List String :=
  statement.names.map Identifier.name ++ statement.projected?.toList

/-- A statement as its driver reads it: the conversions in its text are one of text for each
argument, and no others, exactly if nothing that it spells out has a percent sign; and then each
argument, in whatever wording, comes to its own place. -/
structure ConvertsPlainly (dialect : Dialect) (statement : Statement) : Prop where
  only : conversions none (statement.sql dialect).toList =
      List.replicate statement.arguments.length textConversion ↔
    ∀ text ∈ statement.spelled, '%' ∉ text.toList
  placed : statement.IsOwn → (∀ text ∈ statement.spelled, '%' ∉ text.toList) →
    ∀ wording : Value → List Char,
      fill (statement.sql dialect).toList (statement.arguments.map wording) =
        inlined wording (statement.pieces dialect.duplicates)

variable {statement : Statement}

theorem words_of_projected? (form : DuplicateForm) {text : String}
    (given : statement.projected? = some text) : .words text ∈ statement.pieces form := by
  cases statement with
  | select projection table clause =>
    cases projection with
    | columns names => cases given
    | verbatim selected =>
      cases given
      simp [pieces, Projection.pieces]
  | _ => cases given

/-- The pieces of a statement are plain if what it spells out is. -/
theorem arePlain_pieces_iff (own : statement.IsOwn) (form : DuplicateForm) :
    ArePlain (statement.pieces form) ↔ ∀ text ∈ statement.spelled, '%' ∉ text.toList := by
  constructor
  · rintro ⟨words, names⟩ text member
    rcases List.mem_append.mp member with named | given
    · obtain ⟨identifier, among, rfl⟩ := List.mem_map.mp named
      exact names identifier ((mem_names_pieces form statement identifier).mpr among)
    · rw [Option.mem_toList] at given
      exact words text (words_of_projected? form given)
  · intro plain
    refine ⟨(statement.speak_pieces form).mono fun text spoken => ?_, fun identifier among => ?_⟩
    · rcases spoken with phrase | given
      · exact phrase.plain
      · have projected : statement.projected? = some text := by
          cases statement with
          | select projection table clause => cases projection <;> exact given
          | raw sql arguments => cases own
          | _ => cases given
        exact plain text (List.mem_append_right _ (Option.mem_toList.mpr projected))
    · have named := (mem_names_pieces form statement identifier).mp among
      exact plain _ (List.mem_append_left _ (List.mem_map_of_mem named))

/-- A statement of the gateway's own, in the style of conversions. -/
theorem IsOwn.convertsPlainly (own : statement.IsOwn) (arranged : statement.IsArranged)
    {dialect : Dialect} (formats : dialect.style = .format) :
    statement.ConvertsPlainly dialect := by
  have unlooked : statement.looked = [] := by
    cases statement with
    | raw sql arguments => cases own
    | _ => rfl
  have bound : statement.arguments = statement.takes.map Prod.fst := by
    rw [arguments_eq_takes, unlooked, List.append_nil]
  have placed := places_pieces dialect.duplicates statement
  have plain := arePlain_pieces_iff own dialect.duplicates
  constructor
  · rw [toList_sql dialect arranged, formats, bound, List.length_map, ← placed, ← plain]
    exact conversions_render_iff
  · intro _ spelled wording
    rw [toList_sql dialect arranged, formats, bound, List.map_map, ← placed]
    exact fill_render (plain.mpr spelled) wording

end Statement

/-! ### What a gateway sends -/

/-- A handle whose style is that of conversions looks its tables up on a server, if at all. -/
theorem Handle.catalog_ne_masterTable {handle : Handle} {endpoint : Endpoint}
    (own : handle.endpoint? = some endpoint)
    (formats : endpoint.dialect.styleName = .text ParamStyle.format.name) :
    endpoint.catalog ≠ .masterTable := by
  intro file
  cases handle with
  | recorder held =>
    have recorded : held.endpoint? = some endpoint := own
    unfold Recorder.endpoint? at recorded
    split at recorded
    · split at recorded
      · rw [← Option.some.inj recorded] at file
        cases file
      · cases recorded
    · cases recorded
  | file held =>
    cases own
    exact absurd (Value.text.inj formats) (by decide)
  | server held =>
    cases own
    cases file

/-- Asking a server for a table has a conversion for each of its two arguments. -/
theorem conversions_serverTableQuery :
    conversions none Endpoint.serverTableQuery.toList = [textConversion, textConversion] := by
  decide +kernel

namespace Operation

/-- Whatever an operation sends with arguments, on a handle whose style is that of conversions. -/
theorem convertsPlainly_of_runs {gateway : Gateway} {handle : Handle}
    (own : handle.endpoint? = some gateway.endpoint)
    (formats : gateway.endpoint.dialect.styleName = .text ParamStyle.format.name)
    {operation : Operation} {sent : List Statement} {ending : Ending operation.Answer}
    (run : (operation.plan gateway).Runs sent ending) :
    ∀ statement ∈ sent, statement.arguments ≠ [] →
      statement.ConvertsPlainly gateway.endpoint.dialect := by
  intro statement member something
  have style : gateway.endpoint.dialect.style = .format := by
    rw [Dialect.style, formats, ParamStyle.ofValue?_name]
    rfl
  have server := Handle.catalog_ne_masterTable own formats
  by_cases looks : gateway.endpoint.LooksUp gateway.table statement
  · cases looks with
    | tableOfFile file => exact absurd file server
    | columnsOfFile file => exact absurd file server
    | columnsOnServer _ => exact absurd rfl something
    | tableOnServer _ =>
      refine ⟨⟨fun _ _ spelled => absurd spelled List.not_mem_nil, fun _ => ?_⟩, fun own => ?_⟩
      · exact conversions_serverTableQuery
      · cases own
  · obtain ⟨own, arranged⟩ := (operation.sends_of_runs gateway run statement member).isOwn looks
    exact own.convertsPlainly arranged style

/-- A user renamed: the values are no part of the text, so their percent signs do not matter. -/
theorem convertsPlainly_users :
    let gateway := Gateway.notedUsers.inStyle .format
    let held := Recorder.standard.inStyle .format
    let update := Operation.update (.dict [(.text "id", .int 5)])
      (.dict [(.text "name", .text "50%")]) (.bool false) true
    ∃ statement ∈ Session.sent gateway.endpoint.dialect (update.plan gateway) (.ofRecorder held),
      statement.arguments = [.text "50%", .int 5] ∧
        conversions none (statement.sql gateway.endpoint.dialect).toList =
          [textConversion, textConversion] := by
  intro gateway held update
  obtain ⟨ending, run, _⟩ := Session.runs_sent gateway.endpoint.dialect (update.plan gateway)
    (.ofRecorder held)
  have own : (Handle.recorder held).endpoint? = some gateway.endpoint := rfl
  have formats : gateway.endpoint.dialect.styleName = .text ParamStyle.format.name := rfl
  have converts :=
    convertsPlainly_of_runs own formats run _ List.mem_cons_self (List.cons_ne_nil _ _)
  refine ⟨_, List.mem_cons_self, rfl, converts.only.mpr ?_⟩
  show ∀ text ∈ ["users", "name", "id"], '%' ∉ text.toList
  decide

/-- A percent sign in a name is read as a conversion, together with what follows it. -/
example :
    conversions none "SELECT \x60rate%\x60 FROM \x60users\x60 WHERE \x60rate%\x60 = %s".toList =
      [['%', backtick], ['%', backtick], textConversion] := by
  decide

end Operation

end TableGateway
