/-
This file says which rows count as live. A row that was looked up before a write is live
unless its flag reads as true; a reader sees a row where the database finds its flag equal
to false. On numbers the two are one. A flag that is null reads as false and is equal to
nothing, so its row counts as live and is not seen.
-/

import TableGateway.Proofs.Ensuring
import TableGateway.Proofs.Upserting

namespace TableGateway

open Number

/-! ### How flags are read, and how they are compared -/

namespace Value

/-- A value is a number that can be compared. -/
def IsNumber (value : Value) : Prop :=
  value.magnitude?.isSome = true ∧ value.isNaN = false

/-- A ratio is zero if its numerator is. -/
theorem same_ratio_zero (numerator : Int) (denominator : Nat) :
    (Magnitude.ratio numerator denominator).same (.ratio 0 1) = (numerator == 0) := by
  simp [Magnitude.same]

/-- A number with a sign is zero if it is without. -/
theorem signed_beq_zero (negative : Bool) (size : Nat) :
    ((if negative then -(size : Int) else size) == 0) = (size == 0) := by
  rw [Bool.eq_iff_iff]
  cases negative <;> simp

/-- A number times a power is zero if the number is. -/
theorem scaled_beq_zero (size exponent : Nat) {base : Nat} (positive : 0 < base) :
    (size * Nat.pow base exponent == 0) = (size == 0) := by
  have power : Nat.pow base exponent ≠ 0 := (Nat.pow_pos positive).ne'
  rw [Bool.eq_iff_iff, beq_iff_eq, beq_iff_eq, Nat.mul_eq_zero, or_iff_left power]

/-- A number is false exactly if it is equal to false. -/
theorem equal_false_of_isNumber {value : Value} (number : value.IsNumber) :
    value.equal (.bool false) = !truthOf value := by
  obtain ⟨hasMagnitude, isNumber⟩ := number
  cases value with
  | bool truth => cases truth <;> rfl
  | int number =>
    show (Magnitude.ratio number 1).same (.ratio 0 1) = !(number != 0)
    rw [same_ratio_zero, bne, Bool.not_not]
  | float number =>
    cases number with
    | nan => cases isNumber
    | infinity negative => rfl
    | finite negative significand exponent =>
      show (Magnitude.ratio _ _).same (.ratio 0 1) = !!(significand == 0)
      rw [same_ratio_zero, signed_beq_zero, Bool.not_not]
      cases exponent with
      | ofNat up => exact scaled_beq_zero significand up (by decide : 0 < 2)
      | negSucc down => rfl
  | decimal number =>
    cases number with
    | nan => cases isNumber
    | infinity negative => rfl
    | finite negative coefficient exponent =>
      show (Magnitude.ratio _ _).same (.ratio 0 1) = !!(coefficient.value == 0)
      rw [same_ratio_zero, signed_beq_zero, Bool.not_not]
      cases exponent with
      | ofNat up => exact scaled_beq_zero coefficient.value up (by decide : 0 < 10)
      | negSucc down => rfl
  | _ => cases hasMagnitude

/-- An undefined value is as good as none. -/
theorem isTruthy_getD_of_isUndefined (value : Value) :
    ((if value.isUndefined then none else some value).getD .null).isTruthy = value.isTruthy := by
  cases value <;> rfl

end Value

/-- How a database compares what is stored with what is bound: null is equal to nothing, and numbers
are equal as numbers. What it makes of other values is its own affair. -/
structure StoredEquality where
  equals : Value → Value → Option Bool
  equals_null : ∀ bound, equals .null bound = none
  equals_number : ∀ stored bound, stored.IsNumber → bound.IsNumber →
    equals stored bound = some (stored.equal bound)

/-- A database that finds values equal if they are, whatever they are. -/
def StoredEquality.exact : StoredEquality where
  equals stored bound := if stored.isNull then none else some (stored.equal bound)
  equals_null _ := rfl
  equals_number stored bound number _ := by
    cases stored with
    | null => cases number.1
    | _ => rfl

/-- The absences are loaded as they are, and count as false. -/
theorem Formatter.isTruthy_load_boolean {raw value : Value}
    (loaded : Formatter.load .boolean raw = .ok value) : value.isTruthy = truthOf raw := by
  unfold Formatter.load at loaded
  split at loaded
  · rename_i absent
    cases loaded
    cases raw with
    | null => rfl
    | undefined => rfl
    | _ => cases absent
  · cases loaded
    rfl

namespace Schema

variable {schema : Schema}

/-- Whether the flag of a stored row reads as true; where nothing is stored, its default counts. -/
def readsHidden (schema : Schema) (flag : Value) (stored : Record) : Bool :=
  match stored.get? flag with
  | some raw => truthOf raw
  | none => ((schema.spec? flag).map fun spec => spec.default.isTruthy).getD false

/-- The first field has what was loaded for it in front of what the others have, unless that is
nothing. -/
theorem loadFields_cons {name row : Value} {spec : FieldSpec} {rest : Entries FieldSpec}
    {found : Record} (loaded : loadFields row ((name, spec) :: rest) = .ok found) :
    ∃ value others, loadedValue spec row name = .ok value ∧ loadFields row rest = .ok others ∧
      found = if value.isUndefined then others else (name, value) :: others := by
  obtain ⟨value, taken, loaded⟩ := ok_of_bind loaded
  obtain ⟨others, later, assembled⟩ := ok_of_bind loaded
  exact ⟨value, others, taken, later, (Except.ok.inj assembled).symm⟩

theorem keys_loadFields {row : Value} {fields : Entries FieldSpec} {found : Record}
    (loaded : loadFields row fields = .ok found) : found.keys.Sublist fields.keys := by
  induction fields generalizing found with
  | nil =>
    cases loaded
    exact .slnil
  | cons field rest inductionHypothesis =>
    obtain ⟨name, spec⟩ := field
    obtain ⟨value, others, -, later, rfl⟩ := loadFields_cons loaded
    split
    · exact (inductionHypothesis later).cons _
    · exact (inductionHypothesis later).cons_cons _

/-- A typed record has under a name what was loaded for the field, unless that is nothing. -/
theorem named?_loadFields {row : Value} {fields : Entries FieldSpec} {found : Record}
    (distinct : fields.AreDistinct) (loaded : loadFields row fields = .ok found) {name : String}
    {spec : FieldSpec} (declared : (.text name, spec) ∈ fields) :
    ∃ value, loadedValue spec row (.text name) = .ok value ∧
      found.named? name = if value.isUndefined then none else some value := by
  induction fields generalizing found with
  | nil => cases declared
  | cons field rest inductionHypothesis =>
    obtain ⟨key, own⟩ := field
    obtain ⟨value, others, taken, later, rfl⟩ := loadFields_cons loaded
    rcases List.mem_cons.mp declared with here | among
    · cases here
      refine ⟨value, taken, ?_⟩
      split
      · cases found : Entries.named? others name with
        | none => rfl
        | some held =>
          have member : Value.text name ∈ others.keys :=
            List.mem_map_of_mem (Entries.mem_of_named? found)
          exact absurd ((keys_loadFields later).subset member)
            (Entries.not_mem_keys_of_areDistinct distinct)
      · exact Entries.named?_cons_self name value others
    · obtain ⟨held, heldLoaded, has⟩ :=
        inductionHypothesis (List.pairwise_cons.mp distinct).2 later among
      refine ⟨held, heldLoaded, ?_⟩
      rw [← has]
      have other : key ≠ .text name := by
        rintro rfl
        exact Entries.not_mem_keys_of_areDistinct distinct (List.mem_map_of_mem among)
      split
      · rfl
      · exact Entries.named?_cons_of_ne other value others

end Schema

/-- A statement sets the column that a key names to a value. -/
def Statement.Sets (statement : Statement) (key value : Value) : Prop :=
  ∃ table written predicates column, statement = .update table written predicates ∧
    key = .text column.name ∧ (column, value) ∈ written

namespace Gateway

variable {gateway : Gateway}

/-- A typed row is hidden if the flag of the stored row reads as true. -/
theorem isHidden_of_toData (named : ∀ key ∈ gateway.schema.fieldNames, ∃ name, key = .text name)
    {flag : Value} (declared : gateway.schema.hiddenFlag = some flag) {stored found : Record}
    (loaded : gateway.schema.toData (.dict stored) = .ok found) :
    gateway.isHidden found = gateway.schema.readsHidden flag stored := by
  obtain ⟨name, spec, rfl, specified, isBoolean⟩ := Schema.exists_flag_spec named declared
  obtain ⟨value, taken, has⟩ := Schema.named?_loadFields gateway.schema.distinct loaded
    (Entries.mem_of_named? specified)
  have hidden : gateway.isHidden found = ((found.named? name).getD .null).isTruthy := by
    rw [isHidden, declared]
    rfl
  rw [hidden, has, Value.isTruthy_getD_of_isUndefined, Schema.readsHidden, specified]
  obtain ⟨member, present, taken⟩ := ok_of_bind taken
  cases present
  cases given : Entries.get? stored (.text name) with
  | none =>
    rw [given] at taken
    cases taken
    rfl
  | some raw =>
    rw [given] at taken
    exact Formatter.isTruthy_load_boolean (isBoolean ▸ taken)

/-! ### Rows that are looked up before a write -/

/-- Rows are brought back by a statement that sets their flag to false. -/
theorem SetsFlag.sets (named : ∀ key ∈ gateway.schema.fieldNames, ∃ name, key = .text name)
    {flag condition : Value} (declared : gateway.schema.hiddenFlag = some flag) {hides : Bool}
    {statement : Statement} (sets : gateway.SetsFlag hides condition statement) :
    statement.Sets flag (.bool hides) := by
  cases sets with
  | @update own _ declaredOwn updates =>
    cases declaredOwn.symm.trans declared
    cases updates with
    | update written compiled confined columns =>
      obtain ⟨name, rfl, member⟩ := mem_formOf_flag named declared written
      rw [assignmentsOf_eq_ok columns] at member
      obtain ⟨column, rfl, among⟩ := Record.exists_column_of_mem member
      exact ⟨_, _, _, column, rfl, rfl, among⟩

variable {flag : Value} {session : Session} {lookup : Statement} {reply : Reply} {stored : Record}
  {rest : List Exchange}

/-- A row that is made sure of is taken for live or brought back by what its flag reads as. -/
theorem ensure_judges (declared : gateway.schema.hiddenFlag = some flag)
    (single : reply.rows = [stored]) {record : Value} {result : Option WriteResult}
    (exchanged : session.exchanges gateway.endpoint.dialect (gateway.ensure record) =
      (lookup, .ok reply) :: rest)
    (returned : (session.run gateway.endpoint.dialect (gateway.ensure record)).1 = .ok result) :
    (result = none ↔ gateway.schema.readsHidden flag stored = false) ∧
      (gateway.schema.readsHidden flag stored = true ↔
        ∃ exchange ∈ rest, exchange.1.Sets flag (.bool false)) := by
  rcases ensures_of_converses (Session.converses_exchanges gateway.endpoint.dialect
    (gateway.ensure record) session) with ⟨failure, _, nothing, _⟩ | ⟨strict, row, _, _, ensures⟩
  · rw [nothing] at exchanged
    cases exchanged
  rw [exchanged] at ensures
  generalize (session.run gateway.endpoint.dialect (gateway.ensure record)).1 = outcome
    at ensures returned
  cases ensures with
  | failing => cases returned
  | refused => cases returned
  | columnless => cases returned
  | unrevived => cases returned
  | inserted _ _ empty =>
    rw [single] at empty
    cases empty
  | @live _ _ found _ reads typed _ isLive =>
    rw [single] at typed
    have loaded := (Schema.formatRows_eq_cons typed).1
    rw [isHidden_of_toData reads.named declared loaded] at isLive
    cases returned
    simp [isLive]
  | @revived _ update _ found _ _ looked answer reads typed _ hidden _ _ sets =>
    rw [single] at typed
    have loaded := (Schema.formatRows_eq_cons typed).1
    rw [isHidden_of_toData reads.named declared loaded] at hidden
    obtain ⟨done, rfl, rfl⟩ := ok_of_map returned
    have cleared := sets.sets reads.named declared
    refine ⟨by simp [hidden], fun _ => ⟨(update, .ok done), ?_, cleared⟩, fun _ => hidden⟩
    exact List.mem_append_right _ List.mem_cons_self

/-- A row that is upserted keeps its flag or loses it by what it reads as, if the changes do not
mention it. -/
theorem upsert_judges (declared : gateway.schema.hiddenFlag = some flag)
    (single : reply.rows = [stored]) {condition changes : Value} {changed : Record}
    {result : UpsertResult} (given : changes.toRecord = .ok changed)
    (unmentioned : changed.get? flag = none)
    (exchanged : session.exchanges gateway.endpoint.dialect (gateway.upsert condition changes) =
      (lookup, .ok reply) :: rest)
    (returned : (session.run gateway.endpoint.dialect (gateway.upsert condition changes)).1 =
      .ok result) :
    (gateway.schema.readsHidden flag stored = true ↔
        ∃ exchange ∈ rest, exchange.1.Sets flag (.bool false)) ∧
      (gateway.schema.readsHidden flag stored = false →
        ∀ exchange ∈ rest, ∀ value, ¬exchange.1.Sets flag value) := by
  have upserts := upserts_of_converses
    (Session.converses_exchanges gateway.endpoint.dialect (gateway.upsert condition changes)
      session)
  rw [exchanged] at upserts
  generalize (session.run gateway.endpoint.dialect (gateway.upsert condition changes)).1 = outcome
    at upserts returned
  cases upserts with
  | failing => cases returned
  | uninserted => cases returned
  | unformed => cases returned
  | unconfined => cases returned
  | inserted _ _ empty =>
    rw [single] at empty
    cases empty
  | unchanged reads typed _ _ live =>
    rw [single] at typed
    rw [isHidden_of_toData reads.named declared (Schema.formatRows_eq_cons typed).1] at live
    simp [live]
  | @updated _ _ found own form _ clause written answer reads typed _ ownGiven _ _ _ _ clears
      spares =>
    cases ownGiven.symm.trans given
    rw [single] at typed
    have reading := isHidden_of_toData reads.named declared (Schema.formatRows_eq_cons typed).1
    rw [reading] at clears spares
    have untouched (live : gateway.schema.readsHidden flag stored = false) (value : Value) :
        ¬(Statement.update gateway.table written clause.predicates).Sets flag value := by
      rintro ⟨_, _, _, column, same, rfl, member⟩
      cases same
      obtain ⟨raw, mentioned⟩ := spares live column (List.mem_map_of_mem member)
      cases unmentioned.symm.trans mentioned
    have cleared (hidden : gateway.schema.readsHidden flag stored = true) :
        (Statement.update gateway.table written clause.predicates).Sets flag (.bool false) := by
      obtain ⟨column, isFlag, member⟩ := clears hidden
      exact ⟨_, _, _, column, rfl, Option.some.inj (declared.symm.trans isFlag), member⟩
    refine ⟨⟨fun hidden => ⟨_, List.mem_cons_self, cleared hidden⟩, ?_⟩, ?_⟩
    · rintro ⟨exchange, member, sets⟩
      rw [List.mem_singleton.mp member] at sets
      exact Bool.of_not_eq_false fun live => untouched live _ sets
    · intro live exchange member value
      rw [List.mem_singleton.mp member]
      exact untouched live value

end Gateway

/-! ### Rows that a reader sees -/

/-- A flag that is a number reads as false exactly if the database finds it equal to false. -/
theorem Schema.readsHidden_eq_false_iff {schema : Schema} {flag raw : Value} {stored : Record}
    (given : stored.get? flag = some raw) (number : raw.IsNumber) (database : StoredEquality) :
    schema.readsHidden flag stored = false ↔
      database.equals raw (.bool false) = some true := by
  have reading : schema.readsHidden flag stored = truthOf raw := by
    rw [readsHidden, given]
  rw [database.equals_number raw (.bool false) number ⟨rfl, rfl⟩,
    Value.equal_false_of_isNumber number, reading, Option.some.injEq, Bool.not_eq_true']

/-- Making sure of a row and upserting judge alike whether a stored row is live: by what its flag
reads as. A row whose flag is a number counts as live exactly if a reader sees it, and is brought
back otherwise. A row whose flag is null counts as live, though no reader sees it. -/
theorem Gateway.judges_liveness {gateway : Gateway} {flag : Value}
    (declared : gateway.schema.hiddenFlag = some flag) {stored : Record} {reply : Reply}
    (single : reply.rows = [stored]) (session : Session) (lookup : Statement)
    (rest : List Exchange) :
    let dialect := gateway.endpoint.dialect
    let hidden := gateway.schema.readsHidden flag stored
    (∀ record result,
      session.exchanges dialect (gateway.ensure record) = (lookup, .ok reply) :: rest →
      (session.run dialect (gateway.ensure record)).1 = .ok result →
        (result = none ↔ hidden = false) ∧
        (hidden = true ↔ ∃ exchange ∈ rest, exchange.1.Sets flag (.bool false))) ∧
    (∀ condition changes changed result, changes.toRecord = .ok changed →
      changed.get? flag = none →
      session.exchanges dialect (gateway.upsert condition changes) =
        (lookup, .ok reply) :: rest →
      (session.run dialect (gateway.upsert condition changes)).1 = .ok result →
        (hidden = true ↔ ∃ exchange ∈ rest, exchange.1.Sets flag (.bool false)) ∧
        (hidden = false → ∀ exchange ∈ rest, ∀ value, ¬exchange.1.Sets flag value)) ∧
    ∀ (database : StoredEquality) (raw : Value), stored.get? flag = some raw →
      (raw.IsNumber → (hidden = false ↔ database.equals raw (.bool false) = some true)) ∧
      (raw = .null → hidden = false ∧ database.equals raw (.bool false) = none) := by
  intro dialect hidden
  refine ⟨fun record result exchanged returned =>
      ensure_judges declared single exchanged returned,
    fun condition changes changed result given unmentioned exchanged returned =>
      upsert_judges declared single given unmentioned exchanged returned,
    fun database raw given => ⟨fun number =>
      Schema.readsHidden_eq_false_iff given number database, ?_⟩⟩
  rintro rfl
  refine ⟨?_, database.equals_null _⟩
  show gateway.schema.readsHidden flag stored = false
  rw [Schema.readsHidden, given]
  rfl

/-- A user whose flag is null counts as live, and is not seen. -/
theorem Gateway.judges_liveness_users :
    let stored : Record := [(.text "id", .int 1), (.text "deleted", .null)]
    let session : Session := ⟨.recorder .standard, ⟨[.result [stored] none 0 none], [], []⟩⟩
    let plan := Gateway.users.ensure (.dict [(.text "id", .int 1)])
    let dialect := Gateway.users.endpoint.dialect
    ∃ lookup reply, session.exchanges dialect plan = [(lookup, .ok reply)] ∧
      reply.rows = [stored] ∧ (session.run dialect plan).1 = .ok none ∧
      Gateway.users.schema.readsHidden (.text "deleted") stored = false ∧
      StoredEquality.exact.equals .null (.bool false) = none := by
  intro stored session plan dialect
  have declared : Gateway.users.schema.hiddenFlag = some (.text "deleted") := rfl
  obtain ⟨lookup, reply, exchanged, single, returned⟩ : ∃ lookup reply,
      session.exchanges dialect plan = [(lookup, .ok reply)] ∧ reply.rows = [stored] ∧
        (session.run dialect plan).1 = .ok none := ⟨_, _, rfl, rfl, rfl⟩
  obtain ⟨ensures, -, reads⟩ := Gateway.judges_liveness declared single session lookup []
  have live := ((ensures _ none exchanged returned).1).mp rfl
  exact ⟨lookup, reply, exchanged, single, returned, live,
    ((reads .exact .null rfl).2 rfl).2⟩

end TableGateway
