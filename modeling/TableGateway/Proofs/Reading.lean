/-
This file says what the reading operations of a gateway send. A read sends one selection
with the clause of its condition, or of the buckets it is given; the other questions that
a gateway answers only look up which tables and columns there are.
-/

import TableGateway.Proofs.Compilation

namespace TableGateway

/-- The statements by which a handle looks up tables and columns. -/
inductive Endpoint.LooksUp (endpoint : Endpoint) (table : Identifier) : Statement → Prop where
  | tableOfFile (file : endpoint.catalog = .masterTable) :
      endpoint.LooksUp table
        (.raw "SELECT name FROM sqlite_master WHERE type = 'table' AND name = ?"
          [.text table.name])
  | tableOnServer {database : String} (server : endpoint.catalog = .server database) :
      endpoint.LooksUp table (.raw serverTableQuery [.text database, .text table.name])
  | columnsOfFile (file : endpoint.catalog = .masterTable) :
      endpoint.LooksUp table (.raw ("PRAGMA table_info(" ++ table.quoted ++ ")") [])
  | columnsOnServer {database : String} (server : endpoint.catalog = .server database) :
      endpoint.LooksUp table (.raw ("SHOW COLUMNS FROM " ++ table.quoted) [])

namespace Gateway

/-- The selection by which the rows of a condition are read. -/
inductive Reads (gateway : Gateway) (condition ensureNotDeleted projection order limit : Value) :
    Statement → Prop where
  | select {clause : Clause} {selected : Projection}
      (compiled : gateway.clauseOf condition ensureNotDeleted order limit = .ok clause)
      (chosen : gateway.projectionOf projection = .ok selected) :
      gateway.Reads condition ensureNotDeleted projection order limit
        (.select selected gateway.table clause)

/-- The selection by which the rows of buckets are read. -/
inductive Queries (gateway : Gateway) (buckets order limit projection : Value) :
    Statement → Prop where
  | select {clause : Clause} {selected : Projection}
      (compiled : Prod.snd <$>
        Clause.ofValues gateway.endpoint.dialect.styleName buckets order limit = .ok clause)
      (chosen : gateway.projectionOf projection = .ok selected) :
      gateway.Queries buckets order limit projection (.select selected gateway.table clause)

/-- The statements by which a gateway looks: the selections of the projections that are asked for,
and what its handle looks up. -/
inductive Looks (gateway : Gateway) (asked : Value → Prop) : Statement → Prop where
  | select (clause : Clause) {projection : Value} {selected : Projection}
      (among : asked projection) (chosen : gateway.projectionOf projection = .ok selected) :
      gateway.Looks asked (.select selected gateway.table clause)
  | lookUp {statement : Statement} (found : gateway.endpoint.LooksUp gateway.table statement) :
      gateway.Looks asked statement

theorem Reads.looks {gateway : Gateway} {asked : Value → Prop}
    {condition ensureNotDeleted projection order limit : Value} {statement : Statement}
    (reads : gateway.Reads condition ensureNotDeleted projection order limit statement)
    (among : asked projection) : gateway.Looks asked statement := by
  cases reads with
  | select compiled chosen => exact .select _ among chosen

theorem Queries.looks {gateway : Gateway} {buckets order limit projection : Value}
    {statement : Statement} (queries : gateway.Queries buckets order limit projection statement) :
    gateway.Looks (· = projection) statement := by
  cases queries with
  | select compiled chosen => exact .select _ rfl chosen

/-! ### Reading -/

theorem selectRows_always (gateway : Gateway) (clause : Clause) (projection : Value) :
    (gateway.selectRows clause projection).Always
      (fun statement => ∃ selected, gateway.projectionOf projection = .ok selected ∧
        statement = .select selected gateway.table clause) fun _ => True := by
  refine Plan.Always.bind_check (Plan.silent_ofExcept _) fun selected chosen => ?_
  refine Plan.Always.bind_said (gateway.silent_announce _ _) ?_
  refine (Plan.always_ask _ ⟨selected, chosen, rfl⟩).bind fun reply _ => ?_
  split
  · exact (Plan.always_check (Plan.silent_ofExcept _)).anyway
  · trivial

theorem query_always (gateway : Gateway) (buckets order limit projection : Value) :
    (gateway.query buckets order limit projection).Always
      (gateway.Queries buckets order limit projection) fun _ => True := by
  refine Plan.Always.bind_check (gateway.silent_compile buckets order limit)
    fun clause compiled => ?_
  refine (gateway.selectRows_always clause projection).weaken ?_
  rintro statement ⟨selected, chosen, rfl⟩
  exact .select compiled chosen

/-- The clause of a condition is compiled before any row is selected. -/
theorem find_eq (gateway : Gateway) (condition ensureNotDeleted projection order limit : Value) :
    gateway.find condition ensureNotDeleted projection order limit =
      (gateway.bucketsOf condition ensureNotDeleted >>= fun buckets =>
        gateway.compile buckets.toValue order limit) >>= fun clause =>
          gateway.selectRows clause projection :=
  (bind_assoc _ _ _).symm

theorem find_always (gateway : Gateway)
    (condition ensureNotDeleted projection order limit : Value) :
    (gateway.find condition ensureNotDeleted projection order limit).Always
      (gateway.Reads condition ensureNotDeleted projection order limit) fun _ => True := by
  rw [find_eq]
  refine Plan.Always.bind_check
    (gateway.silent_compile_bucketsOf condition ensureNotDeleted order limit)
    fun clause compiled => ?_
  refine (gateway.selectRows_always clause projection).weaken ?_
  rintro statement ⟨selected, chosen, rfl⟩
  exact .select compiled chosen

theorem findOne_always (gateway : Gateway) (condition ensureNotDeleted projection order : Value) :
    (gateway.findOne condition ensureNotDeleted projection order).Always
      (gateway.Reads condition ensureNotDeleted projection order uniqueLimit) fun _ => True := by
  refine (gateway.find_always condition ensureNotDeleted projection order uniqueLimit).bind
    fun rows _ => ?_
  split
  · trivial
  · trivial
  · split
    · exact trivial
    · trivial

theorem count_always (gateway : Gateway) (condition ensureNotDeleted : Value) :
    (gateway.count condition ensureNotDeleted).Always
      (fun statement => ∃ projection, gateway.countProjection = .ok projection ∧
        gateway.Reads condition ensureNotDeleted projection .null uniqueLimit statement)
      fun _ => True := by
  refine Plan.Always.bind_check (Plan.silent_ofExcept _) fun projection counted => ?_
  have found : (gateway.findOne condition ensureNotDeleted projection .null).Always
      (fun statement => ∃ projection, gateway.countProjection = .ok projection ∧
        gateway.Reads condition ensureNotDeleted projection .null uniqueLimit statement)
      fun _ => True :=
    (gateway.findOne_always condition ensureNotDeleted projection .null).weaken
      fun statement reads => ⟨projection, counted, reads⟩
  refine found.bind fun row _ => ?_
  split
  · trivial
  · trivial
  · split
    · trivial
    · exact (Plan.always_check (Plan.silent_ofExcept _)).anyway

theorem getOrNotFound_always (gateway : Gateway)
    (condition ensureNotDeleted projection : Value) :
    (gateway.getOrNotFound condition ensureNotDeleted projection).Always
      (gateway.Reads condition ensureNotDeleted projection .null uniqueLimit) fun _ => True := by
  refine (gateway.findOne_always condition ensureNotDeleted projection .null).bind fun row _ => ?_
  split
  · trivial
  · trivial

theorem findOneByFields_always (gateway : Gateway) (keys values : Value) :
    (gateway.findOneByFields keys values).Always
      (fun statement => ∃ condition, pairedCondition keys values = .ok condition ∧
        gateway.Reads (.dict condition) (.bool true) everything .null uniqueLimit statement)
      fun _ => True := by
  refine Plan.Always.bind_check (Plan.silent_ofExcept _) fun condition paired => ?_
  exact (gateway.findOne_always _ _ _ _).weaken fun _ reads => ⟨condition, paired, reads⟩

/-! ### Looking up tables and columns -/

theorem exist_always (gateway : Gateway) :
    gateway.exist.Always (gateway.endpoint.LooksUp gateway.table) fun _ => True := by
  unfold exist Endpoint.tableExists
  split
  · trivial
  · rename_i file
    exact ⟨.tableOfFile file, fun _ => trivial⟩
  · rename_i database server
    exact ⟨.tableOnServer server, fun _ => trivial⟩

theorem showColumns_always (gateway : Gateway) :
    gateway.showColumns.Always (gateway.endpoint.LooksUp gateway.table) fun _ => True := by
  have named : Identifier.ofValue? (.text gateway.table.name) = .ok gateway.table :=
    Identifier.ofName?_name gateway.table
  unfold showColumns Endpoint.showColumns
  split
  · trivial
  · rename_i file
    rw [named]
    exact ⟨.columnsOfFile file, fun _ => trivial⟩
  · rename_i database server
    rw [named]
    exact ⟨.columnsOnServer server, fun _ => trivial⟩

theorem listColumns_always (gateway : Gateway) :
    gateway.listColumns.Always (gateway.endpoint.LooksUp gateway.table) fun _ => True := by
  unfold listColumns Endpoint.columnNames
  split
  · trivial
  · refine gateway.showColumns_always.bind fun rows _ => ?_
    exact (Plan.always_check (Plan.silent_ofExcept _)).anyway
  · refine gateway.showColumns_always.bind fun rows _ => ?_
    exact (Plan.always_check (Plan.silent_ofExcept _)).anyway

theorem ensureColumns_always (gateway : Gateway) (names : List Value) :
    (gateway.ensureColumns names).Always (gateway.endpoint.LooksUp gateway.table)
      fun _ => True := by
  refine gateway.listColumns_always.bind fun columns _ => ?_
  split
  · exact (Plan.always_check (Plan.silent_ofExcept _)).anyway
  · trivial

end Gateway

end TableGateway
