import RankedSql.Proofs.ForeignKeys
import RankedSql.Proofs.TidyColumns

/-!
# The layout of a drafted table

A draft puts each key in front of what it holds and everything else behind it, and its statement
writes references last. So the statement of a completed draft has the keys first, the last one in
front, then the other columns, and then the references (`layout`), whatever the order of the calls.
The layout depends on the calls of each kind alone, and on the types that references find
(`layout_eq_of_sameByKind`). If all names are solid words then spacing keeps the statement as it was
put together, so it is the layout (`Statement.createTableWith_writes_layout`).
-/

namespace RankedSql

/-! ## Kinds of columns -/

/-- The rank at which a draft places columns of a kind. -/
def ColumnKind.rank : ColumnKind → Rank
  | .key | .ordinary => .target
  | .reference => .filter

/-- The kind of the columns that a call declares, for calls that declare any. -/
def ColumnCall.kind? : ColumnCall → Option ColumnKind
  | .primaryKey _ | .uuid _ => some .key
  | .timestamps | .plain _ _ _ => some .ordinary
  | .foreignKey _ _ _ _ => some .reference
  | .fail _ _ | .inspect => none

/-- The order in which a statement writes columns: the keys, the one declared last in front, then
the ordinary columns, then the references. -/
def layout (columns : List DeclaredColumn) : List DeclaredColumn :=
  (columnsOf .key columns).reverse ++ columnsOf .ordinary columns ++ columnsOf .reference columns

/-- No column is lost in the layout, and none is written twice. -/
theorem perm_layout (columns : List DeclaredColumn) : (layout columns).Perm columns := by
  induction columns with
  | nil => exact .refl _
  | cons column rest ih =>
      refine List.Perm.trans ?_ (ih.cons column)
      cases kind : column.kind with
      | key | ordinary => simp [layout, columnsOf, kind]
      | reference =>
          simp only [layout, columnsOf, List.filter_cons, kind]
          exact List.perm_middle

theorem DeclaredColumn.rank_part (column : DeclaredColumn) :
    column.part.rank = column.kind.rank := by
  cases column <;> rfl

theorem partsAt_map_part (rank : Rank) (columns : List DeclaredColumn) :
    partsAt rank (columns.map DeclaredColumn.part) =
      (columns.filter (·.kind.rank == rank)).map DeclaredColumn.part := by
  simp only [partsAt, List.filter_map, Function.comp_def, DeclaredColumn.rank_part]

/-- Of the columns that a draft holds at a rank, the keys come first. -/
theorem filter_placed (keep : ColumnKind → Bool) (columns : List DeclaredColumn) :
    (placed columns).filter (fun column => keep column.kind) =
      (if keep .key then (columnsOf .key columns).reverse else []) ++
        columns.filter fun column => keep column.kind && column.kind != .key := by
  have keys : (columnsOf .key columns).filter (fun column => keep column.kind) =
      if keep .key then columnsOf .key columns else [] := by
    have kind_eq : ∀ column ∈ columnsOf .key columns, keep column.kind = keep .key := by
      intro column member
      have kind : column.kind = .key := by simpa using (List.mem_filter.1 member).2
      rw [kind]
    rw [List.filter_congr kind_eq]
    split <;> simp [*]
  rw [placed, List.filter_append, List.filter_reverse, keys, List.filter_filter]
  split <;> rfl

/-- Sorted by rank, the columns that a draft holds are laid out. -/
theorem sortByRank_placed (columns : List DeclaredColumn) :
    sortByRank ((placed columns).map DeclaredColumn.part) =
      (layout columns).map DeclaredColumn.part := by
  have ordinary :
      columns.filter (fun column => column.kind.rank == .target && column.kind != .key) =
        columnsOf .ordinary columns :=
    List.filter_congr fun column _ => by cases column.kind <;> rfl
  have references :
      columns.filter (fun column => column.kind.rank == .filter && column.kind != .key) =
        columnsOf .reference columns :=
    List.filter_congr fun column _ => by cases column.kind <;> rfl
  have unused (rank : Rank) (notTarget : rank ≠ .target) (notFilter : rank ≠ .filter) :
      partsAt rank ((placed columns).map DeclaredColumn.part) = [] := by
    rw [partsAt_map_part, List.map_eq_nil_iff, List.filter_eq_nil_iff]
    intro column _ same
    rw [beq_iff_eq] at same
    cases kind : column.kind <;> simp_all [ColumnKind.rank]
  have targets := filter_placed (fun kind => kind.rank == .target) columns
  have filters := filter_placed (fun kind => kind.rank == .filter) columns
  rw [sortByRank_eq_flatMap]
  simp only [Rank.all, List.flatMap_cons, List.flatMap_nil]
  rw [unused .projection (by decide) (by decide), unused .ordering (by decide) (by decide),
    partsAt_map_part, partsAt_map_part, targets, filters, ordinary, references]
  simp [layout, ColumnKind.rank]

/-! ## Calls and the types they refer to -/

section Calls

variable (registry : Registry) (table : String)

/-- The type of the column that a reference finds, for calls with a reference that finds one. -/
def ColumnCall.referencedType? (declared : List (String × ColumnFacts)) :
    ColumnCall → Option ColumnType
  | .foreignKey _ reference _ _ =>
      ((ColumnPath.ofText? reference).bind (referencedFacts? registry table declared)).map (·.type)
  | _ => none

/-- The columns that a call declares if its reference finds a type, or if it finds none. -/
def ColumnCall.columnsTyped (type? : Option ColumnType) (call : ColumnCall) : List DeclaredColumn :=
  match call with
  | .foreignKey name reference options _ =>
      ((ColumnPath.ofText? reference).bind fun path =>
        type?.map fun type => .reference name path type options).toList
  | other => other.columns .empty "" []

/-- Calls with the types that their references find, behind the columns declared so far. -/
def typedCallsFrom : List DeclaredColumn → List ColumnCall → List (ColumnCall × Option ColumnType)
  | _, [] => []
  | columns, call :: rest =>
      (call, call.referencedType? registry table (columns.map DeclaredColumn.entry)) ::
        typedCallsFrom (columns ++ call.columns registry table (columns.map DeclaredColumn.entry))
          rest

/-- The calls of a definition with the types that their references find. -/
def typedCalls (calls : List ColumnCall) : List (ColumnCall × Option ColumnType) :=
  typedCallsFrom registry table [] calls

/-- The calls that declare columns of a kind. -/
def typedCallsOf (kind : ColumnKind) (calls : List (ColumnCall × Option ColumnType)) :
    List (ColumnCall × Option ColumnType) :=
  calls.filter (·.1.kind? == some kind)

/-- Calls that are the same within each kind, with the same types that their references find. How
the calls of one kind stand among those of another is left open. -/
def SameByKind (left right : List (ColumnCall × Option ColumnType)) : Prop :=
  ∀ kind, typedCallsOf kind left = typedCallsOf kind right

theorem ColumnCall.columns_eq_columnsTyped (declared : List (String × ColumnFacts))
    (call : ColumnCall) :
    call.columns registry table declared =
      call.columnsTyped (call.referencedType? registry table declared) := by
  cases call with
  | foreignKey name reference options lenient =>
      simp only [columns, columnsTyped, referencedType?]
      cases ColumnPath.ofText? reference with
      | none => rfl
      | some path => simp only [Option.bind_some, Option.map_map, Function.comp_def]
  | _ => rfl

theorem declaredColumns_eq_flatMap (calls : List ColumnCall) :
    declaredColumns registry table calls =
      (typedCalls registry table calls).flatMap fun typed => typed.1.columnsTyped typed.2 := by
  have behind (columns : List DeclaredColumn) :
      (calls.foldl (fun columns call =>
        columns ++ call.columns registry table (columns.map DeclaredColumn.entry)) columns) =
        columns ++ (typedCallsFrom registry table columns calls).flatMap
          fun typed => typed.1.columnsTyped typed.2 := by
    induction calls generalizing columns with
    | nil => exact (List.append_nil _).symm
    | cons call rest ih =>
        rw [List.foldl_cons, ih, List.append_assoc, typedCallsFrom, List.flatMap_cons,
          ← ColumnCall.columns_eq_columnsTyped]
  exact behind []

theorem map_fst_typedCalls (calls : List ColumnCall) :
    (typedCalls registry table calls).map Prod.fst = calls := by
  have behind (columns : List DeclaredColumn) :
      (typedCallsFrom registry table columns calls).map Prod.fst = calls := by
    induction calls generalizing columns with
    | nil => rfl
    | cons call rest ih => rw [typedCallsFrom, List.map_cons, ih]
  exact behind []

end Calls

/-- All columns that a call declares are of its kind. -/
theorem ColumnCall.kind?_eq_of_mem {call : ColumnCall} {type? : Option ColumnType}
    {column : DeclaredColumn} (member : column ∈ call.columnsTyped type?) :
    call.kind? = some column.kind := by
  cases call with
  | primaryKey name | uuid name | plain type name options =>
      rcases List.mem_singleton.1 member with rfl
      rfl
  | timestamps =>
      rcases List.mem_pair.1 member with rfl | rfl <;> rfl
  | foreignKey name reference options lenient =>
      rcases Option.bind_eq_some_iff.1 (Option.mem_toList.1 member) with ⟨path, _, found⟩
      rcases Option.map_eq_some_iff.1 found with ⟨type, _, rfl⟩
      rfl
  | fail | inspect => cases member

theorem columnsOf_flatMap (kind : ColumnKind) (calls : List (ColumnCall × Option ColumnType)) :
    columnsOf kind (calls.flatMap fun typed => typed.1.columnsTyped typed.2) =
      (typedCallsOf kind calls).flatMap fun typed => typed.1.columnsTyped typed.2 := by
  induction calls with
  | nil => rfl
  | cons typed rest ih =>
      rw [List.flatMap_cons, columnsOf, List.filter_append, ← columnsOf, ← columnsOf, ih]
      by_cases ofKind : typed.1.kind? = some kind
      · have kept : columnsOf kind (typed.1.columnsTyped typed.2) =
            typed.1.columnsTyped typed.2 := by
          refine List.filter_eq_self.2 fun column member => ?_
          rw [ColumnCall.kind?_eq_of_mem member, Option.some.injEq] at ofKind
          rw [beq_iff_eq, ofKind]
        rw [kept, typedCallsOf, typedCallsOf, List.filter_cons_of_pos (by simpa using ofKind),
          List.flatMap_cons]
      · have dropped : columnsOf kind (typed.1.columnsTyped typed.2) = [] := by
          refine List.filter_eq_nil_iff.2 fun column member same => ofKind ?_
          rw [ColumnCall.kind?_eq_of_mem member, beq_iff_eq.1 same]
        rw [dropped, typedCallsOf, typedCallsOf, List.filter_cons_of_neg (by simpa using ofKind),
          List.nil_append]

/-- The layout depends on the calls of each kind alone, with the types that references find. -/
theorem layout_eq_of_sameByKind {left right : Registry} {table : String}
    {callsLeft callsRight : List ColumnCall}
    (same : SameByKind (typedCalls left table callsLeft) (typedCalls right table callsRight)) :
    layout (declaredColumns left table callsLeft) =
      layout (declaredColumns right table callsRight) := by
  have columns (kind : ColumnKind) : columnsOf kind (declaredColumns left table callsLeft) =
      columnsOf kind (declaredColumns right table callsRight) := by
    rw [declaredColumns_eq_flatMap, declaredColumns_eq_flatMap, columnsOf_flatMap,
      columnsOf_flatMap, same kind]
  rw [layout, layout, columns, columns, columns]

/-! ## Drafts -/

/-- The columns that a draft stages are the ones that its calls declare. -/
theorem TableDraft.Stages.mem_names_iff {draft : TableDraft} {table : String}
    {declared : List (String × ColumnFacts)} (stages : draft.Stages table declared)
    {name : String} : name ∈ draft.columns.names ↔ name ∈ declared.map Prod.fst := by
  rw [stages.columns_eq, ← Columns.isSome_get?_iff, Columns.get?_insertAll, Columns.get?_empty,
    Option.or_none, isSome_lastDeclared?_iff]

namespace TableDraft

variable {draft : TableDraft} {table : String} {columns : List DeclaredColumn}

theorem Places.definitions_eq (places : draft.Places table columns) :
    draft.definitions = (layout columns).map fun column => column.part.text := by
  rw [definitions, places.parts_eq, sortByRank_placed, List.map_map]
  refine List.filter_eq_self.2 fun text member => ?_
  rcases List.mem_map.1 member with ⟨column, _, rfl⟩
  exact bne_iff_ne.2 column.text_part_ne_empty

/-- The statement of a draft of solid words, which spacing leaves as it was put together. -/
theorem Places.sql_eq (places : draft.Places table columns) (solidTable : Text.Solid table)
    (solidWords : ∀ column ∈ columns, column.WordsSolid) :
    draft.sql = "CREATE TABLE " ++ table ++ " (" ++
      Text.joinWith ", " ((layout columns).map fun column => column.part.text) ++ ")" := by
  have trim : ∀ text ∈ (layout columns).map (fun column => column.part.text), Text.Trim text := by
    intro text member
    rcases List.mem_map.1 member with ⟨column, laidOut, rfl⟩
    exact column.trim_part (solidWords column ((perm_layout columns).mem_iff.1 laidOut))
  have opened : Text.Tidy ("CREATE TABLE " ++ table ++ " (") :=
    (solidTable.trim.tidy_behind (by decide)).append (by decide)
  have whole := (opened.append (Text.tidy_joinWith trim)).append (by decide : Text.Tidy ")")
  rw [← String.toList_inj, toList_sql, places.stages.table_eq, places.definitions_eq]
  exact whole.spaced_eq

end TableDraft

/-! ## Statements -/

namespace Statement

theorem render_createTableWith {registry : Registry} {table : String} {calls : List ColumnCall}
    {draft : TableDraft} {notices : List Notice}
    (performed : (TableDraft.empty table).performAll registry calls = (.ok draft, notices))
    (statement : Statement) :
    (statement.createTableWith registry table calls).statement.render = draft.sql := by
  rw [createTableWith_of_ok performed]
  rfl

/-- A definition of solid words that succeeds writes the columns that were declared, no more and no
fewer: the keys first, the last one in front, then the ordinary columns, and last the references
that found their columns, each with its constraint. The names that it writes are the names that it
stages and makes known. Any other definition of the table that succeeds with the same calls of each
kind and the same types of references writes the same statement. -/
theorem createTableWith_writes_layout {registry : Registry} {table : String}
    {calls : List ColumnCall} {statement : Statement}
    (completed : (statement.createTableWith registry table calls).failure = none)
    (solidTable : Text.Solid table)
    (solidWords : ∀ column ∈ declaredColumns registry table calls, column.WordsSolid) :
    let definition := statement.createTableWith registry table calls
    let columns := declaredColumns registry table calls
    definition.statement.render = "CREATE TABLE " ++ table ++ " (" ++
        Text.joinWith ", " ((layout columns).map fun column => column.part.text) ++ ")" ∧
      (layout columns).Perm columns ∧
      (∃ draft notices, (TableDraft.empty table).performAll registry calls = (.ok draft, notices) ∧
        definition.registry = registry.commit draft ∧
        ∀ name, name ∈ (layout columns).map DeclaredColumn.name ↔ name ∈ draft.columns.names) ∧
      (∀ name, (definition.registry.column? table name).isSome ↔
        (registry.column? table name).isSome ∨
          name ∈ (layout columns).map DeclaredColumn.name) ∧
      ∀ (otherRegistry : Registry) (otherCalls : List ColumnCall) (otherStatement : Statement),
        (otherStatement.createTableWith otherRegistry table otherCalls).failure = none →
        SameByKind (typedCalls registry table calls) (typedCalls otherRegistry table otherCalls) →
        (otherStatement.createTableWith otherRegistry table otherCalls).statement.render =
          definition.statement.render := by
  intro definition columns
  rcases exists_of_completed completed with ⟨draft, notices, performed⟩
  have places := TableDraft.places_declaredColumns performed
  have rendered : definition.statement.render = draft.sql :=
    render_createTableWith performed statement
  have committed : definition.registry = registry.commit draft := by
    simp only [definition, createTableWith_of_ok performed]
  have names (name : String) :
      name ∈ (layout columns).map DeclaredColumn.name ↔ name ∈ draft.columns.names := by
    rw [places.stages.mem_names_iff, ((perm_layout columns).map _).mem_iff, List.map_map]
    rfl
  refine ⟨rendered.trans (places.sql_eq solidTable solidWords), perm_layout columns,
    ⟨draft, notices, performed, committed, names⟩, fun name => ?_, ?_⟩
  · rw [committed, names, ← places.stages.table_eq, Registry.isSome_column?_commit_iff]
  · intro otherRegistry otherCalls otherStatement otherCompleted same
    rcases exists_of_completed otherCompleted with ⟨other, otherNotices, otherPerformed⟩
    have otherPlaces := TableDraft.places_declaredColumns otherPerformed
    have sameDefinitions : other.definitions = draft.definitions := by
      rw [places.definitions_eq, otherPlaces.definitions_eq, layout_eq_of_sameByKind same]
    rw [rendered, render_createTableWith otherPerformed, TableDraft.sql, TableDraft.sql,
      sameDefinitions, places.stages.table_eq, otherPlaces.stages.table_eq]

theorem createTableWith_writes_layout_of_posts :
    let registry := (Statement.empty.createTableWith .empty "users" [.id]).registry
    let title := ColumnCall.plain .text "title" { default := some (.text "draft") }
    let author := ColumnCall.foreignKey "author" "users.id" { onDelete := some .cascade } false
    let ghost := ColumnCall.foreignKey "ghost" "nobody.id" {} true
    let parent := ColumnCall.foreignKey "parent" "posts.id" { nullable := true } true
    let calls := [title, author, .id, ghost, .timestamps, .uuid "code", parent]
    let defined := Statement.empty.createTableWith registry "posts" calls
    let moved := Statement.empty.createTableWith registry "posts"
      [.id, author, ghost, parent, .uuid "code", title, .timestamps]
    defined.failure = none ∧ moved.failure = none ∧
      defined.statement.render = "CREATE TABLE posts (code UUID PRIMARY KEY, " ++
        "id INTEGER PRIMARY KEY AUTOINCREMENT, title TEXT DEFAULT 'draft' NOT NULL, " ++
        "created_at TIMESTAMP DEFAULT CURRENT_TIMESTAMP NOT NULL, " ++
        "updated_at TIMESTAMP DEFAULT CURRENT_TIMESTAMP NOT NULL, " ++
        "author INTEGER, FOREIGN KEY (author) REFERENCES users(id) ON DELETE CASCADE, " ++
        "parent INTEGER, FOREIGN KEY (parent) REFERENCES posts(id))" ∧
      moved.statement.render = defined.statement.render ∧
      (defined.registry.column? "posts" "parent").isSome ∧
      ¬(defined.registry.column? "posts" "ghost").isSome := by
  intro registry title author ghost parent calls defined moved
  have completed : defined.failure = none := by decide +kernel
  have movedCompleted : moved.failure = none := by decide +kernel
  have solidWords : ∀ column ∈ declaredColumns registry "posts" calls, column.WordsSolid := by
    decide +kernel
  have same : SameByKind (typedCalls registry "posts" calls) (typedCalls registry "posts"
      [.id, author, ghost, parent, .uuid "code", title, .timestamps]) := by
    intro kind
    cases kind <;> rfl
  rcases createTableWith_writes_layout completed (by decide) solidWords with
    ⟨rendered, _, _, known, rearranged⟩
  refine ⟨completed, movedCompleted, rendered.trans (by decide +kernel),
    rearranged registry _ .empty movedCompleted same, (known "parent").2 ?_, ?_⟩
  · exact .inr (by decide +kernel)
  · rw [known]
    decide +kernel

end Statement

end RankedSql
