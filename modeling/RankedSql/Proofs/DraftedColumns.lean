import RankedSql.Proofs.MergedColumns
import RankedSql.Proofs.RegistryGrowth

/-!
# The columns of table definitions

The columns that a definition declares can be told from its calls and the registry alone
(`declarations`): each call but a foreign key declares what it says, and a foreign key declares a
column of the type that its reference finds, or nothing. A draft stages just these columns
(`TableDraft.stages_declarations`). A draft that is completed merges them into the recorded ones,
adds its hooks, is announced once and becomes the literal of the statement at hand; one that fails
leaves no trace (`Statement.createTableWith_all_or_nothing`).
-/

namespace RankedSql

/-! ## Declarations -/

/-- The facts that a reference finds while a table is defined: what was declared so far for the
table itself, and what is registered for any other. -/
def referencedFacts? (registry : Registry) (table : String)
    (declared : List (String × ColumnFacts)) (path : ColumnPath) : Option ColumnFacts :=
  if path.table = table then lastDeclared? declared path.column
  else registry.column? path.table path.column

/-- The columns that a call declares, behind those that were declared so far. -/
def ColumnCall.declares (registry : Registry) (table : String)
    (declared : List (String × ColumnFacts)) : ColumnCall → List (String × ColumnFacts)
  | .primaryKey name => [(name, .filledKey .integer)]
  | .uuid name => [(name, .filledKey .uuid)]
  | .timestamps => [("created_at", .filledTime), ("updated_at", .filledTime)]
  | .plain type name options => [(name, type.facts options)]
  | .foreignKey name reference options _ =>
      match (ColumnPath.ofText? reference).bind (referencedFacts? registry table declared) with
      | some facts => [(name, options.facts facts.type)]
      | none => []
  | .fail _ _ | .inspect => []

/-- The columns that the calls of a definition declare, in order and with repetition. -/
def declarations (registry : Registry) (table : String) (calls : List ColumnCall) :
    List (String × ColumnFacts) :=
  calls.foldl (fun declared call => declared ++ call.declares registry table declared) []

namespace TableDraft

/-- A draft of a table that has staged some declarations. -/
structure Stages (draft : TableDraft) (table : String) (declared : List (String × ColumnFacts)) :
    Prop where
  table_eq : draft.table = table
  columns_eq : draft.columns = Columns.empty.insertAll declared

variable {registry : Registry} {draft next final : TableDraft} {table : String}
  {declared : List (String × ColumnFacts)}

theorem resolve_eq_ok_iff {reference : String} {path : ColumnPath} {facts : ColumnFacts} :
    draft.resolve registry reference = .ok (path, facts) ↔
      ColumnPath.ofText? reference = some path ∧
        (draft.columnsOf? registry path.table).bind (·.get? path.column) = some facts := by
  unfold resolve
  split
  · simp_all
  · next found read =>
      split
      · next unknown =>
          simp only [reduceCtorEq, false_iff, not_and, read, Option.some.injEq]
          rintro rfl
          simp [unknown]
      · next columns known =>
          split
          · next absent =>
              simp only [reduceCtorEq, false_iff, not_and, read, Option.some.injEq]
              rintro rfl
              simp [known, absent]
          · next columnFacts recorded =>
              constructor
              · intro resolved
                rcases Prod.mk.inj (Except.ok.inj resolved) with ⟨rfl, rfl⟩
                simp [read, known, recorded]
              · rintro ⟨same, found⟩
                rcases Option.some.inj (read.symm.trans same) with rfl
                simp [known, recorded] at found
                simp [found]

theorem Stages.referenced (stages : draft.Stages table declared) (path : ColumnPath) :
    (draft.columnsOf? registry path.table).bind (·.get? path.column) =
      referencedFacts? registry table declared path := by
  rw [columnsOf?, referencedFacts?, stages.table_eq]
  split
  · rw [Option.bind_some, stages.columns_eq, Columns.get?_insertAll]
    exact Option.or_none
  · rfl

/-- A reference is resolved exactly if it is a path that finds some facts. -/
theorem Stages.resolve_eq_ok_iff (stages : draft.Stages table declared) {reference : String}
    {path : ColumnPath} {facts : ColumnFacts} :
    draft.resolve registry reference = .ok (path, facts) ↔
      ColumnPath.ofText? reference = some path ∧
        referencedFacts? registry table declared path = some facts := by
  rw [TableDraft.resolve_eq_ok_iff, stages.referenced]

theorem Stages.step {call : ColumnCall} (stages : draft.Stages table declared)
    (step : draft.Step registry call next) :
    next.Stages table (declared ++ call.declares registry table declared) := by
  refine ⟨step.table_eq.trans stages.table_eq, ?_⟩
  rw [Columns.insertAll_append, ← stages.columns_eq]
  cases step with
  | primaryKey | uuid | timestamps | plain | inspect => rfl
  | foreignKey name options lenient resolved =>
      rcases stages.resolve_eq_ok_iff.1 resolved with ⟨read, found⟩
      simp only [ColumnCall.declares, read, Option.bind_some, found]
      rfl
  | @tolerated name reference options error refused =>
      -- A reference that finds facts is not refused, so nothing is declared here.
      cases target : (ColumnPath.ofText? reference).bind
          (referencedFacts? registry table declared) with
      | none =>
          rw [ColumnCall.declares, target]
          rfl
      | some facts =>
          rcases Option.bind_eq_some_iff.1 target with ⟨path, read, found⟩
          rw [stages.resolve_eq_ok_iff.2 ⟨read, found⟩] at refused
          cases refused

theorem stages_empty (table : String) : (TableDraft.empty table).Stages table [] := ⟨rfl, rfl⟩

/-- A draft stages what its calls declare. -/
theorem Stages.performAll (stages : draft.Stages table declared) {calls : List ColumnCall}
    {notices : List Notice} (performed : draft.performAll registry calls = (.ok final, notices)) :
    final.Stages table (calls.foldl
      (fun declared call => declared ++ call.declares registry table declared) declared) := by
  induction calls generalizing draft declared notices with
  | nil =>
      rcases Prod.mk.inj performed with ⟨same, _⟩
      exact Except.ok.inj same ▸ stages
  | cons call rest ih =>
      rcases exists_of_performAll_cons performed with ⟨next, _, _, stepped, completed⟩
      exact ih (stages.step (step_of_perform stepped)) completed

theorem stages_declarations {calls : List ColumnCall} {notices : List Notice}
    (performed : (TableDraft.empty table).performAll registry calls = (.ok final, notices)) :
    final.Stages table (declarations registry table calls) :=
  (stages_empty table).performAll performed

end TableDraft

/-! ## Commitment -/

namespace Registry

theorem table?_registerColumns {registry : Registry} {table : String} {columns : Columns}
    (known : registry.table? table = some columns) (entries : List (String × ColumnFacts))
    (other : String) :
    (registry.registerColumns table entries).table? other =
      if other = table then some (columns.insertAll entries) else registry.table? other := by
  induction entries generalizing registry columns with
  | nil =>
      split
      · next same => exact same ▸ known
      · rfl
  | cons entry rest ih =>
      have recorded : (registry.registerColumn table entry.1 entry.2).table? table =
          some (columns.insert entry.1 entry.2) := by
        simp [table?_registerColumn, known]
      refine (ih recorded).trans ?_
      by_cases same : other = table
      · simp [same, Columns.insertAll]
      · simp [same, table?_registerColumn]

/-- A table that is defined with some columns has them recorded, and no other table changes. -/
theorem table?_registerColumns_defineTable (registry : Registry) (table : String)
    (entries : List (String × ColumnFacts)) (other : String) :
    ((registry.defineTable table).registerColumns table entries).table? other =
      if other = table then some (((registry.table? table).getD .empty).insertAll entries)
      else registry.table? other := by
  have defined : (registry.defineTable table).table? table =
      some ((registry.table? table).getD .empty) := by
    simp [table?_defineTable]
  rw [table?_registerColumns defined]
  by_cases same : other = table
  · simp [same]
  · simp [same, table?_defineTable]

theorem table?_commit (registry : Registry) (draft : TableDraft) (other : String) :
    (registry.commit draft).table? other =
      if other = draft.table then
        some (((registry.table? draft.table).getD .empty).insertAll draft.columns.entries)
      else registry.table? other := by
  rw [table?, commit, tables_foldl_registerHook, ← table?, table?_registerColumns_defineTable]

/-- A completed draft merges what its calls declare into the columns that are recorded. -/
theorem table?_commit_of_performed {registry : Registry} {draft : TableDraft} {table : String}
    {calls : List ColumnCall} {notices : List Notice}
    (performed : (TableDraft.empty table).performAll registry calls = (.ok draft, notices))
    (distinct : ((registry.table? table).getD .empty).names.Nodup) (other : String) :
    (registry.commit draft).table? other =
      if other = table then
        some (((registry.table? table).getD .empty).merged (declarations registry table calls))
      else registry.table? other := by
  have stages := TableDraft.stages_declarations performed
  rw [table?_commit, stages.table_eq, stages.columns_eq, Columns.insertAll_insertAll distinct,
    Columns.insertAll_eq_merged distinct]

theorem observer_commit (registry : Registry) (draft : TableDraft) :
    (registry.commit draft).observer = registry.observer := by
  have columns (registry : Registry) (entries : List (String × ColumnFacts)) :
      (registry.registerColumns draft.table entries).observer = registry.observer := by
    induction entries generalizing registry with
    | nil => rfl
    | cons entry rest ih => exact ih (registry.registerColumn draft.table entry.1 entry.2)
  have hooks (registry : Registry) (entries : List (Phase × Hook)) :
      (entries.foldl (fun registry entry => registry.registerHook entry.1 draft.table entry.2)
        registry).observer = registry.observer := by
    induction entries generalizing registry with
    | nil => rfl
    | cons entry rest ih => exact ih (registry.registerHook entry.1 draft.table entry.2)
  rw [commit, hooks, columns]
  rfl

end Registry

/-- The announcement of a table to an observer, if there is one. -/
def announcement (observer : Option String) (table : String) (columns : Columns) : List Notice :=
  observer.toList.map fun label => .tableDefined label table columns

theorem Registry.announce_eq {registry : Registry} {table : String} {columns : Columns}
    (known : registry.table? table = some columns) :
    registry.announce table = announcement registry.observer table columns := by
  rw [announce, known]
  cases registry.observer <;> rfl

namespace Statement

/-- A definition through a draft commits all or nothing, over any registry that a run can leave and
for any statement at hand. If a call fails, nothing is changed and no observer is called. If none
does, the declared columns are merged into the recorded ones, no other table changes, the hooks come
behind those of the table in the order in which they were asked for, the observer is called once,
with the merged columns, and the statement that creates the table becomes the literal. -/
theorem createTableWith_all_or_nothing (steps : List RegistryStep) (statement : Statement)
    (table : String) (calls : List ColumnCall) :
    let registry := Registry.empty.afterSteps steps
    let performed := ((TableDraft.empty table).performAll registry calls).1
    let definition := statement.createTableWith registry table calls
    let announced := definition.notices.filter Notice.isAnnouncement
    (∀ error, performed = .error error →
      definition.failure = some error ∧ definition.registry = registry ∧
        definition.statement = statement ∧ announced = []) ∧
    (∀ final, performed = .ok final →
      let recorded := (registry.table? table).getD .empty
      let columns := recorded.merged (declarations registry table calls)
      definition.failure = none ∧
        (∀ other, definition.registry.table? other =
          if other = table then some columns else registry.table? other) ∧
        (∀ phase key, definition.registry.hooksFor phase key =
          registry.hooksFor phase key ++ if table = key then askedHooks phase calls else []) ∧
        announced = announcement registry.observer table columns ∧
        definition.statement = { statement with literal := some final.sql }) := by
  intro registry performed definition announced
  have silent (notice : Notice)
      (member : notice ∈ ((TableDraft.empty table).performAll registry calls).2) :
      ¬notice.isAnnouncement = true := by
    simp [(TableDraft.empty table).silent_performAll registry calls notice member]
  cases run : (TableDraft.empty table).performAll registry calls with
  | mk result notices =>
      rw [run] at silent
      rw [show performed = result from congrArg Prod.fst run]
      cases result with
      | error found =>
          have definition_eq : definition = ⟨registry, statement, some found, notices⟩ :=
            statement.createTableWith_of_error run
          refine ⟨?_, fun final same => nomatch same⟩
          rintro error same
          rcases Except.error.inj same with rfl
          simp only [announced, definition_eq, true_and]
          exact List.filter_eq_nil_iff.2 silent
      | ok draft =>
          have definition_eq : definition = ⟨registry.commit draft, statement.withLiteral draft.sql,
              none, notices ++ (registry.commit draft).announce table⟩ :=
            statement.createTableWith_of_ok run
          refine ⟨fun error same => (nomatch same), ?_⟩
          rintro final same
          rcases Except.ok.inj same with rfl
          intro recorded columns
          have distinct : recorded.names.Nodup :=
            Registry.property_getD_lookup List.nodup_nil
              (Registry.distinct_afterSteps (Registry.allColumns_empty _)) table
          have tables := Registry.table?_commit_of_performed run distinct
          have announce_eq : (registry.commit draft).announce table =
              announcement registry.observer table columns := by
            rw [Registry.announce_eq ((tables table).trans (if_pos rfl)),
              Registry.observer_commit]
          simp only [announced, definition_eq, true_and]
          refine ⟨tables, Registry.hooksFor_commit run, ?_, rfl⟩
          rw [List.filter_append, List.filter_eq_nil_iff.2 silent, announce_eq]
          simp [announcement, Notice.isAnnouncement]

/-- A table with two columns is defined again: a reference to an unknown table is tolerated, one of
its columns gets new facts, and one is added, with its hook. A last call that gives up takes all of
it back. -/
theorem createTableWith_all_or_nothing_of_redefinition :
    let steps : List RegistryStep :=
      [.define (.draft "notes" [.uuid "id", .plain .integer "size" {}]), .change (.observe "log")]
    let registry := Registry.empty.afterSteps steps
    let statement := Statement.empty.push (.ofClause (.limit 1))
    let calls := [ColumnCall.foreignKey "author" "users.id" {} true, .plain .text "size" {},
      .uuid "key"]
    let defined := statement.createTableWith registry "notes" calls
    let failed := statement.createTableWith registry "notes" (calls ++ [.fail "users.id" "not yet"])
    let columns : Columns := ⟨[("id", .filledKey .uuid), ("size", PlainType.text.facts {}),
      ("key", .filledKey .uuid)]⟩
    (failed.failure = some (.badReference "users.id" (.stated "not yet")) ∧
      failed.registry = registry ∧ failed.statement = statement ∧
      failed.notices.filter Notice.isAnnouncement = []) ∧
    defined.failure = none ∧ defined.registry.table? "notes" = some columns ∧
      defined.registry.hooksFor .beforeInsert "notes" =
        [.generatedIdentifier "id", .generatedIdentifier "key"] ∧
      defined.notices.filter Notice.isAnnouncement = [.tableDefined "log" "notes" columns] ∧
      defined.statement.parts = statement.parts ∧
      defined.statement.literal = some ("CREATE TABLE notes (key UUID PRIMARY KEY, " ++
        "size TEXT NOT NULL)") := by
  intro steps registry statement calls defined failed columns
  rcases createTableWith_all_or_nothing steps statement "notes"
    (calls ++ [.fail "users.id" "not yet"]) with ⟨nothing, _⟩
  rcases createTableWith_all_or_nothing steps statement "notes" calls with ⟨_, all⟩
  rcases all _ rfl with ⟨completed, tables, hooks, announced, written⟩
  refine ⟨nothing _ rfl, completed, (tables "notes").trans (by decide +kernel),
    (hooks .beforeInsert "notes").trans rfl, announced.trans (by decide +kernel), ?_, ?_⟩
  · rw [written]
  · rw [written]
    decide +kernel

end Statement

end RankedSql
