import RankedSql.Proofs.DraftSteps
import RankedSql.Proofs.Submission

/-!
# What a table definition leaves behind

A table is defined from declarations or through a draft. A draft that fails leaves nothing behind,
and nobody is told of it. Any other definition makes its table known and announces it when its
statement is composed. Only then does the guard look at the statement, so a handle keeps a
definition that the guard refuses (`database_step`, `trace_of_refused_definition`).
-/

namespace RankedSql

/-- A call that defines a table. -/
inductive TableCall where
  | declare (table : String) (columns : List (String × String))
  | draft (table : String) (calls : List ColumnCall)

namespace TableCall

/-- The table that a call defines. -/
def table : TableCall → String
  | .declare table _ | .draft table _ => table

/-- What the call makes of a registry, with its statement composed on its own. -/
def define (call : TableCall) (registry : Registry) : Definition :=
  match call with
  | .declare table columns => Statement.empty.createTable registry table columns
  | .draft table calls => Statement.empty.createTableWith registry table calls

/-- The call as a step on a handle. -/
def step : TableCall → DatabaseStep
  | .declare table columns => .createTable table columns
  | .draft table calls => .createTableWith table calls

end TableCall

/-- Whether a notice tells the observer of a definition. -/
def Notice.isAnnouncement : Notice → Bool
  | .tableDefined _ _ _ => true
  | _ => false

/-! ## Failed drafts -/

/-- A step of a draft announces nothing. -/
theorem TableDraft.silent_perform {registry : Registry} {draft next : TableDraft}
    {call : ColumnCall} {notices : List Notice}
    (performed : draft.perform registry call = .ok (next, notices)) :
    ∀ notice ∈ notices, notice.isAnnouncement = false := by
  cases call with
  | foreignKey name reference options lenient =>
      simp only [perform] at performed
      split at performed
      · rcases Prod.mk.inj (Except.ok.inj performed) with ⟨_, rfl⟩
        exact List.forall_mem_nil _
      · split at performed
        · rcases Prod.mk.inj (Except.ok.inj performed) with ⟨_, rfl⟩
          exact List.forall_mem_singleton.2 rfl
        · cases performed
  | fail reference reason => cases performed
  | inspect =>
      rcases Prod.mk.inj (Except.ok.inj performed) with ⟨_, rfl⟩
      exact List.forall_mem_singleton.2 rfl
  | _ =>
      rcases Prod.mk.inj (Except.ok.inj performed) with ⟨_, rfl⟩
      exact List.forall_mem_nil _

theorem TableDraft.silent_performAll (registry : Registry) (draft : TableDraft)
    (calls : List ColumnCall) :
    ∀ notice ∈ (draft.performAll registry calls).2, notice.isAnnouncement = false := by
  induction calls generalizing draft with
  | nil => exact List.forall_mem_nil _
  | cons call rest ih =>
      simp only [performAll]
      split
      · exact List.forall_mem_nil _
      · next next notices performed =>
          exact List.forall_mem_append.2 ⟨silent_perform performed, ih next⟩

/-! ## Completed definitions -/

namespace Registry

theorem hasTable_registerColumns {registry : Registry} {table : String}
    (known : registry.hasTable table = true) (other : String)
    (entries : List (String × ColumnFacts)) :
    (registry.registerColumns other entries).hasTable table = true := by
  induction entries generalizing registry with
  | nil => exact known
  | cons entry rest ih =>
      refine ih ?_
      rw [hasTable, table?_registerColumn]
      split
      · rfl
      · exact known

theorem hasTable_defineTable (registry : Registry) (table : String) :
    (registry.defineTable table).hasTable table = true := by
  simp [hasTable, table?_defineTable]

theorem tables_foldl_registerHook (registry : Registry) (table : String)
    (hooks : List (Phase × Hook)) :
    (hooks.foldl (fun registry entry => registry.registerHook entry.1 table entry.2)
      registry).tables = registry.tables := by
  induction hooks generalizing registry with
  | nil => rfl
  | cons entry rest ih => exact ih (registry.registerHook entry.1 table entry.2)

/-- A draft that is made known is the definition of its table. -/
theorem hasTable_commit (registry : Registry) (draft : TableDraft) :
    (registry.commit draft).hasTable draft.table = true := by
  rw [hasTable, table?, commit, tables_foldl_registerHook]
  exact hasTable_registerColumns (hasTable_defineTable registry draft.table) _ _

end Registry

namespace Statement

theorem createTableWith_of_error {registry : Registry} {table : String} {calls : List ColumnCall}
    {error : Error} {notices : List Notice}
    (performed : (TableDraft.empty table).performAll registry calls = (.error error, notices))
    (statement : Statement) :
    statement.createTableWith registry table calls =
      ⟨registry, statement, some error, notices⟩ := by
  simp only [createTableWith, performed]

theorem createTableWith_of_ok {registry : Registry} {table : String} {calls : List ColumnCall}
    {final : TableDraft} {notices : List Notice}
    (performed : (TableDraft.empty table).performAll registry calls = (.ok final, notices))
    (statement : Statement) :
    statement.createTableWith registry table calls =
      ⟨registry.commit final, statement.withLiteral final.sql, none,
        notices ++ (registry.commit final).announce table⟩ := by
  simp only [createTableWith, performed]

/-- A definition that does not fail has completed its draft. -/
theorem exists_of_completed {registry : Registry} {table : String} {calls : List ColumnCall}
    {statement : Statement}
    (completed : (statement.createTableWith registry table calls).failure = none) :
    ∃ final notices,
      (TableDraft.empty table).performAll registry calls = (.ok final, notices) := by
  cases performed : (TableDraft.empty table).performAll registry calls with
  | mk result notices =>
      cases result with
      | error error =>
          rw [createTableWith_of_error performed] at completed
          cases completed
      | ok final => exact ⟨final, notices, rfl⟩

end Statement

namespace TableCall

theorem define_of_error {registry : Registry} {table : String} {calls : List ColumnCall}
    {error : Error} {notices : List Notice}
    (performed : (TableDraft.empty table).performAll registry calls = (.error error, notices)) :
    (draft table calls).define registry = ⟨registry, .empty, some error, notices⟩ :=
  Statement.createTableWith_of_error performed .empty

theorem define_of_ok {registry : Registry} {table : String} {calls : List ColumnCall}
    {final : TableDraft} {notices : List Notice}
    (performed : (TableDraft.empty table).performAll registry calls = (.ok final, notices)) :
    (draft table calls).define registry =
      ⟨registry.commit final, Statement.empty.withLiteral final.sql, none,
        notices ++ (registry.commit final).announce table⟩ :=
  Statement.createTableWith_of_ok performed .empty

theorem exists_of_completed {registry : Registry} {table : String} {calls : List ColumnCall}
    (completed : ((draft table calls).define registry).failure = none) :
    ∃ final notices,
      (TableDraft.empty table).performAll registry calls = (.ok final, notices) :=
  Statement.exists_of_completed completed

/-- A definition that fails changes no registry and announces nothing. -/
theorem define_of_failure {call : TableCall} {registry : Registry} {error : Error}
    (failed : (call.define registry).failure = some error) :
    (call.define registry).registry = registry ∧
      ∀ notice ∈ (call.define registry).notices, notice.isAnnouncement = false := by
  cases call with
  | declare table columns => cases failed
  | draft table calls =>
      have silent := (TableDraft.empty table).silent_performAll registry calls
      cases performed : (TableDraft.empty table).performAll registry calls with
      | mk result notices =>
          rw [performed] at silent
          cases result with
          | error found =>
              rw [define_of_error performed]
              exact ⟨rfl, silent⟩
          | ok final =>
              rw [define_of_ok performed] at failed
              cases failed

/-- A definition that does not fail makes its table known and announces it as it is then. -/
theorem define_of_completed {call : TableCall} {registry : Registry}
    (completed : (call.define registry).failure = none) :
    (call.define registry).registry.hasTable call.table = true ∧
      ∃ shown, (call.define registry).notices =
        shown ++ (call.define registry).registry.announce call.table := by
  cases call with
  | declare table columns =>
      exact ⟨Registry.hasTable_registerColumns (Registry.hasTable_defineTable registry table) _ _,
        [], rfl⟩
  | draft table calls =>
      rcases exists_of_completed completed with ⟨final, notices, performed⟩
      have sameTable : final.table = table := TableDraft.table_performAll performed
      rw [define_of_ok performed]
      exact ⟨sameTable ▸ registry.hasTable_commit final, notices, rfl⟩

end TableCall

/-! ## Steps on a handle -/

namespace Database

variable {database : Database} {call : TableCall}

theorem step_step (database : Database) (call : TableCall) :
    database.step call.step = database.applyDefinition (call.define database.registry) := by
  cases call <;> rfl

/-- The guard has no say in what a definition leaves behind. -/
theorem database_step (database : Database) (call : TableCall) :
    (database.step call.step).database =
        { database with registry := (call.define database.registry).registry } ∧
      (database.step call.step).notices = (call.define database.registry).notices := by
  rw [step_step, applyDefinition]
  split
  · exact ⟨rfl, rfl⟩
  · unfold submit
    split <;> exact ⟨rfl, rfl⟩

/-- A definition is refused because it fails, or because the guard refuses its statement. -/
theorem cause_of_error {error : Error}
    (refused : (database.step call.step).result = .error error) :
    (call.define database.registry).failure = some error ∨
      (call.define database.registry).failure = none ∧
        Guard.validate (call.define database.registry).statement.render = .error error := by
  rw [step_step] at refused
  unfold applyDefinition submit at refused
  split at refused
  · next found failed =>
      rcases Except.error.inj refused with rfl
      exact .inl failed
  · next completed =>
      split at refused
      · cases refused
      · next found rejected =>
          rcases Except.error.inj refused with rfl
          exact .inr ⟨completed, rejected⟩

/-- A table definition that is refused hands nothing to the engine and leaves the pending statement
alone. If the draft failed, it leaves the whole handle as it was, and no table is announced. If the
guard refused the statement, the definition is known and announced as it would be otherwise. -/
theorem trace_of_refused_definition {error : Error}
    (refused : (database.step call.step).result = .error error) :
    let definition := call.define database.registry
    let outcome := database.step call.step
    outcome.sent = [] ∧ outcome.database.pending = database.pending ∧
      (definition.failure = some error ∧ outcome.database = database ∧
          (∀ notice ∈ outcome.notices, notice.isAnnouncement = false) ∨
        definition.failure = none ∧
          Guard.validate definition.statement.render = .error error ∧
          outcome.database.registry = definition.registry ∧
          definition.registry.hasTable call.table = true ∧
          ∃ shown, outcome.notices = shown ++ definition.registry.announce call.table) := by
  intro definition outcome
  have silent := (database.guarded_step call.step).failed error refused
  rcases database.database_step call with ⟨left, told⟩
  refine ⟨silent, congrArg (·.pending) left, ?_⟩
  rcases cause_of_error refused with failed | ⟨completed, rejected⟩
  · rcases TableCall.define_of_failure failed with ⟨unchanged, unannounced⟩
    refine .inl ⟨failed, ?_, told ▸ unannounced⟩
    rw [left, unchanged]
  · rcases TableCall.define_of_completed completed with ⟨known, announced⟩
    exact .inr ⟨completed, rejected, congrArg (·.registry) left, known, told ▸ announced⟩

theorem trace_of_unknown_reference :
    let database := Database.fresh ⟨Nat.repr⟩
    let call := TableCall.draft "posts" [.uuid "id", .foreignKey "author" "users.id" {} false]
    let outcome := database.step call.step
    outcome.result = .error (.badReference "users.id" (.undefinedTable "users")) ∧
      outcome.database = database ∧ outcome.sent = [] := by
  intro database call outcome
  have refused :
      outcome.result = .error (.badReference "users.id" (.undefinedTable "users")) := by
    rfl
  rcases trace_of_refused_definition refused with ⟨silent, _, ⟨_, unchanged, _⟩ | ⟨completed, _⟩⟩
  · exact ⟨refused, unchanged, silent⟩
  · cases completed

/-- A default that the guard takes for a comment leaves its table known, with its hook, though the
definition was refused. -/
theorem known_of_rejected_default :
    let database := { Database.fresh ⟨Nat.repr⟩ with registry := Registry.empty.observe "types" }
    let call := TableCall.draft "notes"
      [.uuid "id", .plain .text "body" { default := some (.text "a -- b") }]
    let outcome := database.step call.step
    outcome.result.isOk = false ∧ outcome.sent = [] ∧
      database.registry.hasTable "notes" = false ∧
      outcome.database.registry.hasTable "notes" = true ∧
      (outcome.database.registry.hooksFor .beforeInsert "notes").length = 1 ∧
      (outcome.notices.any Notice.isAnnouncement) = true := by
  decide +kernel

end Database

end RankedSql
