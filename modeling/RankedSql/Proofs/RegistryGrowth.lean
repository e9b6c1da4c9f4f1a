import RankedSql.Proofs.DefinitionRuns

/-!
# The growth of a registry

Whatever happens to a registry comes down to single changes: a definition defines its table,
registers its columns and then its hooks, or, if it fails, does nothing
(`RegistryStep.apply_eq_afterChanges`). No change takes anything away or moves it
(`Registry.extends_change`), so what holds of one change carries over to runs of any length.

The statements that are composed over a registry have no part in this: a session may define tables
through any of its composers (`Session.registry_grows`).
-/

namespace RankedSql

/-! ## Single changes -/

theorem Columns.prefix_names_insert (columns : Columns) (name : String) (facts : ColumnFacts) :
    columns.names <+: (columns.insert name facts).names := by
  rw [names_insert]
  split
  · exact List.prefix_rfl
  · exact List.prefix_append _ _

namespace Registry

/-- The registry after direct changes in order. -/
def afterChanges (registry : Registry) (changes : List RegistryChange) : Registry :=
  changes.foldl (fun registry change => (registry.change change).1) registry

/-- What is known earlier is known later: tables stay, new columns come behind the old ones, and new
hooks behind the old ones of their phase and key. -/
structure Extends (before after : Registry) : Prop where
  tables : ∀ {table columns}, before.table? table = some columns →
    ∃ extended, after.table? table = some extended ∧ columns.names <+: extended.names
  hooks : ∀ phase key, before.hooksFor phase key <+: after.hooksFor phase key

/-- A property of the columns of every known table. -/
def AllColumns (property : Columns → Prop) (registry : Registry) : Prop :=
  ∀ table columns, registry.table? table = some columns → property columns

namespace Extends

theorem refl (registry : Registry) : registry.Extends registry where
  tables known := ⟨_, known, List.prefix_rfl⟩
  hooks _ _ := List.prefix_rfl

theorem trans {first second third : Registry} (start : first.Extends second)
    (rest : second.Extends third) : first.Extends third where
  tables known := by
    rcases start.tables known with ⟨middle, knownMiddle, grown⟩
    rcases rest.tables knownMiddle with ⟨extended, knownLast, grownMore⟩
    exact ⟨extended, knownLast, grown.trans grownMore⟩
  hooks phase key := (start.hooks phase key).trans (rest.hooks phase key)

theorem hasTable {before after : Registry} (grown : before.Extends after) {table : String}
    (known : before.hasTable table = true) : after.hasTable table = true := by
  rcases Option.isSome_iff_exists.1 known with ⟨columns, found⟩
  rcases grown.tables found with ⟨extended, foundLater, _⟩
  simp [Registry.hasTable, foundLater]

end Extends

section EditTable

variable {table other : String} {edit : Columns → Columns} {tables : List (String × Columns)}

theorem exists_lookup_editTable (grows : ∀ columns, columns.names <+: (edit columns).names)
    {columns : Columns} (known : tables.lookup other = some columns) :
    ∃ extended, (editTable table edit tables).lookup other = some extended ∧
      columns.names <+: extended.names := by
  rw [lookup_editTable]
  by_cases same : other = table
  · subst same
    exact ⟨edit columns, by simp [known], grows columns⟩
  · exact ⟨columns, by simp [same, known], List.prefix_rfl⟩

theorem property_getD_lookup {property : Columns → Prop} (initially : property .empty)
    (holds : ∀ name columns, tables.lookup name = some columns → property columns)
    (name : String) : property ((tables.lookup name).getD .empty) := by
  cases known : tables.lookup name with
  | none => exact initially
  | some columns => exact holds name columns known

theorem property_of_lookup_editTable {property : Columns → Prop}
    (initially : property .empty) (kept : ∀ columns, property columns → property (edit columns))
    (holds : ∀ name columns, tables.lookup name = some columns → property columns)
    {columns : Columns} (found : (editTable table edit tables).lookup other = some columns) :
    property columns := by
  rw [lookup_editTable] at found
  split at found
  · rcases Option.some.inj found with rfl
    exact kept _ (property_getD_lookup initially holds table)
  · exact holds other columns found

end EditTable

/-- A single change only adds. -/
theorem extends_change (registry : Registry) (change : RegistryChange) :
    registry.Extends (registry.change change).1 := by
  cases change with
  | defineTable table =>
      exact ⟨exists_lookup_editTable fun _ => List.prefix_rfl, fun _ _ => List.prefix_rfl⟩
  | registerColumn table column facts =>
      exact ⟨exists_lookup_editTable fun columns => columns.prefix_names_insert column facts,
        fun _ _ => List.prefix_rfl⟩
  | registerHook phase key hook =>
      refine ⟨fun known => ⟨_, known, List.prefix_rfl⟩, fun otherPhase otherKey => ?_⟩
      simp only [change, hooksFor_registerHook]
      split
      · exact List.prefix_append _ _
      · exact List.prefix_rfl
  | observe | announce =>
      exact ⟨fun known => ⟨_, known, List.prefix_rfl⟩, fun _ _ => List.prefix_rfl⟩

/-- A property of columns that every registered column keeps is kept by a change. -/
theorem AllColumns.change {property : Columns → Prop} (initially : property .empty)
    {change : RegistryChange}
    (kept : ∀ table name facts, change = .registerColumn table name facts →
      ∀ columns : Columns, property columns → property (columns.insert name facts))
    {registry : Registry} (holds : registry.AllColumns property) :
    (registry.change change).1.AllColumns property := by
  cases change with
  | defineTable table =>
      intro other columns found
      exact property_of_lookup_editTable initially (fun _ same => same) holds found
  | registerColumn table name facts =>
      intro other columns found
      exact property_of_lookup_editTable initially (kept table name facts rfl) holds found
  | registerHook | observe | announce => exact holds

theorem extends_afterChanges (registry : Registry) (changes : List RegistryChange) :
    registry.Extends (registry.afterChanges changes) := by
  induction changes generalizing registry with
  | nil => exact .refl registry
  | cons change rest ih => exact (registry.extends_change change).trans (ih _)

theorem AllColumns.afterChanges {property : Columns → Prop} (initially : property .empty)
    {changes : List RegistryChange}
    (kept : ∀ table name facts, .registerColumn table name facts ∈ changes →
      ∀ columns : Columns, property columns → property (columns.insert name facts))
    {registry : Registry} (holds : registry.AllColumns property) :
    (registry.afterChanges changes).AllColumns property := by
  induction changes generalizing registry with
  | nil => exact holds
  | cons change rest ih =>
      apply ih
      · intro table name facts member
        exact kept table name facts (List.mem_cons_of_mem _ member)
      · apply holds.change initially
        rintro table name facts rfl
        exact kept table name facts List.mem_cons_self

end Registry

/-! ## Definitions as changes -/

/-- The changes that register columns of a table, in order. -/
def columnChanges (table : String) (entries : List (String × ColumnFacts)) : List RegistryChange :=
  entries.map fun entry => .registerColumn table entry.1 entry.2

/-- The changes that make a finished draft known. -/
def TableDraft.changes (draft : TableDraft) : List RegistryChange :=
  .defineTable draft.table :: (columnChanges draft.table draft.columns.entries ++
    draft.hooks.map fun entry => .registerHook entry.1 draft.table entry.2)

/-- The changes that a step consists of. -/
def RegistryStep.changes (registry : Registry) : RegistryStep → List RegistryChange
  | .change made => [made]
  | .define (.declare table columns) =>
      .defineTable table ::
        columnChanges table (columns.map fun entry => (entry.1, .ofDeclaration entry.2))
  | .define (.draft table calls) =>
      match ((TableDraft.empty table).performAll registry calls).1 with
      | .error _ => []
      | .ok draft => draft.changes

namespace Registry

theorem registerColumns_eq_afterChanges (registry : Registry) (table : String)
    (entries : List (String × ColumnFacts)) :
    registry.registerColumns table entries =
      registry.afterChanges (columnChanges table entries) := by
  simp [registerColumns, afterChanges, columnChanges, List.foldl_map, change]

theorem commit_eq_afterChanges (registry : Registry) (draft : TableDraft) :
    registry.commit draft = registry.afterChanges draft.changes := by
  simp only [commit, registerColumns_eq_afterChanges]
  simp [afterChanges, TableDraft.changes, List.foldl_append, List.foldl_map, change]

theorem extends_commit (registry : Registry) (draft : TableDraft) :
    registry.Extends (registry.commit draft) := by
  rw [commit_eq_afterChanges]
  exact registry.extends_afterChanges _

end Registry

theorem RegistryStep.apply_eq_afterChanges (registry : Registry) (step : RegistryStep) :
    step.apply registry = registry.afterChanges (step.changes registry) := by
  cases step with
  | change made => rfl
  | define call =>
      cases call with
      | declare table columns => exact Registry.registerColumns_eq_afterChanges _ table _
      | draft table calls =>
          rw [changes]
          cases performed : (TableDraft.empty table).performAll registry calls with
          | mk result notices =>
              cases result with
              | error error =>
                  rw [apply, TableCall.define_of_error performed]
                  rfl
              | ok final =>
                  rw [apply, TableCall.define_of_ok performed]
                  exact registry.commit_eq_afterChanges final

/-! ## Coherent facts -/

/-- The host type is that of the column type, and a primary key accepts no NULL. -/
def ColumnFacts.Coherent (facts : ColumnFacts) : Prop :=
  facts.host = facts.type.host ∧ (facts.primaryKey = true → facts.nullable = false)

/-- Columns whose recorded facts agree with each other. -/
def Columns.Coherent (columns : Columns) : Prop :=
  ∀ entry ∈ columns.entries, entry.2.Coherent

namespace ColumnFacts

theorem coherent_ofType (type : ColumnType) : (ofType type).Coherent :=
  ⟨rfl, fun key => nomatch key⟩

namespace Coherent

variable {facts : ColumnFacts}

theorem withNullable (coherent : facts.Coherent) (notKey : facts.primaryKey = false)
    (nullable : Bool) : (facts.withNullable nullable).Coherent := by
  refine ⟨coherent.1, fun key => ?_⟩
  simp [ColumnFacts.withNullable, notKey] at key

theorem withDefault (coherent : facts.Coherent) (hasDefault : Bool) :
    (facts.withDefault hasDefault).Coherent := coherent

theorem asPrimaryKey (coherent : facts.Coherent) : facts.asPrimaryKey.Coherent :=
  ⟨coherent.1, fun _ => rfl⟩

end Coherent

theorem coherent_ofDeclaration (declaration : String) : (ofDeclaration declaration).Coherent := by
  have plain (type : ColumnType) (nullable hasDefault : Bool) :
      (((ofType type).withNullable nullable).withDefault hasDefault).Coherent :=
    ((coherent_ofType type).withNullable rfl nullable).withDefault hasDefault
  simp only [ofDeclaration]
  split
  · exact (plain _ _ _).asPrimaryKey
  · exact plain _ _ _

end ColumnFacts

namespace Columns

theorem mem_insertEntry {name : String} {facts : ColumnFacts}
    {entries : List (String × ColumnFacts)} {entry : String × ColumnFacts}
    (member : entry ∈ insertEntry name facts entries) :
    entry = (name, facts) ∨ entry ∈ entries := by
  induction entries with
  | nil => simpa [insertEntry] using member
  | cons head tail ih =>
      unfold insertEntry at member
      split at member
      · grind
      · grind

theorem Coherent.insert {columns : Columns} (coherent : columns.Coherent) {name : String}
    {facts : ColumnFacts} (coherentFacts : facts.Coherent) :
    (columns.insert name facts).Coherent := by
  intro entry member
  rcases mem_insertEntry member with rfl | old
  · exact coherentFacts
  · exact coherent entry old

end Columns

/-- A step of a draft records coherent facts. -/
theorem TableDraft.Step.coherent {registry : Registry} {draft next : TableDraft}
    {call : ColumnCall} (step : draft.Step registry call next)
    (coherent : draft.columns.Coherent) : next.columns.Coherent := by
  have ofType (type : ColumnType) := ColumnFacts.coherent_ofType type
  cases step with
  | primaryKey => exact coherent.insert ((ofType .integer).withDefault true).asPrimaryKey
  | uuid => exact coherent.insert ((ofType .uuid).withDefault true).asPrimaryKey
  | timestamps =>
      have time : ColumnFacts.filledTime.Coherent := (ofType .timestamp).withDefault true
      exact (coherent.insert time).insert time
  | plain type name options =>
      exact coherent.insert (((ofType _).withNullable rfl options.nullable).withDefault _)
  | foreignKey name options lenient resolved =>
      exact coherent.insert ((ofType _).withNullable rfl options.nullable)
  | tolerated | inspect => exact coherent

namespace RegistryStep

/-- Whether a step registers a column other than through a definition. -/
def registersColumn : RegistryStep → Bool
  | .change (.registerColumn _ _ _) => true
  | _ => false

/-- The columns that a definition registers have coherent facts. -/
theorem coherent_of_mem_changes {step : RegistryStep} (noColumn : step.registersColumn = false)
    {registry : Registry} {table name : String} {facts : ColumnFacts}
    (member : .registerColumn table name facts ∈ step.changes registry) : facts.Coherent := by
  have ofEntries {table other : String} {entries : List (String × ColumnFacts)}
      (member : .registerColumn other name facts ∈ columnChanges table entries) :
      (name, facts) ∈ entries := by
    rcases List.mem_map.1 member with ⟨entry, entryMember, same⟩
    injection same with _ sameName sameFacts
    exact sameName ▸ sameFacts ▸ entryMember
  cases step with
  | change made =>
      rcases List.mem_singleton.1 member with rfl
      cases noColumn
  | define call =>
      cases call with
      | declare other columns =>
          simp only [changes, List.mem_cons, reduceCtorEq, false_or] at member
          rcases List.mem_map.1 (ofEntries member) with ⟨entry, _, same⟩
          rw [← (Prod.mk.inj same).2]
          exact ColumnFacts.coherent_ofDeclaration entry.2
      | draft other calls =>
          rw [changes] at member
          cases performed : (TableDraft.empty other).performAll registry calls with
          | mk result notices =>
              rw [performed] at member
              cases result with
              | error error => cases member
              | ok final =>
                  have coherent : final.columns.Coherent :=
                    TableDraft.invariant_performAll (fun draft => draft.columns.Coherent)
                      (fun _ _ _ _ step => step.coherent) performed
                      (fun _ absent => nomatch absent)
                  simp only [TableDraft.changes, List.mem_cons, reduceCtorEq, false_or,
                    List.mem_append, List.mem_map, and_false, exists_false, or_false] at member
                  exact coherent _ (ofEntries member)

end RegistryStep

/-! ## Runs -/

namespace Registry

variable {registry : Registry} {steps : List RegistryStep}

theorem extends_afterSteps (registry : Registry) (steps : List RegistryStep) :
    registry.Extends (registry.afterSteps steps) := by
  induction steps generalizing registry with
  | nil => exact .refl registry
  | cons step rest ih =>
      refine Extends.trans ?_ (ih (step.apply registry))
      rw [step.apply_eq_afterChanges]
      exact registry.extends_afterChanges _

/-- No run records a name twice. -/
theorem distinct_afterSteps (distinct : registry.AllColumns fun columns => columns.names.Nodup) :
    (registry.afterSteps steps).AllColumns fun columns => columns.names.Nodup := by
  induction steps generalizing registry with
  | nil => exact distinct
  | cons step rest ih =>
      apply ih
      rw [step.apply_eq_afterChanges]
      apply distinct.afterChanges List.nodup_nil
      intro _ name facts _ columns nodup
      exact Columns.nodup_names_insert nodup name facts

/-- A run in which all columns come from definitions records coherent facts. -/
theorem coherent_afterSteps (noColumns : ∀ step ∈ steps, step.registersColumn = false)
    (coherent : registry.AllColumns Columns.Coherent) :
    (registry.afterSteps steps).AllColumns Columns.Coherent := by
  induction steps generalizing registry with
  | nil => exact coherent
  | cons step rest ih =>
      rcases List.forall_mem_cons.1 noColumns with ⟨stepNone, restNone⟩
      apply ih restNone
      rw [step.apply_eq_afterChanges]
      apply coherent.afterChanges fun _ absent => nomatch absent
      intro table name facts member columns columnsCoherent
      exact columnsCoherent.insert (RegistryStep.coherent_of_mem_changes stepNone member)

theorem allColumns_empty (property : Columns → Prop) : empty.AllColumns property :=
  fun _ _ none => nomatch none

end Registry

/-! ## Sessions -/

/-- Statements that are composed over one registry, each under the name of its composer. -/
structure Session where
  registry : Registry
  statements : String → Statement

/-- A step of a session: an edit through one of the composers, a definition, or a direct change. -/
inductive SessionStep where
  | edit (composer : String) (edit : Edit)
  /-- Defines a table; the statement that creates it becomes the literal of the composer. -/
  | define (composer : String) (call : TableCall)
  | change (change : RegistryChange)

/-- What a definition through a composer makes of the registry and of the composer's statement. -/
def TableCall.defineIn (call : TableCall) (statement : Statement) (registry : Registry) :
    Definition :=
  match call with
  | .declare table columns => statement.createTable registry table columns
  | .draft table calls => statement.createTableWith registry table calls

namespace Session

/-- A session at its start: nothing is known, and no composer has a part. -/
def fresh : Session := ⟨.empty, fun _ => .empty⟩

/-- Puts a statement in place of that of a composer. -/
def withStatement (session : Session) (composer : String) (statement : Statement) : Session :=
  { session with
    statements := fun other => if other = composer then statement else session.statements other }

/-- The session after a step; a step that fails leaves it as it was. -/
def after (session : Session) : SessionStep → Session
  | .edit composer edit =>
      session.withStatement composer
        ((session.statements composer).afterEdit session.registry edit)
  | .define composer call =>
      let definition := call.defineIn (session.statements composer) session.registry
      { session.withStatement composer definition.statement with registry := definition.registry }
  | .change change => { session with registry := (session.registry.change change).1 }

/-- The session after a run of steps. -/
def afterAll (session : Session) (steps : List SessionStep) : Session :=
  steps.foldl after session

end Session

namespace SessionStep

/-- What a step means to the registry: an edit of a statement means nothing to it. -/
def registrySteps : SessionStep → List RegistryStep
  | .edit _ _ => []
  | .define _ call => [.define call]
  | .change made => [.change made]

/-- Whether a step registers a column other than through a definition. -/
def registersColumn (step : SessionStep) : Bool :=
  step.registrySteps.any RegistryStep.registersColumn

end SessionStep

/-- The statement at hand makes no difference to what a definition registers. -/
theorem TableCall.registry_defineIn (call : TableCall) (statement : Statement)
    (registry : Registry) :
    (call.defineIn statement registry).registry = (call.define registry).registry := by
  cases call with
  | declare table columns => rfl
  | draft table calls =>
      simp only [defineIn, define, Statement.createTableWith]
      split <;> rfl

namespace Session

theorem registry_after (session : Session) (step : SessionStep) :
    (session.after step).registry = session.registry.afterSteps step.registrySteps := by
  cases step with
  | edit | change => rfl
  | define composer call => exact call.registry_defineIn _ _

theorem registry_afterAll (session : Session) (steps : List SessionStep) :
    (session.afterAll steps).registry =
      session.registry.afterSteps (steps.flatMap SessionStep.registrySteps) := by
  induction steps generalizing session with
  | nil => rfl
  | cons step rest ih =>
      rw [afterAll, List.foldl_cons, ← afterAll, ih, registry_after, List.flatMap_cons,
        Registry.afterSteps, Registry.afterSteps, Registry.afterSteps, List.foldl_append]

/-- A registry only grows, whatever is done to it and through whichever composer. Between an earlier
and a later point of a session, every table stays defined, its names stay in place and new ones come
last, and so do the hooks of every phase and key. At any point the names of a table are distinct,
and if all columns came from definitions, each has the host type of its type, and accepts no NULL if
it is the primary key. -/
theorem registry_grows (earlier later : List SessionStep) :
    let before := (fresh.afterAll earlier).registry
    let after := (fresh.afterAll (earlier ++ later)).registry
    (∀ table, before.hasTable table = true → after.hasTable table = true) ∧
      (∀ table columns, before.table? table = some columns →
        columns.names.Nodup ∧
          ∃ extended, after.table? table = some extended ∧ columns.names <+: extended.names) ∧
      (∀ phase key, before.hooksFor phase key <+: after.hooksFor phase key) ∧
      ((∀ step ∈ earlier, step.registersColumn = false) →
        ∀ table columns, before.table? table = some columns →
          ∀ entry ∈ columns.entries, entry.2.host = entry.2.type.host ∧
            (entry.2.primaryKey = true → entry.2.nullable = false)) := by
  intro before after
  have grown : before.Extends after := by
    have split : after = before.afterSteps (later.flatMap SessionStep.registrySteps) := by
      simp only [after, before, afterAll, List.foldl_append]
      exact registry_afterAll _ later
    rw [split]
    exact before.extends_afterSteps _
  have distinct : before.AllColumns fun columns => columns.names.Nodup := by
    simp only [before, registry_afterAll]
    exact Registry.distinct_afterSteps (Registry.allColumns_empty _)
  refine ⟨fun _ => grown.hasTable, ?_, grown.hooks, ?_⟩
  · intro table columns known
    exact ⟨distinct table columns known, grown.tables known⟩
  · intro noColumns
    have fromDefinitions :
        ∀ step ∈ earlier.flatMap SessionStep.registrySteps, step.registersColumn = false := by
      intro step member
      rcases List.mem_flatMap.1 member with ⟨sessionStep, sessionMember, stepMember⟩
      simpa using List.any_eq_false.1 (noColumns sessionStep sessionMember) step stepMember
    have coherent : before.AllColumns Columns.Coherent := by
      simp only [before, registry_afterAll]
      exact Registry.coherent_afterSteps fromDefinitions (Registry.allColumns_empty _)
    exact fun table columns known => coherent table columns known

end Session

end RankedSql
