import RankedSql.Proofs.FiredParts
import RankedSql.Proofs.TableCalls

/-!
# Runs of table definitions

A registry keeps the hooks of every definition that succeeds, also of one that defines a table
again; a definition that fails leaves none. So the hooks of a table are those that its definitions
asked for, one after the other (`Registry.hooksFor_afterSteps`).

How often a hook was asked for makes no difference to a statement. A row gets each column that it
misses once, in the order in which the columns were first asked for (`missingColumns_eq`), and an
update is touched once (`runHooks_touchUpdatedAt`). What definitions promise of rows and updates
thus holds after any run of them (`writeParts_fire_after_definitions`).
-/

namespace RankedSql

/-! ## What a draft asks for -/

namespace ColumnCall

/-- The hooks that a call asks for. -/
def hooks : ColumnCall → List (Phase × Hook)
  | .uuid name => [(.beforeInsert, .generatedIdentifier name)]
  | .timestamps => [(.beforeUpdate, .touchUpdatedAt)]
  | _ => []

/-- The column that a call declares as an identifier. -/
def uuidName? : ColumnCall → Option String
  | .uuid name => some name
  | _ => none

/-- Whether a call adds the times of creation and of the last change. -/
def isTimestamps : ColumnCall → Bool
  | .timestamps => true
  | _ => false

end ColumnCall

theorem TableDraft.Step.hooks_eq {registry : Registry} {draft next : TableDraft}
    {call : ColumnCall} (step : draft.Step registry call next) :
    next.hooks = draft.hooks ++ call.hooks := by
  cases step with
  | uuid | timestamps => rfl
  | _ => exact (List.append_nil _).symm

theorem TableDraft.hooks_performAll {registry : Registry} {draft final : TableDraft}
    {calls : List ColumnCall} {notices : List Notice}
    (performed : draft.performAll registry calls = (.ok final, notices)) :
    final.hooks = draft.hooks ++ calls.flatMap ColumnCall.hooks := by
  induction calls generalizing draft notices with
  | nil =>
      rcases Prod.mk.inj performed with ⟨same, _⟩
      exact Except.ok.inj same ▸ (List.append_nil _).symm
  | cons call rest ih =>
      rcases exists_of_performAll_cons performed with ⟨next, _, _, stepped, completed⟩
      rw [ih completed, (step_of_perform stepped).hooks_eq, List.flatMap_cons, List.append_assoc]

/-- The hooks of one phase that some column calls ask for. -/
def askedHooks (phase : Phase) (calls : List ColumnCall) : List Hook :=
  ((calls.flatMap ColumnCall.hooks).filter fun entry => entry.1 == phase).map Prod.snd

theorem askedHooks_append (phase : Phase) (left right : List ColumnCall) :
    askedHooks phase (left ++ right) = askedHooks phase left ++ askedHooks phase right := by
  simp [askedHooks]

theorem filterMap_identifierColumn?_askedHooks (calls : List ColumnCall) :
    (askedHooks .beforeInsert calls).filterMap Hook.identifierColumn? =
      calls.filterMap ColumnCall.uuidName? := by
  induction calls with
  | nil => rfl
  | cons call rest ih =>
      rw [← List.singleton_append, askedHooks_append, List.filterMap_append, ih,
        List.filterMap_append]
      cases call <;> rfl

theorem isEmpty_askedHooks_beforeUpdate (calls : List ColumnCall) :
    (!(askedHooks .beforeUpdate calls).isEmpty) = calls.any ColumnCall.isTimestamps := by
  induction calls with
  | nil => rfl
  | cons call rest ih =>
      have nonempty (left right : List Hook) :
          (!(left ++ right).isEmpty) = (!left.isEmpty || !right.isEmpty) := by
        cases left <;> rfl
      rw [← List.singleton_append, askedHooks_append, nonempty, ih, List.any_append]
      cases call <;> rfl

/-! ## Steps on a registry -/

/-- A step in the life of a registry: the definition of a table, or a direct change. -/
inductive RegistryStep where
  | define (call : TableCall)
  | change (change : RegistryChange)

namespace RegistryStep

/-- The registry after a step. -/
def apply (registry : Registry) : RegistryStep → Registry
  | .define call => (call.define registry).registry
  | .change made => (registry.change made).1

/-- Whether a step registers a hook other than through a definition. -/
def registersHook : RegistryStep → Bool
  | .change (.registerHook _ _ _) => true
  | _ => false

/-- The column calls with which a step defines a table. A definition that fails defines nothing. -/
def columnCalls (registry : Registry) (table : String) : RegistryStep → List ColumnCall
  | .define (.draft other calls) =>
      if other = table ∧ ((TableCall.draft other calls).define registry).failure = none then calls
      else []
  | _ => []

end RegistryStep

namespace Registry

/-- The registry after a run of steps. -/
def afterSteps (registry : Registry) (steps : List RegistryStep) : Registry :=
  steps.foldl RegistryStep.apply registry

/-- The column calls of all definitions of a table that succeed in a run, in order. -/
def columnCalls (table : String) : Registry → List RegistryStep → List ColumnCall
  | _, [] => []
  | registry, step :: rest =>
      step.columnCalls registry table ++ columnCalls table (step.apply registry) rest

/-- A completed draft adds the hooks that its calls ask for to those of its own table. -/
theorem hooksFor_commit {registry : Registry} {table : String} {calls : List ColumnCall}
    {final : TableDraft} {notices : List Notice}
    (performed : (TableDraft.empty table).performAll registry calls = (.ok final, notices))
    (phase : Phase) (key : String) :
    (registry.commit final).hooksFor phase key =
      registry.hooksFor phase key ++ if table = key then askedHooks phase calls else [] := by
  have hooks_eq : final.hooks = calls.flatMap ColumnCall.hooks :=
    TableDraft.hooks_performAll performed
  have sameTable : final.table = table := TableDraft.table_performAll performed
  simp only [hooksFor, hooks_commit, hooks_eq, sameTable, List.filter_append, List.map_append,
    List.filter_map, List.map_map, Function.comp_def]
  by_cases same : table = key
  · simp [same, askedHooks]
  · simp [same]

end Registry

namespace RegistryStep

/-- A step adds the hooks that its column calls ask for behind those that are there. -/
theorem hooksFor_apply {step : RegistryStep} (noHook : step.registersHook = false)
    (registry : Registry) (phase : Phase) (table : String) :
    (step.apply registry).hooksFor phase table =
      registry.hooksFor phase table ++ askedHooks phase (step.columnCalls registry table) := by
  cases step with
  | change made =>
      cases made with
      | registerHook => cases noHook
      | _ => exact (List.append_nil _).symm
  | define call =>
      cases call with
      | declare other columns =>
          have hooks_eq : ((TableCall.declare other columns).define registry).registry.hooks =
              registry.hooks := Registry.hooks_registerColumns _ _ _
          rw [apply, Registry.hooksFor, hooks_eq]
          exact (List.append_nil _).symm
      | draft other calls =>
          cases performed : (TableDraft.empty other).performAll registry calls with
          | mk result notices =>
              cases result with
              | error error =>
                  simp only [apply, columnCalls, TableCall.define_of_error performed]
                  simp [askedHooks]
              | ok final =>
                  simp only [apply, columnCalls, TableCall.define_of_ok performed, and_true,
                    Registry.hooksFor_commit performed]
                  split <;> rfl

theorem drafted_apply {step : RegistryStep} (noHook : step.registersHook = false)
    {registry : Registry} (drafted : registry.Drafted) : (step.apply registry).Drafted := by
  cases step with
  | change made =>
      cases made with
      | registerHook => cases noHook
      | _ => exact drafted
  | define call =>
      cases call with
      | declare table columns => exact drafted.createTable _ table columns
      | draft table calls => exact drafted.createTableWith _ table calls

end RegistryStep

/-! ## Runs -/

namespace Registry

variable {steps : List RegistryStep}

/-- After a run, the hooks of a table are followed by those that its definitions asked for. -/
theorem hooksFor_afterSteps (noHooks : ∀ step ∈ steps, step.registersHook = false)
    (registry : Registry) (phase : Phase) (table : String) :
    (registry.afterSteps steps).hooksFor phase table =
      registry.hooksFor phase table ++ askedHooks phase (registry.columnCalls table steps) := by
  -- Whether a definition succeeds depends on the registry at its time, so the registry moves along.
  induction steps generalizing registry with
  | nil => exact (List.append_nil _).symm
  | cons step rest ih =>
      rcases List.forall_mem_cons.1 noHooks with ⟨stepNone, restNone⟩
      have later := ih restNone (step.apply registry)
      rw [RegistryStep.hooksFor_apply stepNone, List.append_assoc, ← askedHooks_append] at later
      exact later

theorem drafted_afterSteps (noHooks : ∀ step ∈ steps, step.registersHook = false)
    {registry : Registry} (drafted : registry.Drafted) : (registry.afterSteps steps).Drafted := by
  induction steps generalizing registry with
  | nil => exact drafted
  | cons step rest ih =>
      rcases List.forall_mem_cons.1 noHooks with ⟨stepNone, restNone⟩
      exact ih restNone (RegistryStep.drafted_apply stepNone drafted)

theorem identifierColumns_afterSteps (noHooks : ∀ step ∈ steps, step.registersHook = false)
    (table : String) :
    (empty.afterSteps steps).identifierColumns table =
      (empty.columnCalls table steps).filterMap ColumnCall.uuidName? := by
  rw [identifierColumns, hooksFor_afterSteps noHooks]
  exact filterMap_identifierColumn?_askedHooks _

theorem touchesUpdates_afterSteps (noHooks : ∀ step ∈ steps, step.registersHook = false)
    (table : String) :
    (empty.afterSteps steps).touchesUpdates table =
      (empty.columnCalls table steps).any ColumnCall.isTimestamps := by
  rw [touchesUpdates, hooksFor_afterSteps noHooks]
  exact isEmpty_askedHooks_beforeUpdate _

end Registry

/-! ## Columns that a row misses -/

/-- The missing columns are those that are not present, each where it comes first. -/
theorem missingColumns_eq (present columns : List String) :
    missingColumns present columns =
      (columns.filter fun column => !present.contains column).eraseDups := by
  induction columns generalizing present with
  | nil => rfl
  | cons column rest ih =>
      unfold missingColumns
      split
      · next there => rw [ih, List.filter_cons, if_neg (by simpa using there)]
      · next absent =>
          rw [ih, List.filter_cons, if_pos (by simpa using absent), List.eraseDups_cons,
            List.filter_filter]
          congr 2
          apply List.filter_congr
          intro other _
          simp [beq_eq_decide, Bool.and_comm]

theorem nodup_missingColumns (present columns : List String) :
    (missingColumns present columns).Nodup := by
  induction columns generalizing present with
  | nil => exact List.nodup_nil
  | cons column rest ih =>
      unfold missingColumns
      split
      · exact ih present
      · refine List.nodup_cons.2 ⟨?_, ih _⟩
        rw [missingColumns_eq, List.mem_eraseDups]
        simp

/-! ## Statements after a run -/

/-- Where an update is touched, it gets the time of its change unless the data assigns it. -/
theorem touched_updateOf (registry : Registry) (table : String) (data : List (String × Value))
    (asked conditioned : Bool) :
    (if conditioned ∧ asked then (updateOf registry table data).touched
      else updateOf registry table data) =
      ⟨table, (data.map fun entry => (entry.1, registry.storedValue table entry.1 entry.2)) ++
        if asked ∧ conditioned ∧ "updated_at" ∉ data.map Prod.fst then
          [("updated_at", "CURRENT_TIMESTAMP")] else []⟩ := by
  have assigns_iff : (updateOf registry table data).assigns "updated_at" = true ↔
      "updated_at" ∈ data.map Prod.fst := by
    simp [updateOf, Update.assigns]
  by_cases applies : conditioned = true ∧ asked = true
  · rw [if_pos applies, Update.touched]
    by_cases present : "updated_at" ∈ data.map Prod.fst
    · rw [if_pos (assigns_iff.2 present), if_neg fun touching => touching.2.2 present,
        List.append_nil]
      rfl
    · rw [if_neg (mt assigns_iff.1 present), if_pos ⟨applies.2, applies.1, present⟩]
      rfl
  · rw [if_neg applies, if_neg fun touching => applies ⟨touching.2.1, touching.1⟩,
      List.append_nil]
    rfl

/-- After any run of table definitions, a statement with one row or one update has what the
definitions of its table that succeeded promise. A row with some data has the columns of the data
and then those that were declared as identifiers and that the data misses, each once, in the order
of their first declarations; its values are those of the data and then one identifier for each
further column. An update gets the time of its change once, if the table was declared with such
times, a call states a condition, and the data does not assign it; else it is as the data says. -/
theorem writeParts_fire_after_definitions {steps : List RegistryStep}
    (noHooks : ∀ step ∈ steps, step.registersHook = false) (table : String)
    (data : List (String × Value)) (calls : List Call) (supply : IdentifierSupply) :
    let registry := Registry.empty.afterSteps steps
    let asked := Registry.empty.columnCalls table steps
    let columns := data.map Prod.fst
    let stored (entry : String × Value) := registry.storedValue table entry.1 entry.2
    let fired := (registry.fire supply (Statement.empty.afterCalls registry calls)).statement.parts
    (calls.filter Call.isWrite = [.insert table data] →
      let added := ((asked.filterMap ColumnCall.uuidName?).filter
        fun column => !columns.contains column).eraseDups
      let drawn := (supply.take added.length).map (Text.quoted '"')
      added.Nodup ∧
        writeParts fired =
          [.ofClause (.insertion ⟨table, columns ++ added, data.map stored ++ drawn⟩)]) ∧
    (calls.filter Call.isWrite = [.update table data] →
      let assigned := data.map fun entry => (entry.1, stored entry)
      let touches := asked.any ColumnCall.isTimestamps ∧ calls.any Call.isCondition ∧
        "updated_at" ∉ columns
      let added := if touches then [("updated_at", "CURRENT_TIMESTAMP")] else []
      writeParts fired = [.ofClause (.update ⟨table, assigned ++ added⟩)]) := by
  intro registry asked columns stored fired
  have drafted : registry.Drafted := Registry.drafted_afterSteps noHooks Registry.drafted_empty
  have noLiteral := Statement.empty.literal_afterCalls registry calls
  have composed := writeParts_afterCalls registry calls
  constructor
  · intro single added drawn
    rw [single] at composed
    have missing : missingColumns columns (registry.identifierColumns table) = added := by
      rw [Registry.identifierColumns_afterSteps noHooks, missingColumns_eq]
    have filled : writeParts fired = [.ofClause (.insertion ((insertionOf registry table data).fill
        (missingColumns columns (registry.identifierColumns table))
        (supply.take (missingColumns columns (registry.identifierColumns table)).length)))] :=
      (parts_fire_of_insertion drafted noLiteral composed supply).1
    rw [missing] at filled
    exact ⟨missing ▸ nodup_missingColumns _ _, filled⟩
  · intro single assigned touches added
    rw [single] at composed
    have touched : writeParts fired = [.ofClause (.update
        (if calls.any Call.isCondition ∧ registry.touchesUpdates table then
          (updateOf registry table data).touched else updateOf registry table data))] := by
      rw [← any_condition?_afterCalls registry]
      exact (parts_fire_of_update drafted noLiteral composed supply).1
    rw [touched_updateOf, Registry.touchesUpdates_afterSteps noHooks] at touched
    exact touched

/-- A table that is defined twice, once in vain and once from declarations, fills each of its
identifiers once and touches an update once. -/
theorem writeParts_fire_after_redefinition :
    let steps : List RegistryStep :=
      [.define (.draft "notes" [.uuid "id", .uuid "key", .timestamps]),
        .define (.draft "tags" [.uuid "code"]),
        .define (.draft "notes" [.uuid "lost", .fail "users.id" "not yet"]),
        .define (.declare "notes" [("body", "TEXT")]),
        .define (.draft "notes" [.uuid "key", .uuid "id", .timestamps])]
    let registry := Registry.empty.afterSteps steps
    let fired (calls : List Call) :=
      (registry.fire ⟨Nat.repr⟩ (Statement.empty.afterCalls registry calls)).statement.parts
    let condition := Call.condition "id" .equal (.int 1) false
    (∀ step ∈ steps, step.registersHook = false) ∧
      writeParts (fired [condition, .insert "notes" [("id", .text "n"), ("body", .null)]]) =
        [.ofClause (.insertion ⟨"notes", ["id", "body", "key"], ["\"n\"", "NULL", "\"0\""]⟩)] ∧
      writeParts (fired [.update "notes" [("body", .null)], condition]) =
        [.ofClause (.update
          ⟨"notes", [("body", "NULL"), ("updated_at", "CURRENT_TIMESTAMP")]⟩)] := by
  intro steps registry fired condition
  have noHooks : ∀ step ∈ steps, step.registersHook = false := by decide
  have promise := writeParts_fire_after_definitions noHooks "notes"
  refine ⟨noHooks, ?_, ?_⟩
  · rw [((promise [("id", .text "n"), ("body", .null)] _ ⟨Nat.repr⟩).1 rfl).2]
    decide +kernel
  · rw [(promise [("body", .null)] _ ⟨Nat.repr⟩).2 rfl]
    decide +kernel

end RankedSql
