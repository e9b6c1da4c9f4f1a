import RankedSql.Proofs.DraftSteps
import RankedSql.Proofs.FirstEdits
import RankedSql.Statement.Firing

/-!
# The hooks of table definitions

Table drafts ask for two kinds of hooks only: identifiers before insertions and times of change
before updates. A registry whose hooks all come from definitions is called drafted, and every
definition leaves it so (`Registry.Drafted.createTableWith`).

On a drafted registry, firing comes down to one edit of one clause. Before an insertion the first
row is filled once for each column that it misses (`runHooks_generatedIdentifier`); before an
update the time of change is set once (`runHooks_touchUpdatedAt`); selections have no hooks at all.
-/

namespace RankedSql

/-- The hooks that a table draft asks for, by phase. -/
inductive Hook.DraftedFor : Phase → Hook → Prop where
  | generatedIdentifier (column : String) : DraftedFor .beforeInsert (.generatedIdentifier column)
  | touchUpdatedAt : DraftedFor .beforeUpdate .touchUpdatedAt

/-- A registry in which every hook comes from a table draft. -/
def Registry.Drafted (registry : Registry) : Prop :=
  ∀ entry ∈ registry.hooks, entry.hook.DraftedFor entry.phase

/-- The column that a hook fills with an identifier. -/
def Hook.identifierColumn? : Hook → Option String
  | .generatedIdentifier column => some column
  | _ => none

/-- The columns of a table that insertions fill with identifiers, in the order of the hooks. -/
def Registry.identifierColumns (registry : Registry) (table : String) : List String :=
  (registry.hooksFor .beforeInsert table).filterMap Hook.identifierColumn?

/-- Whether updates of a table have hooks. -/
def Registry.touchesUpdates (registry : Registry) (table : String) : Bool :=
  !(registry.hooksFor .beforeUpdate table).isEmpty

/-! ## Definitions keep a registry drafted -/

/-- One step of a draft asks for drafted hooks only. -/
theorem TableDraft.Step.draftedFor {registry : Registry} {draft next : TableDraft}
    {call : ColumnCall} (step : draft.Step registry call next)
    (drafted : ∀ entry ∈ draft.hooks, entry.2.DraftedFor entry.1) :
    ∀ entry ∈ next.hooks, entry.2.DraftedFor entry.1 := by
  cases step with
  | primaryKey | plain | foreignKey | tolerated | inspect => exact drafted
  | uuid name =>
      exact List.forall_mem_append.2 ⟨drafted, by simpa using .generatedIdentifier name⟩
  | timestamps => exact List.forall_mem_append.2 ⟨drafted, by simpa using .touchUpdatedAt⟩

theorem TableDraft.draftedFor_performAll {registry : Registry} {draft final : TableDraft}
    {calls : List ColumnCall} {notices : List Notice}
    (performed : draft.performAll registry calls = (.ok final, notices))
    (drafted : ∀ entry ∈ draft.hooks, entry.2.DraftedFor entry.1) :
    ∀ entry ∈ final.hooks, entry.2.DraftedFor entry.1 :=
  invariant_performAll (fun current => ∀ entry ∈ current.hooks, entry.2.DraftedFor entry.1)
    (fun _ _ _ _ step => step.draftedFor) performed drafted

namespace Registry

theorem hooks_registerColumns (registry : Registry) (table : String)
    (entries : List (String × ColumnFacts)) :
    (registry.registerColumns table entries).hooks = registry.hooks := by
  induction entries generalizing registry with
  | nil => rfl
  | cons entry rest ih => exact ih (registry.registerColumn table entry.1 entry.2)

theorem hooks_foldl_registerHook (registry : Registry) (table : String)
    (hooks : List (Phase × Hook)) :
    (hooks.foldl (fun registry entry => registry.registerHook entry.1 table entry.2)
      registry).hooks = registry.hooks ++ hooks.map fun entry => ⟨entry.1, table, entry.2⟩ := by
  induction hooks generalizing registry with
  | nil => simp
  | cons entry rest ih =>
      rw [List.foldl_cons, ih]
      simp [registerHook]

/-- A finished draft adds its own hooks behind those that are there. -/
theorem hooks_commit (registry : Registry) (draft : TableDraft) :
    (registry.commit draft).hooks =
      registry.hooks ++ draft.hooks.map fun entry => ⟨entry.1, draft.table, entry.2⟩ := by
  rw [commit, hooks_foldl_registerHook, hooks_registerColumns]
  rfl

theorem drafted_empty : Registry.empty.Drafted := by
  simp [Drafted, empty]

namespace Drafted

theorem commit {registry : Registry} {draft : TableDraft} (drafted : registry.Drafted)
    (draftedHooks : ∀ entry ∈ draft.hooks, entry.2.DraftedFor entry.1) :
    (registry.commit draft).Drafted := by
  intro entry member
  rw [hooks_commit] at member
  rcases List.mem_append.1 member with old | new
  · exact drafted entry old
  · rcases List.mem_map.1 new with ⟨asked, askedMember, rfl⟩
    exact draftedHooks asked askedMember

theorem createTable {registry : Registry} (drafted : registry.Drafted) (statement : Statement)
    (table : String) (columns : List (String × String)) :
    (statement.createTable registry table columns).registry.Drafted := by
  intro entry member
  refine drafted entry ?_
  rwa [Statement.createTable, registerDeclared, hooks_registerColumns] at member

/-- A definition through a draft leaves a drafted registry, whether it fails or not. -/
theorem createTableWith {registry : Registry} (drafted : registry.Drafted)
    (statement : Statement) (table : String) (calls : List ColumnCall) :
    (statement.createTableWith registry table calls).registry.Drafted := by
  unfold Statement.createTableWith
  split
  · exact drafted
  · next draft _ performed =>
      exact drafted.commit (TableDraft.draftedFor_performAll performed (by simp [TableDraft.empty]))

/-! ## The hooks that run -/

theorem draftedFor_of_mem_hooksFor {registry : Registry} (drafted : registry.Drafted)
    {phase : Phase} {key : String} {hook : Hook} (member : hook ∈ registry.hooksFor phase key) :
    hook.DraftedFor phase := by
  rcases List.mem_map.1 member with ⟨entry, entryMember, rfl⟩
  rcases List.mem_filter.1 entryMember with ⟨registered, matching⟩
  simp only [Bool.and_eq_true, beq_iff_eq] at matching
  exact matching.1 ▸ drafted entry registered

theorem hooksFor_beforeInsert {registry : Registry} (drafted : registry.Drafted)
    (table : String) :
    registry.hooksFor .beforeInsert table =
      (registry.identifierColumns table).map .generatedIdentifier := by
  have filling : ∀ hook ∈ registry.hooksFor .beforeInsert table,
      hook.DraftedFor .beforeInsert := fun _ => drafted.draftedFor_of_mem_hooksFor
  unfold identifierColumns
  generalize registry.hooksFor .beforeInsert table = hooks at filling
  induction hooks with
  | nil => rfl
  | cons hook rest ih =>
      rcases List.forall_mem_cons.1 filling with ⟨first, later⟩
      cases first with
      | generatedIdentifier column => simpa [Hook.identifierColumn?] using ih later

theorem hooksFor_beforeUpdate {registry : Registry} (drafted : registry.Drafted)
    (table : String) :
    registry.hooksFor .beforeUpdate table =
      List.replicate (registry.hooksFor .beforeUpdate table).length .touchUpdatedAt := by
  apply List.eq_replicate_of_mem
  intro hook member
  cases drafted.draftedFor_of_mem_hooksFor member
  rfl

theorem hooksFor_beforeSelect {registry : Registry} (drafted : registry.Drafted) (key : String) :
    registry.hooksFor .beforeSelect key = [] := by
  apply List.eq_nil_iff_forall_not_mem.2
  intro hook member
  cases drafted.draftedFor_of_mem_hooksFor member

/-- No drafted hook belongs to a field. -/
theorem runPhase_eq {registry : Registry} (drafted : registry.Drafted) (phase : Phase)
    (table : String) (state : HookState) :
    registry.runPhase phase table state = runHooks (registry.hooksFor phase table) state := by
  unfold runPhase
  split
  · next select =>
      subst select
      have noFieldHooks (fields : List String) (state : HookState) :
          registry.runFieldHooks .beforeSelect table fields state = state := by
        induction fields with
        | nil => rfl
        | cons field rest ih =>
            rw [runFieldHooks, List.foldl_cons, drafted.hooksFor_beforeSelect]
            exact ih
      exact noFieldHooks _ _
  · rfl

end Drafted

end Registry

/-! ## Filling a row -/

/-- The columns among the given ones that are not present, each once. -/
def missingColumns (present : List String) : List String → List String
  | [] => []
  | column :: rest =>
      if present.contains column then missingColumns present rest
      else column :: missingColumns (present ++ [column]) rest

/-- The supply after a number of identifiers are drawn. -/
def IdentifierSupply.drop (supply : IdentifierSupply) (count : Nat) : IdentifierSupply :=
  ⟨fun index => supply.nth (index + count)⟩

/-- The identifiers that are drawn next, in order. -/
def IdentifierSupply.take (supply : IdentifierSupply) (count : Nat) : List String :=
  (List.range count).map supply.nth

/-- The row with a literal for each of some further columns. -/
def Insertion.fill (row : Insertion) (columns identifiers : List String) : Insertion :=
  { row with
    columns := row.columns ++ columns
    values := row.values ++ identifiers.map (Text.quoted '"') }

theorem IdentifierSupply.take_succ (supply : IdentifierSupply) (count : Nat) :
    supply.take (count + 1) = supply.next :: supply.rest.take count := by
  simp [take, next, rest, List.range_succ_eq_map, Function.comp_def]

theorem IdentifierSupply.drop_succ (supply : IdentifierSupply) (count : Nat) :
    supply.drop (count + 1) = supply.rest.drop count := rfl

theorem Insertion.fill_extend (row : Insertion) (column identifier : String)
    (columns identifiers : List String) :
    (row.extend column (Text.quoted '"' identifier)).fill columns identifiers =
      row.fill (column :: columns) (identifier :: identifiers) := by
  simp [extend, fill]

theorem firstInsertion?_append {before : List Part}
    (clear : ∀ part ∈ before, part.insertion? = none) (row : Insertion) (rank : Rank)
    (after : List Part) :
    firstInsertion? (before ++ ⟨.insertion row, rank⟩ :: after) = some row :=
  List.findSome?_eq_some_iff.2 ⟨before, _, after, rfl, rfl, clear⟩

/-- The hooks of an insertion fill the first row once for each column that it misses. -/
theorem runHooks_generatedIdentifier {before : List Part}
    (clear : ∀ part ∈ before, part.insertion? = none) (row : Insertion) (rank : Rank)
    (after : List Part) (columns : List String) (supply : IdentifierSupply)
    (notices : List Notice) :
    let missing := missingColumns row.columns columns
    runHooks (columns.map .generatedIdentifier)
        ⟨before ++ ⟨.insertion row, rank⟩ :: after, supply, notices⟩ =
      ⟨before ++ ⟨.insertion (row.fill missing (supply.take missing.length)), rank⟩ :: after,
        supply.drop missing.length, notices⟩ := by
  -- The row grows from hook to hook: a column that two hooks fill is missing for the first only.
  induction columns generalizing row supply with
  | nil => simp [runHooks, missingColumns, Insertion.fill, IdentifierSupply.take,
      IdentifierSupply.drop]
  | cons column rest ih =>
      have first := firstInsertion?_append clear row rank after
      have step : runHooks ((column :: rest).map .generatedIdentifier)
          ⟨before ++ ⟨.insertion row, rank⟩ :: after, supply, notices⟩ =
          runHooks (rest.map .generatedIdentifier) ((Hook.generatedIdentifier column).run
            ⟨before ++ ⟨.insertion row, rank⟩ :: after, supply, notices⟩) := rfl
      simp only [step, Hook.run, first, missingColumns]
      split
      · exact ih row supply
      · rw [editFirstInsertion_append _ clear, ih (row.extend column _) supply.rest]
        rw [Insertion.fill_extend, ← IdentifierSupply.take_succ, ← IdentifierSupply.drop_succ]
        rfl

/-! ## Touching an update -/

/-- The update with the time of its change, unless it assigns that already. -/
def Update.touched (change : Update) : Update :=
  if change.assigns "updated_at" then change
  else change.extend "updated_at" "CURRENT_TIMESTAMP"

theorem Update.touched_touched (change : Update) : change.touched.touched = change.touched := by
  by_cases assigned : change.assigns "updated_at" = true
  · have same : change.touched = change := if_pos assigned
    rw [same, same]
  · have extended : change.touched = change.extend "updated_at" "CURRENT_TIMESTAMP" :=
      if_neg assigned
    rw [extended]
    exact if_pos (by simp [assigns, extend])

theorem firstUpdate?_append {before : List Part}
    (clear : ∀ part ∈ before, part.update? = none) (change : Update) (rank : Rank)
    (after : List Part) :
    firstUpdate? (before ++ ⟨.update change, rank⟩ :: after) = some change :=
  List.findSome?_eq_some_iff.2 ⟨before, _, after, rfl, rfl, clear⟩

theorem any_condition?_append_update (change : Update) (rank : Rank) (before after : List Part) :
    ((before ++ ⟨.update change, rank⟩ :: after).any fun part => part.condition?.isSome) =
      (before ++ after).any fun part => part.condition?.isSome := by
  simp [Part.condition?]

/-- Setting the time of change touches the first update, if there is a condition. -/
theorem touchParts_append {before : List Part}
    (clear : ∀ part ∈ before, part.update? = none) (change : Update) (rank : Rank)
    (after : List Part) :
    touchParts (before ++ ⟨.update change, rank⟩ :: after) =
      if (before ++ after).any fun part => part.condition?.isSome then
        before ++ ⟨.update change.touched, rank⟩ :: after
      else before ++ ⟨.update change, rank⟩ :: after := by
  rw [touchParts, any_condition?_append_update, firstUpdate?_append clear, Update.touched]
  split
  · simp only
    split
    · rfl
    · exact editFirstUpdate_append _ clear change rank after
  · rfl

/-- The hooks of an update touch the first update once, however many they are. -/
theorem runHooks_touchUpdatedAt {before : List Part}
    (clear : ∀ part ∈ before, part.update? = none) (change : Update) (rank : Rank)
    (after : List Part) (count : Nat) (supply : IdentifierSupply) (notices : List Notice) :
    let conditioned := (before ++ after).any fun part => part.condition?.isSome
    runHooks (List.replicate count .touchUpdatedAt)
        ⟨before ++ ⟨.update change, rank⟩ :: after, supply, notices⟩ =
      ⟨before ++ ⟨.update (if conditioned ∧ count ≠ 0 then change.touched else change), rank⟩ ::
        after, supply, notices⟩ := by
  intro conditioned
  -- After the first hook the update is touched, and every further hook leaves it as it is.
  induction count generalizing change with
  | zero => simp [runHooks]
  | succ count ih =>
      have step : runHooks (List.replicate (count + 1) .touchUpdatedAt)
          ⟨before ++ ⟨.update change, rank⟩ :: after, supply, notices⟩ =
          runHooks (List.replicate count .touchUpdatedAt)
            ⟨touchParts (before ++ ⟨.update change, rank⟩ :: after), supply, notices⟩ := rfl
      rw [step, touchParts_append clear]
      by_cases holds : conditioned = true
      · rw [if_pos holds, ih change.touched]
        simp [holds, Update.touched_touched]
      · rw [if_neg holds, ih change]
        simp [holds]

end RankedSql
