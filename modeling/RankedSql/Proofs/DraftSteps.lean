import RankedSql.TableDefinition

/-!
# Steps of a table draft

A step that succeeds adds to the draft in one of a few ways or leaves it alone, and `Step` lists
them with what each of them needs (`step_of_perform`). What all steps keep, a completed draft has
(`invariant_performAll`).
-/

namespace RankedSql

namespace TableDraft

/-- What a step that succeeds makes of a draft. -/
inductive Step (registry : Registry) (draft : TableDraft) : ColumnCall → TableDraft → Prop where
  | primaryKey (name : String) : Step registry draft (.primaryKey name) (draft.addPrimaryKey name)
  | uuid (name : String) : Step registry draft (.uuid name) (draft.addUuid name)
  | timestamps : Step registry draft .timestamps draft.addTimestamps
  | plain (type : PlainType) (name : String) (options : ColumnOptions) :
      Step registry draft (.plain type name options) (draft.addPlain type name options)
  | foreignKey (name : String) {reference : String} (options : ForeignKeyOptions) (lenient : Bool)
      {path : ColumnPath} {facts : ColumnFacts}
      (resolved : draft.resolve registry reference = .ok (path, facts)) :
      Step registry draft (.foreignKey name reference options lenient)
        (draft.addBack name (options.facts facts.type)
          (foreignKeyDeclaration name path facts.type options) .filter)
  | tolerated (name : String) {reference : String} (options : ForeignKeyOptions) {error : Error}
      (refused : draft.resolve registry reference = .error error) :
      Step registry draft (.foreignKey name reference options true) draft
  | inspect : Step registry draft .inspect draft

theorem step_of_perform {registry : Registry} {draft next : TableDraft} {call : ColumnCall}
    {notices : List Notice} (performed : draft.perform registry call = .ok (next, notices)) :
    draft.Step registry call next := by
  cases call with
  | primaryKey name =>
      rcases Prod.mk.inj (Except.ok.inj performed) with ⟨rfl, _⟩
      exact .primaryKey name
  | uuid name =>
      rcases Prod.mk.inj (Except.ok.inj performed) with ⟨rfl, _⟩
      exact .uuid name
  | timestamps =>
      rcases Prod.mk.inj (Except.ok.inj performed) with ⟨rfl, _⟩
      exact .timestamps
  | plain type name options =>
      rcases Prod.mk.inj (Except.ok.inj performed) with ⟨rfl, _⟩
      exact .plain type name options
  | inspect =>
      rcases Prod.mk.inj (Except.ok.inj performed) with ⟨rfl, _⟩
      exact .inspect
  | foreignKey name reference options lenient =>
      cases resolved : draft.resolve registry reference with
      | ok target =>
          simp only [perform, addForeignKey, resolved] at performed
          rcases Prod.mk.inj (Except.ok.inj performed) with ⟨rfl, _⟩
          exact .foreignKey name options lenient resolved
      | error error =>
          simp only [perform, addForeignKey, resolved] at performed
          cases lenient with
          | false => cases performed
          | true =>
              rcases Prod.mk.inj (Except.ok.inj performed) with ⟨rfl, _⟩
              exact .tolerated name options resolved
  | fail reference reason => cases performed

theorem exists_of_performAll_cons {registry : Registry} {draft final : TableDraft}
    {call : ColumnCall} {rest : List ColumnCall} {notices : List Notice}
    (performed : draft.performAll registry (call :: rest) = (.ok final, notices)) :
    ∃ next shown later, draft.perform registry call = .ok (next, shown) ∧
      next.performAll registry rest = (.ok final, later) := by
  simp only [performAll] at performed
  split at performed
  · cases performed
  · next next shown stepped =>
      rcases Prod.mk.inj performed with ⟨completed, _⟩
      exact ⟨next, shown, _, stepped, Prod.ext completed rfl⟩

/-- What holds at first and is kept by every step holds of the completed draft. -/
theorem invariant_performAll {registry : Registry} (invariant : TableDraft → Prop)
    {calls : List ColumnCall}
    (kept : ∀ call ∈ calls, ∀ draft next : TableDraft,
      draft.Step registry call next → invariant draft → invariant next)
    {draft final : TableDraft} {notices : List Notice}
    (performed : draft.performAll registry calls = (.ok final, notices))
    (initially : invariant draft) : invariant final := by
  induction calls generalizing draft notices with
  | nil =>
      rcases Prod.mk.inj performed with ⟨same, _⟩
      exact Except.ok.inj same ▸ initially
  | cons call rest ih =>
      rcases List.forall_mem_cons.1 kept with ⟨keptCall, keptRest⟩
      rcases exists_of_performAll_cons performed with ⟨next, _, _, stepped, completed⟩
      exact ih keptRest completed (keptCall draft next (step_of_perform stepped) initially)

theorem Step.table_eq {registry : Registry} {draft next : TableDraft} {call : ColumnCall}
    (step : draft.Step registry call next) : next.table = draft.table := by
  cases step <;> rfl

theorem table_performAll {registry : Registry} {draft final : TableDraft}
    {calls : List ColumnCall} {notices : List Notice}
    (performed : draft.performAll registry calls = (.ok final, notices)) :
    final.table = draft.table :=
  invariant_performAll (fun current => current.table = draft.table)
    (fun _ _ _ _ step same => step.table_eq.trans same) performed rfl

end TableDraft

end RankedSql
