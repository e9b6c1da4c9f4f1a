import RankedSql.Proofs.DraftedHooks
import RankedSql.Proofs.TableCalls

/-!
# What a closed statement leaves behind

A closing step takes the pending statement off the handle before anything can go wrong with it, so
the handle is the same whether the statement is written, refused by the guard, or refused by the
engine once it is sent (`Database.step_closing`). The engine answers after that, and no answer
reaches the handle.

The one thing that outlasts a statement is the supply of identifiers: its hooks may have drawn some,
so the next ones come later in the supply (`Registry.leaves_fire`). Composing changes nothing but
the pending statement, and a definition or a drop changes anything but it. So what follows a closing
step is the same whatever was composed before it, up to the identifiers drawn (`run_after_closing`).
-/

namespace RankedSql

/-- A step that closes the pending statement. -/
inductive Closing where
  | renderSql
  | run
  | execute

/-- The step on a handle that closes its pending statement. -/
def Closing.step : Closing → DatabaseStep
  | .renderSql => .renderSql
  | .run => .run
  | .execute => .execute

/-! ## Identifiers drawn -/

namespace IdentifierSupply

/-- A supply after some of its identifiers are drawn. -/
def Leaves (supply left : IdentifierSupply) : Prop := ∃ count, left = supply.drop count

theorem Leaves.refl (supply : IdentifierSupply) : supply.Leaves supply := ⟨0, rfl⟩

theorem leaves_rest (supply : IdentifierSupply) : supply.Leaves supply.rest := ⟨1, rfl⟩

theorem Leaves.trans {first second third : IdentifierSupply} (left : first.Leaves second)
    (right : second.Leaves third) : first.Leaves third := by
  rcases left with ⟨count, rfl⟩
  rcases right with ⟨more, rfl⟩
  refine ⟨more + count, ?_⟩
  simp only [drop, Nat.add_assoc]

end IdentifierSupply

theorem Hook.leaves_run (hook : Hook) (state : HookState) :
    state.identifiers.Leaves (hook.run state).identifiers := by
  cases hook with
  | generatedIdentifier column =>
      simp only [Hook.run]
      split
      · split
        · exact .refl _
        · exact state.identifiers.leaves_rest
      · exact .refl _
  | touchUpdatedAt | report | amend => exact .refl _

theorem leaves_runHooks (hooks : List Hook) (state : HookState) :
    state.identifiers.Leaves (runHooks hooks state).identifiers := by
  induction hooks generalizing state with
  | nil => exact .refl _
  | cons hook rest ih => exact (hook.leaves_run state).trans (ih (hook.run state))

namespace Registry

variable (registry : Registry)

theorem leaves_runFieldHooks (phase : Phase) (table : String) (fields : List String)
    (state : HookState) :
    state.identifiers.Leaves (registry.runFieldHooks phase table fields state).identifiers := by
  induction fields generalizing state with
  | nil => exact .refl _
  | cons field rest ih => exact (leaves_runHooks _ state).trans (ih _)

theorem leaves_runPhase (phase : Phase) (table : String) (state : HookState) :
    state.identifiers.Leaves (registry.runPhase phase table state).identifiers := by
  have table_hooks := leaves_runHooks (registry.hooksFor phase table) state
  simp only [runPhase]
  split
  · exact table_hooks.trans (registry.leaves_runFieldHooks phase table _ _)
  · exact table_hooks

/-- The hooks of a statement draw identifiers in order, and only those. -/
theorem leaves_fire (supply : IdentifierSupply) (statement : Statement) :
    supply.Leaves (registry.fire supply statement).identifiers := by
  unfold fire
  split
  · exact registry.leaves_runPhase _ _ ⟨statement.parts, supply, []⟩
  · exact .refl _

theorem fire_empty (supply : IdentifierSupply) :
    registry.fire supply .empty = ⟨none, .empty, supply, []⟩ := rfl

end Registry

/-! ## Handles after steps -/

namespace Database

/-- The handle that a run of steps leaves. -/
def after (database : Database) (steps : List DatabaseStep) : Database :=
  steps.foldl (fun database step => (database.step step).database) database

theorem after_append (database : Database) (first second : List DatabaseStep) :
    database.after (first ++ second) = (database.after first).after second :=
  List.foldl_append

theorem length_run (database : Database) (steps : List DatabaseStep) :
    (database.run steps).length = steps.length := by
  induction steps generalizing database with
  | nil => rfl
  | cons first rest ih => rw [run, List.length_cons, ih, List.length_cons]

theorem run_append (database : Database) (first second : List DatabaseStep) :
    database.run (first ++ second) = database.run first ++ (database.after first).run second := by
  induction first generalizing database with
  | nil => rfl
  | cons step rest ih => simp only [List.cons_append, run, ih, after, List.foldl_cons]

/-- What follows some steps is a run from the handle that they leave. -/
theorem drop_run_append (database : Database) (first second : List DatabaseStep) :
    (database.run (first ++ second)).drop first.length = (database.after first).run second := by
  rw [run_append, List.drop_left' (database.length_run first)]

/-- Composing changes the pending statement only, also where it fails. -/
theorem exists_after_edits (database : Database) (edits : List Edit) :
    ∃ pending, database.after (edits.map .edit) = { database with pending } := by
  induction edits generalizing database with
  | nil => exact ⟨database.pending, rfl⟩
  | cons edit rest ih =>
      have first :
          ∃ pending, (database.step (.edit edit)).database = { database with pending } := by
        simp only [step]
        split
        · exact ⟨_, rfl⟩
        · exact ⟨database.pending, rfl⟩
      rcases first with ⟨pending, edited⟩
      rcases ih { database with pending } with ⟨final, later⟩
      refine ⟨final, ?_⟩
      rw [List.map_cons, after, List.foldl_cons, edited]
      exact later

/-- A closing step clears the pending statement and draws identifiers, whatever comes of it. -/
theorem step_closing (database : Database) (closing : Closing) :
    (database.step closing.step).database =
      { database with
        pending := .empty
        identifiers := (database.registry.fire database.identifiers database.pending).identifiers
      } := by
  have written : database.renderSql.database =
      { database with
        pending := .empty
        identifiers := (database.registry.fire database.identifiers database.pending).identifiers
      } := by
    simp only [renderSql]
    split <;> rfl
  have sent : database.sendPending.database = database.renderSql.database := by
    simp only [sendPending]
    split <;> rfl
  cases closing with
  | renderSql => exact written
  | run | execute => exact sent.trans written

/-- With nothing pending, a closing step changes nothing. -/
theorem step_closing_of_empty {database : Database} (none : database.pending = .empty)
    (closing : Closing) : (database.step closing.step).database = database := by
  rw [step_closing, none, Registry.fire_empty, ← none]

/-- No statement leaks into the next one. After a closing step, whatever was composed before it and
whatever came of it, the steps that follow come out as they do after the same closing step with
nothing composed: equal if the identifiers that the closed statement drew are left out, and equal
with any identifiers that both are given. And no definition or drop touches the pending statement,
whatever comes of it. -/
theorem run_after_closing (database : Database) (edits : List Edit) (closing : Closing) :
    let bare : Database := { database with pending := .empty }
    (∃ drawn, ∀ later,
      (database.run (edits.map .edit ++ closing.step :: later)).drop (edits.length + 1) =
        (({ bare with identifiers := database.identifiers.drop drawn } : Database).run
          (closing.step :: later)).drop 1) ∧
    (∀ fresh later,
      ({ database.after (edits.map .edit ++ [closing.step]) with
          identifiers := fresh } : Database).run later =
        ({ bare.after [closing.step] with identifiers := fresh } : Database).run later) ∧
    (∀ call : TableCall, (database.step call.step).database.pending = database.pending) ∧
    ∀ table, (database.step (.dropTable table)).database.pending = database.pending := by
  intro bare
  rcases database.exists_after_edits edits with ⟨pending, composed⟩
  have closed : database.after (edits.map .edit ++ [closing.step]) =
      { bare with
        identifiers := (database.registry.fire database.identifiers pending).identifiers } := by
    rw [after_append, composed]
    exact step_closing _ closing
  have bareClosed (supply : IdentifierSupply) :
      (({ bare with identifiers := supply } : Database).step closing.step).database =
        { bare with identifiers := supply } := step_closing_of_empty rfl closing
  refine ⟨?_, ?_, ?_, ?_⟩
  · rcases database.registry.leaves_fire database.identifiers pending with ⟨drawn, left⟩
    refine ⟨drawn, fun later => ?_⟩
    have steps : edits.map .edit ++ closing.step :: later =
        (edits.map .edit ++ [closing.step]) ++ later := by simp
    have count : (edits.map DatabaseStep.edit ++ [closing.step]).length = edits.length + 1 := by
      simp
    rw [steps, ← count, drop_run_append, closed, left, run, List.drop_one, List.tail_cons,
      bareClosed]
  · intro fresh later
    have bareAfter : bare.after [closing.step] = bare := bareClosed database.identifiers
    rw [closed, bareAfter]
  · intro call
    rw [(database.database_step call).1]
  · intro table
    simp only [step, submit]
    split <;> rfl

/-- A row that the guard refuses is gone like any other statement, with the identifier that was
drawn for it. The next row takes the identifier behind that one. -/
theorem run_after_closing_of_refused_row :
    let database := (fresh ⟨Nat.repr⟩).after
      [.createTableWith "notes" [.uuid "id"],
        .edit (.call (.insert "notes" [("body", .text "union")]))]
    let bare : Database := { database with pending := .empty }
    let edits := [Edit.call (.join "notes" "users.id" {})]
    let later : List DatabaseStep :=
      [.edit (.call (.insert "notes" [("body", .text "kept")])), .execute]
    let outcomes := database.run (edits.map .edit ++ Closing.run.step :: later)
    outcomes.map (·.result.toOption) =
        [none, none, some none,
          some (some "INSERT INTO notes (body, id) VALUES (\"kept\", \"1\")")] ∧
      (∃ drawn, outcomes.drop 2 =
        (({ bare with identifiers := database.identifiers.drop drawn } : Database).run
          (Closing.run.step :: later)).drop 1) ∧
      database.pending ≠ .empty ∧
      (database.step (.dropTable "notes")).database.pending = database.pending := by
  intro database bare edits later outcomes
  rcases run_after_closing database edits .run with ⟨⟨drawn, sameOutcomes⟩, _, _, kept⟩
  exact ⟨by decide +kernel, ⟨drawn, sameOutcomes later⟩, by decide +kernel, kept "notes"⟩

end Database

end RankedSql
