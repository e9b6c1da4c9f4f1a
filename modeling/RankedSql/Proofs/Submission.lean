import Mathlib.Data.List.Forall2
import RankedSql.Database

/-!
# What reaches the engine

A step of a handle composes at most one statement: a closing step writes the pending statement after
its hooks, and a definition or a drop writes a statement of its own. Only a statement that the guard
accepts is handed on (`sent_step`), so a step that fails hands on nothing.

A run is followed through the handles that it visits (`Database.visits`). Since every fact above
holds of a step from any handle, it holds at every point of every run (`guarded_run`), whatever the
hooks do and in whatever order the steps come.
-/

namespace RankedSql

/-- Whether a step is there to hand a statement to the engine. -/
def DatabaseStep.submits : DatabaseStep → Bool
  | .run | .execute | .createTable _ _ | .createTableWith _ _ | .dropTable _ => true
  | .edit _ | .change _ | .renderSql => false

/-- The text that a table definition is written as, unless the definition fails. -/
def Definition.sql? (definition : Definition) : Option String :=
  match definition.failure with
  | some _ => none
  | none => some definition.statement.render

namespace Database

/-- The pending statement after its hooks, written out. -/
def pendingSql (database : Database) : String :=
  (database.registry.fire database.identifiers database.pending).statement.render

/-- The statement that a step composes for the engine: the pending one after its hooks for the two
closing steps, and for definitions and drops one of their own. -/
def composed? (database : Database) : DatabaseStep → Option String
  | .run | .execute => some database.pendingSql
  | .createTable table columns =>
      (Statement.empty.createTable database.registry table columns).sql?
  | .createTableWith table calls =>
      (Statement.empty.createTableWith database.registry table calls).sql?
  | .dropTable table => some (Statement.empty.push (.ofClause (.dropTable table))).render
  | .edit _ | .change _ | .renderSql => none

/-- The handles that a run visits, each with the step that is taken from it. -/
def visits (database : Database) : List DatabaseStep → List (Database × DatabaseStep)
  | [] => []
  | first :: rest => (database, first) :: (database.step first).database.visits rest

end Database

/-- A step hands only what it composed and what the guard accepts to the engine: nothing if it fails
or only writes, and one statement if it succeeds in what it is there for. -/
structure Guarded (database : Database) (step : DatabaseStep) (outcome : Outcome) : Prop where
  safe : ∀ sql ∈ outcome.sent, Guard.isSafe sql = true
  composed : ∀ sql ∈ outcome.sent, database.composed? step = some sql
  failed : ∀ error, outcome.result = .error error → outcome.sent = []
  succeeded : step.submits = true → ∀ written, outcome.result = .ok written →
    ∃ sql, outcome.sent = [sql] ∧ database.composed? step = some sql
  silent : step.submits = false → outcome.sent = []

/-- An attempt to hand on a statement: it is accepted and handed on, or the attempt fails, for want
of a statement or of a safe one, and nothing is. -/
inductive Attempt (sql? : Option String) (outcome : Outcome) : Prop where
  | accepted (sql : String) (composed : sql? = some sql) (safe : Guard.isSafe sql = true)
      (result : outcome.result = .ok (some sql)) (sent : outcome.sent = [sql])
  | refused (error : Error) (rejected : ∀ sql ∈ sql?, Guard.isSafe sql = false)
      (result : outcome.result = .error error) (sent : outcome.sent = [])

theorem Guard.isSafe_of_validate_error {sql : String} {error : Error}
    (rejected : validate sql = .error error) : isSafe sql = false := by
  cases safe : isSafe sql with
  | false => rfl
  | true =>
      rw [validate_eq_ok_iff.2 safe] at rejected
      cases rejected

namespace Database

/-! ## One step -/

theorem attempt_submit (database : Database) (sql : String) (notices : List Notice) :
    Attempt (some sql) (database.submit sql notices) := by
  unfold submit
  split
  · next accepted => exact .accepted sql rfl (Guard.validate_eq_ok_iff.1 accepted) rfl rfl
  · next error rejected =>
      refine .refused error ?_ rfl rfl
      rintro _ ⟨⟩
      exact Guard.isSafe_of_validate_error rejected

/-- A definition that fails is no statement, and one that does not fail is guarded. -/
theorem attempt_applyDefinition (database : Database) (definition : Definition) :
    Attempt definition.sql? (database.applyDefinition definition) := by
  unfold applyDefinition Definition.sql?
  cases definition.failure with
  | some error => exact .refused error (fun _ none => nomatch none) rfl rfl
  | none => exact attempt_submit _ _ _

theorem sent_renderSql (database : Database) : database.renderSql.sent = [] := by
  simp only [renderSql]
  split <;> rfl

/-- Writing the pending statement gives the text after its hooks, if that is safe. -/
theorem result_renderSql (database : Database) :
    (Guard.isSafe database.pendingSql = true ∧
      database.renderSql.result = .ok (some database.pendingSql)) ∨
      Guard.isSafe database.pendingSql = false ∧
        ∃ error, database.renderSql.result = .error error := by
  unfold renderSql pendingSql
  simp only
  split
  · next accepted => exact .inl ⟨Guard.validate_eq_ok_iff.1 accepted, rfl⟩
  · next error rejected =>
      exact .inr ⟨Guard.isSafe_of_validate_error rejected, error, rfl⟩

/-- What is sent is the very text that was guarded. -/
theorem attempt_sendPending (database : Database) :
    Attempt (some database.pendingSql) database.sendPending := by
  unfold sendPending
  rcases database.result_renderSql with ⟨safe, written⟩ | ⟨rejected, error, refused⟩
  · simp only [written]
    exact .accepted database.pendingSql rfl safe rfl rfl
  · simp only [refused]
    refine .refused error ?_ refused database.sent_renderSql
    rintro _ ⟨⟩
    exact rejected

theorem guarded_of_attempt {database : Database} {step : DatabaseStep} {outcome : Outcome}
    (submits : step.submits = true) (attempt : Attempt (database.composed? step) outcome) :
    Guarded database step outcome := by
  cases attempt with
  | accepted sql composed safe result sent =>
      refine ⟨?_, ?_, ?_, ?_, ?_⟩
      · simpa [sent] using safe
      · simpa [sent] using composed
      · simp [result]
      · exact fun _ _ _ => ⟨sql, sent, composed⟩
      · simp [submits]
  | refused error rejected result sent =>
      refine ⟨?_, ?_, ?_, ?_, ?_⟩ <;> simp [sent, result]

theorem guarded_of_silent {database : Database} {step : DatabaseStep} {outcome : Outcome}
    (silent : step.submits = false) (sent : outcome.sent = []) :
    Guarded database step outcome := by
  refine ⟨?_, ?_, ?_, ?_, ?_⟩ <;> simp [sent, silent]

theorem composed?_of_not_submits {step : DatabaseStep} (silent : step.submits = false)
    (database : Database) : database.composed? step = none := by
  cases step <;> first | rfl | cases silent

theorem attempt_step {step : DatabaseStep} (submits : step.submits = true)
    (database : Database) : Attempt (database.composed? step) (database.step step) := by
  cases step with
  | run | execute => exact database.attempt_sendPending
  | createTable table columns =>
      exact database.attempt_applyDefinition
        (Statement.empty.createTable database.registry table columns)
  | createTableWith table calls =>
      exact database.attempt_applyDefinition
        (Statement.empty.createTableWith database.registry table calls)
  | dropTable table => exact database.attempt_submit _ []
  | edit | change | renderSql => cases submits

theorem sent_of_not_submits {step : DatabaseStep} (silent : step.submits = false)
    (database : Database) : (database.step step).sent = [] := by
  cases step with
  | renderSql => exact database.sent_renderSql
  | change => rfl
  | edit edit =>
      simp only [Database.step]
      split <;> rfl
  | _ => cases silent

/-- A step from any handle sends the statement that it composed, if it composed a safe one. -/
theorem sent_step (database : Database) (step : DatabaseStep) :
    (database.step step).sent = ((database.composed? step).filter Guard.isSafe).toList := by
  cases submits : step.submits with
  | false => simp [sent_of_not_submits submits, composed?_of_not_submits submits]
  | true =>
      cases attempt_step submits database with
      | accepted sql composed safe _ sent => simp [sent, composed, Option.filter, safe]
      | refused _ rejected _ sent =>
          cases composed : database.composed? step with
          | none => simp [sent]
          | some sql => simp [sent, Option.filter, rejected sql composed]

theorem guarded_step (database : Database) (step : DatabaseStep) :
    Guarded database step (database.step step) := by
  cases submits : step.submits with
  | false => exact guarded_of_silent submits (sent_of_not_submits submits database)
  | true => exact guarded_of_attempt submits (attempt_step submits database)

/-! ## Runs -/

/-- Nothing reaches the engine unguarded: at every point of a run, whatever the step and the handle
that it is taken from, the step hands on what it composed itself and what the guard accepts, or
nothing. So a run sends the safe ones among the statements that its steps composed, in order. -/
theorem guarded_run (database : Database) (steps : List DatabaseStep) :
    List.Forall₂ (fun visit outcome => Guarded visit.1 visit.2 outcome)
      (database.visits steps) (database.run steps) ∧
    (database.run steps).flatMap Outcome.sent =
      (database.visits steps).flatMap fun visit =>
        ((visit.1.composed? visit.2).filter Guard.isSafe).toList := by
  induction steps generalizing database with
  | nil => exact ⟨.nil, rfl⟩
  | cons first rest ih =>
      rcases ih (database.step first).database with ⟨guardedRest, sentRest⟩
      refine ⟨.cons (database.guarded_step first) guardedRest, ?_⟩
      rw [run, visits, List.flatMap_cons, List.flatMap_cons, sentRest, database.sent_step first]

/-- A literal with a second statement in it is the pending statement of the second `run`. It is
composed and refused, and the steps before and behind it send what they composed. -/
theorem guarded_run_of_chained_literal :
    let database := fresh ⟨Nat.repr⟩
    let steps : List DatabaseStep :=
      [.createTableWith "users" [.id], .edit (.call (.select [])), .edit (.call (.source "users")),
        .run, .edit (.setLiteral "SELECT 1; DROP TABLE users"), .run, .renderSql,
        .dropTable "logs"]
    List.Forall₂ (fun visit outcome => Guarded visit.1 visit.2 outcome)
        (database.visits steps) (database.run steps) ∧
      ((database.visits steps).filterMap fun visit => visit.1.composed? visit.2) =
        ["CREATE TABLE users (id INTEGER PRIMARY KEY AUTOINCREMENT)", "SELECT * FROM users",
          "SELECT 1; DROP TABLE users", "DROP TABLE logs"] ∧
      (database.run steps).flatMap Outcome.sent =
        ["CREATE TABLE users (id INTEGER PRIMARY KEY AUTOINCREMENT)", "SELECT * FROM users",
          "DROP TABLE logs"] := by
  intro database steps
  rcases guarded_run database steps with ⟨guarded, sent⟩
  exact ⟨guarded, by decide +kernel, sent.trans (by decide +kernel)⟩

end Database

end RankedSql
