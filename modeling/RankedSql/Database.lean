import RankedSql.Statement.Call
import RankedSql.Statement.Firing
import RankedSql.TableDefinition

/-!
# The database

A database handle owns one pending statement and the registry. The pending statement is written
after its hooks have run, passes the guard, and only then goes to the engine; the handle is left
without a pending statement, whatever comes of it. Tables are defined and dropped at once, apart
from the pending statement.
-/

namespace RankedSql

/-- A handle: the pending statement, what is known, and the identifiers still to be drawn. -/
structure Database where
  pending : Statement
  registry : Registry
  identifiers : IdentifierSupply

/-- What a step comes to: the handle after it, the statement that it wrote or the error, the
statements that went to the engine, and the notices. -/
structure Outcome where
  database : Database
  result : Except Error (Option String)
  sent : List String
  notices : List Notice

/-- A direct change of the registry. -/
inductive RegistryChange where
  | defineTable (table : String)
  | registerColumn (table column : String) (facts : ColumnFacts)
  | registerHook (phase : Phase) (key : String) (hook : Hook)
  | observe (label : String)
  /-- Announces a table as it is now. -/
  | announce (table : String)

/-- The registry after a direct change, with what the change has announced. -/
def Registry.change (registry : Registry) : RegistryChange → Registry × List Notice
  | .defineTable table => (registry.defineTable table, [])
  | .registerColumn table column facts => (registry.registerColumn table column facts, [])
  | .registerHook phase key hook => (registry.registerHook phase key hook, [])
  | .observe label => (registry.observe label, [])
  | .announce table => (registry, registry.announce table)

/-- A step on a database handle. -/
inductive DatabaseStep where
  | edit (edit : Edit)
  | change (change : RegistryChange)
  | createTable (table : String) (columns : List (String × String))
  | createTableWith (table : String) (calls : List ColumnCall)
  | dropTable (table : String)
  /-- Writes the pending statement without sending it. -/
  | renderSql
  /-- Sends the pending statement and asks for rows. -/
  | run
  /-- Sends the pending statement and asks for the number of rows. -/
  | execute

namespace Database

/-- A handle over a new database: nothing is pending and nothing is known. -/
def fresh (identifiers : IdentifierSupply) : Database := ⟨.empty, .empty, identifiers⟩

/-- Sends a written statement if the guard accepts it. -/
def submit (database : Database) (sql : String) (notices : List Notice) : Outcome :=
  match Guard.validate sql with
  | .ok () => ⟨database, .ok (some sql), [sql], notices⟩
  | .error error => ⟨database, .error error, [], notices⟩

/-- Writes the pending statement after its hooks, and clears it. -/
def renderSql (database : Database) : Outcome :=
  let fired := database.registry.fire database.identifiers database.pending
  let sql := fired.statement.render
  let cleared := { database with pending := .empty, identifiers := fired.identifiers }
  match Guard.validate sql with
  | .ok () => ⟨cleared, .ok (some sql), [], fired.notices⟩
  | .error error => ⟨cleared, .error error, [], fired.notices⟩

/-- Writes the pending statement and sends it. -/
def sendPending (database : Database) : Outcome :=
  let outcome := database.renderSql
  match outcome.result with
  | .ok (some sql) => { outcome with sent := [sql] }
  | _ => outcome

/-- Sends the statement of a table definition, unless the definition failed. -/
def applyDefinition (database : Database) (definition : Definition) : Outcome :=
  let known := { database with registry := definition.registry }
  match definition.failure with
  | some error => ⟨known, .error error, [], definition.notices⟩
  | none => known.submit definition.statement.render definition.notices

/-- What a step on a handle comes to. A failed edit leaves the handle as it was. -/
def step (database : Database) : DatabaseStep → Outcome
  | .edit edit =>
      match database.pending.edit database.registry edit with
      | .ok pending => ⟨{ database with pending }, .ok none, [], []⟩
      | .error error => ⟨database, .error error, [], []⟩
  | .change change =>
      let (registry, notices) := database.registry.change change
      ⟨{ database with registry }, .ok none, [], notices⟩
  | .createTable table columns =>
      database.applyDefinition (Statement.empty.createTable database.registry table columns)
  | .createTableWith table calls =>
      database.applyDefinition (Statement.empty.createTableWith database.registry table calls)
  | .dropTable table =>
      database.submit (Statement.empty.push (.ofClause (.dropTable table))).render []
  | .renderSql => database.renderSql
  | .run => database.sendPending
  | .execute => database.sendPending

/-- The outcomes of a run of steps, each from the handle that the step before left. -/
def run (database : Database) : List DatabaseStep → List Outcome
  | [] => []
  | first :: rest =>
      let outcome := database.step first
      outcome :: outcome.database.run rest

end Database

end RankedSql
