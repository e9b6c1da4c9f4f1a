import RankedSql.TableDraft

/-!
# Defining tables

The two ways to define a table: from a list of columns with free-form declarations, and through a
draft. Both make the table known and leave the `CREATE TABLE` statement as the literal of the
statement at hand. A draft that fails leaves everything as it was.
-/

namespace RankedSql

/-- The registry and the statement after an attempt to define a table, with the error if it failed
and the notices on the way. -/
structure Definition where
  registry : Registry
  statement : Statement
  failure : Option Error
  notices : List Notice

/-- The statement that creates a table from declarations, which are taken as they are. -/
def declaredSql (table : String) (columns : List (String × String)) : String :=
  "CREATE TABLE " ++ table ++ " (" ++
    Text.joinWith ", " (columns.map fun entry => columnDefinition entry.1 entry.2) ++ ")"

/-- The registry with a table and the facts that its declarations show. -/
def Registry.registerDeclared (registry : Registry) (table : String)
    (columns : List (String × String)) : Registry :=
  (registry.defineTable table).registerColumns table
    (columns.map fun entry => (entry.1, ColumnFacts.ofDeclaration entry.2))

namespace Statement

/-- Defines a table from columns with declarations. -/
def createTable (statement : Statement) (registry : Registry) (table : String)
    (columns : List (String × String)) : Definition :=
  let defined := registry.registerDeclared table columns
  { registry := defined
    statement := statement.withLiteral (declaredSql table columns)
    failure := none
    notices := defined.announce table }

/-- Defines a table through a draft. The calls are made on the draft alone. The registry and the
statement change only once all of them have succeeded, so a definition that fails has changed
neither. -/
def createTableWith (statement : Statement) (registry : Registry) (table : String)
    (calls : List ColumnCall) : Definition :=
  match (TableDraft.empty table).performAll registry calls with
  | (.error error, notices) => ⟨registry, statement, some error, notices⟩
  | (.ok draft, notices) =>
      let defined := registry.commit draft
      { registry := defined
        statement := statement.withLiteral draft.sql
        failure := none
        notices := notices ++ defined.announce table }

end Statement

end RankedSql
