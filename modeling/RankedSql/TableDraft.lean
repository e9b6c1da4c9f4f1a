import RankedSql.ColumnDefinition
import RankedSql.Registry
import RankedSql.Statement.Basic

/-!
# Table drafts

A table is drafted column by column. The draft holds the column definitions as ranked parts, the
facts about the columns, and the hooks that the columns ask for. Nothing reaches the registry
before the draft is complete; then all of it does.
-/

namespace RankedSql

/-- A table that is being defined: the parts that its statement is written from, the facts about its
columns, and the hooks that wait to be registered. -/
structure TableDraft where
  table : String
  parts : List Part
  columns : Columns
  hooks : List (Phase × Hook)

/-- A call of a definition. -/
inductive ColumnCall where
  | primaryKey (name : String)
  | uuid (name : String)
  | timestamps
  | plain (type : PlainType) (name : String) (options : ColumnOptions)
  /-- A referencing column; a lenient definition goes on without it when the reference is bad. -/
  | foreignKey (name reference : String) (options : ForeignKeyOptions) (lenient : Bool)
  /-- Gives the definition up, with a reference and a reason. -/
  | fail (reference reason : String)
  /-- Shows a summary of the draft. -/
  | inspect

/-- The primary key under its usual name. -/
def ColumnCall.id : ColumnCall := .primaryKey "id"

namespace TableDraft

/-- A draft without columns. -/
def empty (table : String) : TableDraft := ⟨table, [], .empty, []⟩

/-- Records a column with its definition in front of all others. -/
def addFront (draft : TableDraft) (name : String) (facts : ColumnFacts) (declaration : String) :
    TableDraft :=
  { draft with
    columns := draft.columns.insert name facts
    parts := .raw (columnDefinition name declaration) .target :: draft.parts }

/-- Records a column with its definition behind all others, at a rank. -/
def addBack (draft : TableDraft) (name : String) (facts : ColumnFacts) (declaration : String)
    (rank : Rank) : TableDraft :=
  { draft with
    columns := draft.columns.insert name facts
    parts := draft.parts ++ [.raw (columnDefinition name declaration) rank] }

/-- Notes a hook that a column asks for. -/
def addHook (draft : TableDraft) (phase : Phase) (hook : Hook) : TableDraft :=
  { draft with hooks := draft.hooks ++ [(phase, hook)] }

/-- Adds a numbered primary key, before all other columns. -/
def addPrimaryKey (draft : TableDraft) (name : String) : TableDraft :=
  draft.addFront name (.filledKey .integer) numberedKeyDeclaration

/-- Adds an identifier as primary key, before all other columns, which insertions fill in. -/
def addUuid (draft : TableDraft) (name : String) : TableDraft :=
  (draft.addFront name (.filledKey .uuid) identifierKeyDeclaration).addHook .beforeInsert
    (.generatedIdentifier name)

/-- Adds a column for a time that the engine fills in. -/
def addTimestamp (draft : TableDraft) (name : String) : TableDraft :=
  draft.addBack name .filledTime filledTimeDeclaration .target

/-- Adds the times of creation and of the last change, which updates refresh. -/
def addTimestamps (draft : TableDraft) : TableDraft :=
  ((draft.addTimestamp "created_at").addTimestamp "updated_at").addHook .beforeUpdate
    .touchUpdatedAt

/-- Adds a plain column. -/
def addPlain (draft : TableDraft) (type : PlainType) (name : String) (options : ColumnOptions) :
    TableDraft :=
  draft.addBack name (type.facts options) (type.declaration options) .target

/-- The columns that a reference to a table can name: those drafted so far for the table itself, and
the registered ones for any other. -/
def columnsOf? (draft : TableDraft) (registry : Registry) (table : String) : Option Columns :=
  if table = draft.table then some draft.columns else registry.table? table

/-- The column that a reference names. -/
def resolve (draft : TableDraft) (registry : Registry) (reference : String) :
    Except Error (ColumnPath × ColumnFacts) :=
  match ColumnPath.ofText? reference with
  | none => .error (.badReference reference .notAPath)
  | some path =>
      match draft.columnsOf? registry path.table with
      | none => .error (.badReference reference (.undefinedTable path.table))
      | some columns =>
          match columns.get? path.column with
          | none => .error (.badReference reference (.undefinedColumn path.table path.column))
          | some facts => .ok (path, facts)

/-- Adds a column of the type of the column it refers to. The reference is resolved before anything
is added, so the error comes without a draft, and the one at hand stays as it was. -/
def addForeignKey (draft : TableDraft) (registry : Registry) (name reference : String)
    (options : ForeignKeyOptions) : Except Error TableDraft :=
  match draft.resolve registry reference with
  | .error error => .error error
  | .ok (path, facts) =>
      .ok (draft.addBack name (options.facts facts.type)
        (foreignKeyDeclaration name path facts.type options) .filter)

/-- A one-line summary: the table, its columns, and the number of hooks. -/
def summary (draft : TableDraft) : String :=
  "Schema \x7b table: " ++ Text.displayed draft.table ++ ", columns: " ++
    Text.displayedList draft.columns.names ++ ", hooks: " ++ draft.hooks.length.repr ++ ", .. \x7d"

/-- Makes a call on a draft. Only a bad reference and a call that gives up can fail. -/
def perform (registry : Registry) (draft : TableDraft) :
    ColumnCall → Except Error (TableDraft × List Notice)
  | .primaryKey name => .ok (draft.addPrimaryKey name, [])
  | .uuid name => .ok (draft.addUuid name, [])
  | .timestamps => .ok (draft.addTimestamps, [])
  | .plain type name options => .ok (draft.addPlain type name options, [])
  | .foreignKey name reference options lenient =>
      match draft.addForeignKey registry name reference options with
      | .ok extended => .ok (extended, [])
      | .error error => if lenient then .ok (draft, [.tolerated error]) else .error error
  | .fail reference reason => .error (.badReference reference (.stated reason))
  | .inspect => .ok (draft, [.shown draft.table draft.summary])

/-- Takes steps up to the first failure, with the notices on the way. -/
def performAll (registry : Registry) :
    TableDraft → List ColumnCall → Except Error TableDraft × List Notice
  | draft, [] => (.ok draft, [])
  | draft, call :: rest =>
      match draft.perform registry call with
      | .error error => (.error error, [])
      | .ok (next, notices) =>
          let (result, later) := performAll registry next rest
          (result, notices ++ later)

/-- The definitions in the order of the text. -/
def definitions (draft : TableDraft) : List String :=
  ((sortByRank draft.parts).map Part.text).filter (· != "")

/-- The statement that creates the table, with single spaces between its words. -/
def sql (draft : TableDraft) : String :=
  Text.singleSpaced
    ("CREATE TABLE " ++ draft.table ++ " (" ++ Text.joinWith ", " draft.definitions ++ ")")

end TableDraft

/-- Makes a finished draft known: the table, its columns, and its hooks. -/
def Registry.commit (registry : Registry) (draft : TableDraft) : Registry :=
  let withColumns := (registry.defineTable draft.table).registerColumns draft.table
    draft.columns.entries
  draft.hooks.foldl (fun registry entry => registry.registerHook entry.1 draft.table entry.2)
    withColumns

end RankedSql
