import RankedSql.ColumnFacts
import RankedSql.ColumnPath
import RankedSql.Value

/-!
# Column definitions

How a column is written in the statement that creates its table: its name, then a declaration of
its type and of what else holds of it. For each kind of column this module gives the declaration
and the facts that are recorded about the column.
-/

namespace RankedSql

/-- A column as it stands in the statement that creates its table. -/
def columnDefinition (name declaration : String) : String := name ++ " " ++ declaration

/-! ## Keys and times -/

/-- The facts about a key that the engine or a hook fills in. -/
def ColumnFacts.filledKey (type : ColumnType) : ColumnFacts :=
  ((ofType type).withDefault true).asPrimaryKey

/-- The facts about a time that the engine fills in. -/
def ColumnFacts.filledTime : ColumnFacts := (ofType .timestamp).withDefault true

/-- The declaration of a key that the engine numbers. -/
def numberedKeyDeclaration : String := "INTEGER PRIMARY KEY AUTOINCREMENT"

/-- The declaration of a key that a hook fills with a fresh identifier. -/
def identifierKeyDeclaration : String := "UUID PRIMARY KEY"

/-- The declaration of a time that the engine fills in. -/
def filledTimeDeclaration : String := "TIMESTAMP DEFAULT CURRENT_TIMESTAMP NOT NULL"

/-! ## Plain columns -/

/-- The types of columns that are no key and refer to nothing. -/
inductive PlainType where
  | text
  | integer
  | boolean
  | float
  | date
  | datetime
  deriving DecidableEq

/-- The type that the column is declared with. -/
def PlainType.columnType : PlainType → ColumnType
  | .text => .text
  | .integer => .integer
  | .boolean => .boolean
  | .float => .real
  | .date => .date
  | .datetime => .datetime

/-- What else holds of a plain column. Unless it is said otherwise, the column refuses NULL. -/
structure ColumnOptions where
  default : Option Value := none
  unique : Bool := false
  nullable : Bool := false

namespace ColumnOptions

/-- The words for the default, with a space before them. -/
def defaultSql (options : ColumnOptions) (type : ColumnType) : String :=
  match options.default with
  | some value => " DEFAULT " ++ value.defaultOperand type.quotesDefault
  | none => ""

/-- The word for distinct values, with a space before it. -/
def uniqueSql (options : ColumnOptions) : String := if options.unique then " UNIQUE" else ""

/-- The words for or against NULL, with a space before them. -/
def nullableSql (options : ColumnOptions) : String :=
  if options.nullable then " NULL" else " NOT NULL"

end ColumnOptions

/-- The declaration of a plain column: its type, its default, and what else holds of it. -/
def PlainType.declaration (type : PlainType) (options : ColumnOptions) : String :=
  type.columnType.sql ++ options.defaultSql type.columnType ++ options.uniqueSql ++
    options.nullableSql

/-- The facts about a plain column that its type and its options give. -/
def PlainType.facts (type : PlainType) (options : ColumnOptions) : ColumnFacts :=
  ((ColumnFacts.ofType type.columnType).withNullable options.nullable).withDefault
    options.default.isSome

/-! ## Referencing columns -/

/-- What the engine does to a referencing row. -/
inductive ForeignKeyAction where
  | noAction
  | restrict
  | cascade
  | setNull
  | setDefault
  deriving DecidableEq

/-- The words for an action. -/
def ForeignKeyAction.sql : ForeignKeyAction → String
  | .noAction => "NO ACTION"
  | .restrict => "RESTRICT"
  | .cascade => "CASCADE"
  | .setNull => "SET NULL"
  | .setDefault => "SET DEFAULT"

/-- What happens to a referencing row, and whether its column is recorded as accepting NULL. -/
structure ForeignKeyOptions where
  onDelete : Option ForeignKeyAction := none
  onUpdate : Option ForeignKeyAction := none
  nullable : Bool := false
  deriving DecidableEq

namespace ForeignKeyOptions

/-- The words for an action on an event, with a space before them. -/
def actionSql (event : String) : Option ForeignKeyAction → String
  | some action => " ON " ++ event ++ " " ++ action.sql
  | none => ""

/-- The words for both actions. -/
def sql (options : ForeignKeyOptions) : String :=
  actionSql "DELETE" options.onDelete ++ actionSql "UPDATE" options.onUpdate

end ForeignKeyOptions

/-- The declaration of a column that refers to another, and after a comma the constraint. -/
def foreignKeyDeclaration (name : String) (path : ColumnPath) (type : ColumnType)
    (options : ForeignKeyOptions) : String :=
  type.sql ++ ", FOREIGN KEY (" ++ name ++ ") REFERENCES " ++ path.table ++ "(" ++ path.column ++
    ")" ++ options.sql

/-- The facts about a referencing column, of the type of the column it refers to. -/
def ForeignKeyOptions.facts (options : ForeignKeyOptions) (type : ColumnType) : ColumnFacts :=
  (ColumnFacts.ofType type).withNullable options.nullable

end RankedSql
