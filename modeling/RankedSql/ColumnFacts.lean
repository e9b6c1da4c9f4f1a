import RankedSql.ColumnType

/-!
# Facts about columns

What is recorded about a column when its table is defined: its type, the kind of value it holds,
whether it accepts NULL, whether the engine fills it when it is left out, and whether it is the
primary key.
-/

namespace RankedSql

/-- The recorded facts about one column. -/
structure ColumnFacts where
  type : ColumnType
  host : HostType
  nullable : Bool
  hasDefault : Bool
  primaryKey : Bool
  deriving DecidableEq

namespace ColumnFacts

/-- A column that accepts no NULL, has no default and is no key. -/
def ofType (type : ColumnType) : ColumnFacts := ⟨type, type.host, false, false, false⟩

/-- The facts with another word on whether the column accepts NULL. -/
def withNullable (facts : ColumnFacts) (nullable : Bool) : ColumnFacts :=
  { facts with nullable := nullable }

/-- The facts with another word on whether the column has a default. -/
def withDefault (facts : ColumnFacts) (hasDefault : Bool) : ColumnFacts :=
  { facts with hasDefault := hasDefault }

/-- The same column as primary key, which accepts no NULL. -/
def asPrimaryKey (facts : ColumnFacts) : ColumnFacts :=
  { facts with primaryKey := true, nullable := false }

/-- The facts that a free-form declaration shows, in any ASCII case. -/
def ofDeclaration (declaration : String) : ColumnFacts :=
  let capitals := (Text.upperAscii declaration).toList
  let primaryKey := Text.mentions "PRIMARY KEY".toList capitals
  let facts :=
    ((ofType (.ofDeclaration declaration)).withNullable
      (!Text.mentions "NOT NULL".toList capitals && !primaryKey)).withDefault
      (Text.mentions "DEFAULT".toList capitals || Text.mentions "AUTOINCREMENT".toList capitals)
  if primaryKey then facts.asPrimaryKey else facts

/-- The facts as a document, each under its key. -/
def json (facts : ColumnFacts) : Json :=
  .object [("sql_type", facts.type.json), ("inferred_type", .text facts.host.name),
    ("nullable", .bool facts.nullable), ("has_default", .bool facts.hasDefault),
    ("is_primary", .bool facts.primaryKey)]

end ColumnFacts

end RankedSql
